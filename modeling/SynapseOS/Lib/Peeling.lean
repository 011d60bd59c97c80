import Mathlib.Data.Fintype.Card
import Mathlib.Order.WellFounded
import Mathlib.Tactic

/-! Peeling a finite graph: in each round every node goes whose needs have all gone before. -/

namespace SynapseOS.Peeling

section Cycles

variable {α : Type}

def Needed (needs : α → Finset α) (first second : α) : Prop := first ∈ needs second

theorem acc_acyclic {before : α → α → Prop} {node : α}
    (reached : Acc before node) : ¬ before node node := by
  induction reached with
  | intro node _ ih => exact fun cycle => ih node cycle cycle

theorem exists_first {needs : α → Finset α} {remaining : Finset α} (some_ : remaining.Nonempty)
    (acyclic : ∀ node ∈ remaining, ¬ Relation.TransGen (Needed needs) node node) :
    ∃ node ∈ remaining, ∀ need ∈ needs node, need ∉ remaining := by
  let before : {node // node ∈ remaining} → {node // node ∈ remaining} → Prop :=
    fun first second => Relation.TransGen (Needed needs) first.1 second.1
  have irreflexive : Std.Irrefl before := ⟨fun node cycle => acyclic node.1 node.2 cycle⟩
  have transitive : IsTrans _ before := ⟨fun _ _ _ first second => first.trans second⟩
  have founded : WellFounded before := Finite.wellFounded_of_trans_of_irrefl before
  obtain ⟨start, there⟩ := some_
  obtain ⟨least, -, minimal⟩ := founded.has_min Set.univ ⟨⟨start, there⟩, trivial⟩
  refine ⟨least.1, least.2, fun need needed among => ?_⟩
  exact minimal ⟨need, among⟩ trivial (.single needed)

end Cycles

variable {α : Type} [DecidableEq α] (needs : α → Finset α)

def ready (resolved remaining : Finset α) : Finset α :=
  remaining.filter fun node => needs node ⊆ resolved

variable {needs} {resolved remaining : Finset α}

theorem mem_ready {node : α} :
    node ∈ ready needs resolved remaining ↔ node ∈ remaining ∧ needs node ⊆ resolved :=
  Finset.mem_filter

theorem ready_shrinks (some_ : ready needs resolved remaining ≠ ∅) :
    (remaining \ ready needs resolved remaining).card < remaining.card := by
  apply Finset.card_lt_card
  obtain ⟨node, found⟩ := Finset.nonempty_iff_ne_empty.mpr some_
  refine Finset.ssubset_iff_of_subset Finset.sdiff_subset |>.mpr ⟨node, (mem_ready.mp found).1, ?_⟩
  intro left
  exact (Finset.mem_sdiff.mp left).2 found

variable (needs)

def peel (resolved remaining : Finset α) : Bool :=
  if remaining = ∅ then true
  else if ready needs resolved remaining = ∅ then false
  else peel (resolved ∪ ready needs resolved remaining) (remaining \ ready needs resolved remaining)
termination_by remaining.card
decreasing_by exact ready_shrinks (by assumption)

/-- Every node stands behind the nodes that it needs. -/
def Ordered : Finset α → List α → Prop
  | _, [] => True
  | resolved, node :: rest => needs node ⊆ resolved ∧ Ordered (insert node resolved) rest

variable {needs}

theorem ordered_append {front back : List α} (first : Ordered needs resolved front)
    (second : Ordered needs (resolved ∪ front.toFinset) back) : Ordered needs resolved
      (front ++ back) := by
  induction front generalizing resolved with
  | nil =>
      rw [List.toFinset_nil, Finset.union_empty] at second
      exact second
  | cons node rest ih =>
      refine ⟨first.1, ih first.2 ?_⟩
      rw [List.toFinset_cons, Finset.union_insert] at second
      rw [Finset.insert_union]
      exact second

theorem ordered_layer {layer : List α} (each : ∀ node ∈ layer, needs node ⊆ resolved) :
    Ordered needs resolved layer := by
  induction layer generalizing resolved with
  | nil => trivial
  | cons node rest ih =>
      refine ⟨each node List.mem_cons_self, ih fun other among => ?_⟩
      exact (each other (List.mem_cons_of_mem _ among)).trans (Finset.subset_insert node resolved)

theorem ordered_before {front back : List α} {node need : α}
    (ordered : Ordered needs resolved (front ++ node :: back))
    (needed : need ∈ needs node) : need ∈ resolved ∨ need ∈ front := by
  induction front generalizing resolved with
  | nil => exact .inl (ordered.1 needed)
  | cons head rest ih =>
      rcases ih ordered.2 with before | among
      · rcases Finset.mem_insert.mp before with rfl | earlier
        · exact .inr List.mem_cons_self
        · exact .inl earlier
      · exact .inr (List.mem_cons_of_mem _ among)

theorem peel_order (peeled : peel needs resolved remaining = true) :
    ∃ order : List α, order.Nodup ∧ order.toFinset = remaining ∧ Ordered needs resolved order := by
  induction resolved, remaining using peel.induct needs with
  | case1 resolved => exact ⟨[], List.nodup_nil, rfl, trivial⟩
  | case2 resolved remaining left none_ =>
      rw [peel, if_neg left, if_pos none_] at peeled
      cases peeled
  | case3 resolved remaining left some_ ih =>
      rw [peel, if_neg left, if_neg some_] at peeled
      obtain ⟨order, nodup, whole, ordered⟩ := ih peeled
      have layer : (ready needs resolved remaining).toList.toFinset =
          ready needs resolved remaining :=
        Finset.toList_toFinset _
      refine ⟨(ready needs resolved remaining).toList ++ order, ?_, ?_, ?_⟩
      · refine List.Nodup.append (Finset.nodup_toList _) nodup fun node early late => ?_
        have away : node ∈ remaining \ ready needs resolved remaining := by
          rw [← whole]
          exact List.mem_toFinset.mpr late
        exact (Finset.mem_sdiff.mp away).2 (Finset.mem_toList.mp early)
      · rw [List.toFinset_append, layer, whole]
        exact Finset.union_sdiff_of_subset (Finset.filter_subset _ _)
      · refine ordered_append (ordered_layer fun node among => ?_) (by rw [layer]; exact ordered)
        exact (mem_ready.mp (Finset.mem_toList.mp among)).2

theorem ordered_acc {order : List α} (base : ∀ node ∈ resolved, Acc (Needed needs) node)
    (ordered : Ordered needs resolved order) : ∀ node ∈ order, Acc (Needed needs) node := by
  induction order generalizing resolved with
  | nil =>
      intro node among
      cases among
  | cons head rest ih =>
      have first : Acc (Needed needs) head := ⟨_, fun need needed => base need (ordered.1 needed)⟩
      have grown : ∀ node ∈ insert head resolved, Acc (Needed needs) node := by
        intro node among
        rcases Finset.mem_insert.mp among with rfl | earlier
        · exact first
        · exact base node earlier
      intro node among
      rcases List.mem_cons.mp among with rfl | later
      · exact first
      · exact ih grown ordered.2 node later

theorem peel_complete (closed : ∀ node ∈ remaining, needs node ⊆ resolved ∪ remaining)
    (acyclic : ∀ node ∈ remaining, ¬ Relation.TransGen (Needed needs) node node) :
    peel needs resolved remaining = true := by
  induction resolved, remaining using peel.induct needs with
  | case1 resolved =>
      rw [peel, if_pos rfl]
  | case2 resolved remaining left none_ =>
      obtain ⟨node, among, alone⟩ := exists_first (Finset.nonempty_iff_ne_empty.mpr left) acyclic
      have found : node ∈ ready needs resolved remaining := by
        refine mem_ready.mpr ⟨among, fun need needed => ?_⟩
        exact (Finset.mem_union.mp (closed node among needed)).resolve_right (alone need needed)
      rw [none_] at found
      cases found
  | case3 resolved remaining left some_ ih =>
      rw [peel, if_neg left, if_neg some_]
      apply ih
      · intro node among
        have there := (Finset.mem_sdiff.mp among).1
        have whole : ready needs resolved remaining ∪ remaining \ ready needs resolved remaining =
            remaining :=
          Finset.union_sdiff_of_subset (Finset.filter_subset _ _)
        rw [Finset.union_assoc, whole]
        exact closed node there
      · exact fun node among => acyclic node (Finset.mem_sdiff.mp among).1

/-- The rounds of a closed graph end with no node left exactly when it has no cycle. -/
theorem peel_acyclic (closed : ∀ node ∈ remaining, needs node ⊆ remaining) :
    peel needs ∅ remaining = true ↔
    ∀ node ∈ remaining, ¬ Relation.TransGen (Needed needs) node node := by
  constructor
  · intro peeled node among
    obtain ⟨order, -, whole, ordered⟩ := peel_order peeled
    have inside : node ∈ order := by
      rw [← List.mem_toFinset, whole]
      exact among
    have reached :=
      ordered_acc (fun other none_ => (Finset.notMem_empty other none_).elim) ordered node inside
    exact acc_acyclic reached.transGen
  · intro acyclic
    refine peel_complete (fun node among => ?_) acyclic
    rw [Finset.empty_union]
    exact closed node among

end SynapseOS.Peeling
