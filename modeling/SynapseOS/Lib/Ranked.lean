import Mathlib.Data.List.Sort
import Mathlib.Tactic

/-! The highest ranked items of a list, in a stable order. -/

namespace SynapseOS

variable {α κ : Type} [LinearOrder κ]

def rankedBefore (rank : α → κ) (first second : α) : Bool := decide (rank second ≤ rank first)

/-- The items by descending rank; equal ranks keep their order. -/
def ranked (rank : α → κ) (items : List α) : List α := items.mergeSort (rankedBefore rank)

/-- All items, or the `limit` highest ones when there are more. -/
def highest (limit : Nat) (rank : α → κ) (items : List α) : List α :=
  if limit < items.length then (ranked rank items).take limit else items

variable {rank : α → κ} {limit : Nat} {items : List α}

theorem ranked_perm : (ranked rank items).Perm items := List.mergeSort_perm _ _

theorem ranked_pairwise :
    (ranked rank items).Pairwise fun first second => rank second ≤ rank first := by
  have sorted : (ranked rank items).Pairwise fun first second =>
      rankedBefore rank first second = true := by
    refine List.pairwise_mergeSort (fun first second third before after => ?_)
      (fun first second => ?_) items
    · exact decide_eq_true ((of_decide_eq_true after).trans (of_decide_eq_true before))
    · rcases le_total (rank second) (rank first) with above | below
      · exact Bool.or_eq_true_iff.mpr (.inl (decide_eq_true above))
      · exact Bool.or_eq_true_iff.mpr (.inr (decide_eq_true below))
  exact sorted.imp of_decide_eq_true

theorem ranked_sorted (sorted : items.Pairwise fun first second => rank second ≤ rank first) :
    ranked rank items = items :=
  List.mergeSort_of_pairwise (sorted.imp decide_eq_true)

/-- Nothing that is left out ranks above what is kept. -/
theorem highest_splits (limit : Nat) (rank : α → κ) (items : List α) :
    ∃ dropped, items.Perm (highest limit rank items ++ dropped) ∧
      (dropped = [] ↔ items.length ≤ limit) ∧
      ∀ kept ∈ highest limit rank items, ∀ other ∈ dropped, rank other ≤ rank kept := by
  unfold highest
  by_cases many : limit < items.length
  · rw [if_pos many]
    refine ⟨(ranked rank items).drop limit, ?_, ?_, ?_⟩
    · rw [List.take_append_drop]
      exact ranked_perm.symm
    · rw [List.drop_eq_nil_iff, ranked_perm.length_eq]
    · have sorted : (ranked rank items).Pairwise fun first second => rank second ≤ rank first :=
        ranked_pairwise
      rw [← List.take_append_drop limit (ranked rank items), List.pairwise_append] at sorted
      exact fun kept among other there => sorted.2.2 kept among other there
  · rw [if_neg many]
    refine ⟨[], by rw [List.append_nil], ⟨fun _ => Nat.le_of_not_lt many, fun _ => rfl⟩, ?_⟩
    intro kept _ other there
    cases there

theorem ranked_find {chosen : α → Bool} {item : α}
    (found : (ranked rank items).find? chosen = some item) :
    item ∈ items ∧ chosen item = true ∧ ∀ other ∈ items, chosen other = true →
    rank other ≤ rank item := by
  obtain ⟨holds, front, back, split, skipped⟩ := List.find?_eq_some_iff_append.mp found
  have sorted : (ranked rank items).Pairwise fun first second => rank second ≤ rank first :=
    ranked_pairwise
  have among : item ∈ ranked rank items := List.mem_of_find?_eq_some found
  rw [split, List.pairwise_append] at sorted
  refine ⟨ranked_perm.mem_iff.mp among, holds, fun other there matches_ => ?_⟩
  have placed : other ∈ front ++ item :: back := split ▸ ranked_perm.mem_iff.mpr there
  rcases List.mem_append.mp placed with before | after
  · have misses := skipped other before
    rw [matches_] at misses
    cases misses
  · rcases List.mem_cons.mp after with rfl | later
    · exact le_rfl
    · exact (List.pairwise_cons.mp sorted.2.1).1 other later

theorem ranked_head {item : α} (first : (ranked rank items).head? = some item) :
    item ∈ items ∧ ∀ other ∈ items, rank other ≤ rank item := by
  obtain ⟨rest, split⟩ := List.head?_eq_some_iff.mp first
  have found : (ranked rank items).find? (fun _ => true) = some item := by rw [split]; rfl
  obtain ⟨among, _, highest⟩ := ranked_find found
  exact ⟨among, fun other there => highest other there rfl⟩

theorem highest_length : (highest limit rank items).length = min limit items.length := by
  unfold highest
  split
  · rw [List.length_take, ranked_perm.length_eq]
  · omega

section Sorted

variable {key : α → κ} {others : List α}

def sortedBy (key : α → κ) (items : List α) : List α :=
  ranked (fun item => OrderDual.toDual (key item)) items

theorem sortedBy_perm : (sortedBy key items).Perm items := ranked_perm

/-- Where the keys differ, the order does not depend on the order of the items. -/
theorem sortedBy_eq (same : items.Perm others)
    (apart : ∀ first ∈ items, ∀ second ∈ items, key first = key second → first = second) :
    sortedBy key items = sortedBy key others := by
  have agree : (sortedBy key items).Perm (sortedBy key others) :=
    (sortedBy_perm.trans same).trans sortedBy_perm.symm
  refine List.Perm.eq_of_pairwise (fun first second here there before after => ?_) ranked_pairwise
    ranked_pairwise agree
  have inside : second ∈ items := same.mem_iff.mpr (sortedBy_perm.mem_iff.mp there)
  exact apart first (sortedBy_perm.mem_iff.mp here) second inside (le_antisymm before after)

theorem sortedBy_filter (kept : α → Bool)
    (apart : ∀ first ∈ items, ∀ second ∈ items, key first = key second → first = second) :
    sortedBy key (items.filter kept) = (sortedBy key items).filter kept := by
  have agree : (sortedBy key (items.filter kept)).Perm ((sortedBy key items).filter kept) :=
    sortedBy_perm.trans (sortedBy_perm.symm.filter _)
  refine List.Perm.eq_of_pairwise (fun first second here there before after => ?_) ranked_pairwise
    (ranked_pairwise.filter _) agree
  have one : first ∈ items := List.mem_of_mem_filter (sortedBy_perm.mem_iff.mp here)
  have other : second ∈ items := sortedBy_perm.mem_iff.mp (List.mem_of_mem_filter there)
  exact apart first one second other (le_antisymm before after)

theorem sortedBy_map {β : Type} (f : β → α) (items : List β) :
    sortedBy key (items.map f) = (sortedBy (fun item => key (f item)) items).map f := by
  unfold sortedBy ranked
  rw [List.map_mergeSort]
  intro _ _ _ _
  rfl

end Sorted

end SynapseOS
