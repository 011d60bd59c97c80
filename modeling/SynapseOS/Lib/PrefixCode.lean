import Mathlib.Data.List.Basic
import Mathlib.Tactic

/-! Writers whose text for an item can be told from all that follows it. -/

namespace SynapseOS

variable {α β : Type} {write : α → List β}

/-- The text of an item ends where it ends: with any rest it is the text of no other item with
another rest. -/
def Delimits (write : α → List β) (item : α) : Prop :=
  ∀ other rest behind, write item ++ rest = write other ++ behind → item = other ∧ rest = behind

/-- A reader of the texts makes them delimit their items. -/
theorem delimits_read {read : List β → Option (α × List β)} {valid : α → Prop}
    (reads : ∀ item rest, valid item → read (write item ++ rest) = some (item, rest))
    {item other : α} (first : valid item) (second : valid other) {rest behind : List β}
    (same : write item ++ rest = write other ++ behind) : item = other ∧ rest = behind := by
  have found := reads item rest first
  rw [same, reads other behind second] at found
  have pair := Option.some.inj found
  exact ⟨(congrArg Prod.fst pair).symm, (congrArg Prod.snd pair).symm⟩

theorem Delimits.mark {item : α} (delimits : Delimits write item) (mark : β) :
    Delimits (fun item => mark :: write item) item := by
  intro other rest behind same
  exact delimits other rest behind (List.cons.inj same).2

def StartsApart (write : α → List β) (mark : β) : Prop := ∀ item, ∃ head tail, write item = head ::
    tail ∧ head ≠ mark

theorem flatMap_delimits {closing : β} (opens : StartsApart write closing) {items : List α}
    (each : ∀ item ∈ items, Delimits write item) {others : List α} {rest behind : List β}
    (same : items.flatMap write ++ closing :: rest = others.flatMap write ++ closing :: behind) :
    items = others ∧ rest = behind := by
  induction items generalizing others with
  | nil =>
      cases others with
      | nil => exact ⟨rfl, (List.cons.inj same).2⟩
      | cons other others =>
          obtain ⟨head, tail, text, apart⟩ := opens other
          rw [List.flatMap_nil, List.flatMap_cons, text] at same
          exact absurd (List.cons.inj same).1.symm apart
  | cons item items ih =>
      cases others with
      | nil =>
          obtain ⟨head, tail, text, apart⟩ := opens item
          rw [List.flatMap_nil, List.flatMap_cons, text] at same
          exact absurd (List.cons.inj same).1 apart
      | cons other others =>
          rw [List.flatMap_cons, List.flatMap_cons, List.append_assoc, List.append_assoc] at same
          obtain ⟨rfl, later⟩ := each item List.mem_cons_self other _ _ same
          obtain ⟨rfl, done⟩ :=
            ih (fun item member => each item (List.mem_cons_of_mem _ member)) later
          exact ⟨rfl, done⟩

theorem intercalate_flatMap (mark : β) (item : α) (items : List α) :
    [mark].intercalate ((item :: items).map write) =
    write item ++ items.flatMap fun item => mark :: write item := by
  induction items generalizing item with
  | nil => simp
  | cons next rest ih =>
      rw [List.map_cons, List.map_cons, List.intercalate_cons_cons, ← List.map_cons, ih,
        List.flatMap_cons]
      simp

theorem intercalate_delimits {mark closing : β} (apart : mark ≠ closing)
    (opens : StartsApart write closing)
    {items : List α} (each : ∀ item ∈ items, Delimits write item) {others : List α}
    {rest behind : List β} (same : [mark].intercalate (items.map write) ++ closing :: rest =
      [mark].intercalate (others.map write) ++ closing :: behind) : items = others ∧
        rest = behind := by
  cases items with
  | nil =>
      cases others with
      | nil => exact ⟨rfl, (List.cons.inj same).2⟩
      | cons other others =>
          obtain ⟨head, tail, text, differs⟩ := opens other
          rw [intercalate_flatMap, text] at same
          exact absurd (List.cons.inj same).1.symm differs
  | cons item items =>
      cases others with
      | nil =>
          obtain ⟨head, tail, text, differs⟩ := opens item
          rw [intercalate_flatMap, text] at same
          exact absurd (List.cons.inj same).1 differs
      | cons other others =>
          rw [intercalate_flatMap, intercalate_flatMap, List.append_assoc, List.append_assoc]
            at same
          obtain ⟨rfl, later⟩ := each item List.mem_cons_self other _ _ same
          have marked : StartsApart (fun item => mark :: write item) closing := fun item =>
            ⟨mark, write item, rfl, apart⟩
          obtain ⟨rfl, done⟩ := flatMap_delimits marked
            (fun item member => (each item (List.mem_cons_of_mem _ member)).mark mark) later
          exact ⟨rfl, done⟩

end SynapseOS
