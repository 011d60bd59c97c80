import Mathlib.Tactic

/-! A list that is filled item by item within a number of items and a sum of sizes, up to the first
item that exceeds one of them. -/

namespace SynapseOS

structure Budget where
  count : Nat
  size : Nat

structure Filling (α : Type) where
  items : List α
  used : Nat
  stopped : Bool
  deriving DecidableEq

namespace Filling

variable {α : Type}

def empty : Filling α := ⟨[], 0, false⟩

variable (budget : Budget) (size : α → Nat)

def add (filling : Filling α) (item : α) : Filling α :=
  if filling.stopped = true then filling
  else if budget.count ≤ filling.items.length ∨ budget.size < filling.used + size item then
    { filling with stopped := true }
  else ⟨filling.items ++ [item], filling.used + size item, false⟩

def fill (items : List α) (filling : Filling α) : Filling α := items.foldl (add budget size) filling

variable {budget size}

theorem add_stopped {filling : Filling α} (stopped : filling.stopped = true) (item : α) :
    filling.add budget size item = filling := if_pos stopped

theorem fill_stopped {filling : Filling α} (stopped : filling.stopped = true) (items : List α) :
    filling.fill budget size items = filling := by
  induction items with
  | nil => rfl
  | cons item rest ih =>
      rw [fill, List.foldl_cons, add_stopped stopped]
      exact ih

theorem fill_cons (filling : Filling α) (item : α) (rest : List α) :
    filling.fill budget size (item :: rest) = (filling.add budget size item).fill budget
      size rest := rfl

theorem fill_append (filling : Filling α) (first second : List α) :
    filling.fill budget size (first ++ second) = (filling.fill budget size first).fill budget
      size second :=
  List.foldl_append

structure Taken (budget : Budget) (size : α → Nat) (items : List α) (filling : Filling α) :
    Prop where
  front : filling.items <+: items
  used : filling.used = (filling.items.map size).sum
  count : filling.items.length ≤ budget.count
  room : filling.used ≤ budget.size
  whole : filling.stopped = false → filling.items = items
  cut : filling.stopped = true → budget.count < items.length ∨ budget.size < (items.map size).sum

theorem taken_nil : Taken budget size [] (empty : Filling α) where
  front := List.prefix_refl _
  used := rfl
  count := Nat.zero_le _
  room := Nat.zero_le _
  whole _ := rfl
  cut := nofun

theorem taken_add {items : List α} {filling : Filling α} (taken : Taken budget size items filling)
    (item : α) : Taken budget size (items ++ [item]) (filling.add budget size item) := by
  have total : ((items ++ [item]).map size).sum = (items.map size).sum + size item := by simp
  unfold add
  split
  · next stopped =>
      refine { taken with front := taken.front.trans (List.prefix_append _ _), whole := ?_, cut :=
        fun _ => ?_ }
      · intro going
        exact absurd (stopped.symm.trans going) (by decide)
      · rw [List.length_append, total]
        rcases taken.cut stopped with many | large
        · exact .inl (by omega)
        · exact .inr (by omega)
  · next going =>
      have all := taken.whole (Bool.eq_false_iff.mpr going)
      split
      · next full =>
          refine { taken
            with front := taken.front.trans (List.prefix_append _ _), whole :=
              nofun, cut := fun _ => ?_ }
          rw [List.length_append, total, List.length_singleton, ← all, ← taken.used]
          rcases full with many | large
          · exact .inl (by omega)
          · exact .inr large
      · next room =>
          rw [not_or, not_le, not_lt] at room
          rw [all] at room ⊢
          constructor
          · exact List.prefix_refl _
          · rw [total, taken.used, all]
          · rw [List.length_append, List.length_singleton]
            exact room.1
          · exact room.2
          · intro _
            rfl
          · nofun

theorem taken_fill (budget : Budget) (size : α → Nat) (items : List α) : Taken budget size items
    (empty.fill budget size items) := by
  induction items using List.reverseRecOn with
  | nil => exact taken_nil
  | append_singleton items item ih =>
      rw [fill_append]
      exact taken_add ih item

/-- All items are taken exactly if they are within the budget. -/
theorem fill_whole (items : List α) : (empty.fill budget size items).stopped = false ↔
    items.length ≤ budget.count ∧ (items.map size).sum ≤ budget.size := by
  have taken := taken_fill budget size items
  constructor
  · intro going
    have all := taken.whole going
    have count := taken.count
    have used := taken.room
    rw [taken.used] at used
    rw [all] at count used
    exact ⟨count, used⟩
  · rintro ⟨count, used⟩
    rw [← Bool.not_eq_true]
    intro stopped
    rcases taken.cut stopped with many | large
    · omega
    · omega

end Filling

end SynapseOS
