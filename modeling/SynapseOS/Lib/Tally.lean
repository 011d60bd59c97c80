import Mathlib.Algebra.BigOperators.Group.List.Basic
import Mathlib.Tactic

/-! Tokens spread over the places of a list. A place may be rewritten, added or read; what the
places hold together changes by what the touched place held before and holds after. -/

namespace SynapseOS

variable {α M : Type}

section Sum

variable [AddCommMonoid M]

def tally (f : α → M) (places : List α) : M := (places.map f).sum

@[simp] theorem tally_nil (f : α → M) : tally f [] = 0 := rfl

@[simp] theorem tally_cons (f : α → M) (place : α) (rest : List α) :
    tally f (place :: rest) = f place + tally f rest := by
  simp [tally]

@[simp] theorem tally_append (f : α → M) (left right : List α) :
    tally f (left ++ right) = tally f left + tally f right := by
  simp [tally]

theorem tally_empty (f : α → M) (places : List α) (empty : ∀ place ∈ places, f place = 0) :
    tally f places = 0 := by
  induction places with
  | nil => rfl
  | cons head tail ih =>
      rw [tally_cons, empty head List.mem_cons_self, zero_add]
      exact ih fun place member => empty place (List.mem_cons_of_mem _ member)

theorem tally_set (f : α → M) (places : List α) (i : Nat) (old new : α)
    (found : places[i]? = some old) :
    tally f (places.set i new) + f old = tally f places + f new := by
  induction places generalizing i with
  | nil => cases found
  | cons head tail ih =>
      cases i with
      | zero =>
          obtain rfl : head = old := by simpa using found
          simp only [List.set_cons_zero, tally_cons]
          rw [add_right_comm, add_comm (f new), add_right_comm]
      | succ j =>
          simp only [List.set_cons_succ, tally_cons]
          rw [add_assoc, ih j (by simpa using found), add_assoc]

end Sum

section Cancel

variable [AddCancelCommMonoid M] (f : α → M) (places : List α) (i : Nat) (old new : α)
  (found : places[i]? = some old)

include found

theorem tally_kept (same : f new = f old) : tally f (places.set i new) = tally f places := by
  have moved := tally_set f places i old new found
  rw [same] at moved
  exact add_right_cancel moved

theorem tally_gained (empty : f old = 0) : tally f (places.set i new) = tally f places + f new := by
  have moved := tally_set f places i old new found
  rwa [empty, add_zero] at moved

theorem tally_lost (empty : f new = 0) : tally f places = tally f (places.set i new) + f old := by
  have moved := tally_set f places i old new found
  rw [empty, add_zero] at moved
  exact moved.symm

end Cancel

theorem mem_tally {places : List α} (f : α → Multiset M) (token : M) :
    token ∈ tally f places ↔ ∃ place ∈ places, token ∈ f place := by
  induction places with
  | nil => simp
  | cons head tail ih => simp [ih]

end SynapseOS
