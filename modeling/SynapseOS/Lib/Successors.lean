import Mathlib.Logic.Relation
import Mathlib.Tactic

/-! Chains of successors: where every item has at most one, and ranks rise along them. -/

namespace SynapseOS.Successors

open Relation

variable {α : Type} {next : α → α → Prop} {first second third : α}

def Last (next : α → α → Prop) (item : α) : Prop := ∀ other, ¬ next item other

theorem last_reaches (last : Last next first) (reached : ReflTransGen next first second) :
    first = second := by
  rcases reached.cases_head with same | ⟨other, step, _⟩
  · exact same
  · exact absurd step (last other)

theorem last_unique (single : Relator.RightUnique next) (left : ReflTransGen next first second)
    (right : ReflTransGen next first third) (last : Last next second) (other : Last next third) :
    second = third := by
  rcases ReflTransGen.total_of_right_unique single left right with reached | reached
  · exact last_reaches last reached
  · exact (last_reaches other reached).symm

theorem last_exists {rank : α → Nat} {bound : Nat}
    (rises : ∀ item other, next item other → rank item < rank other ∧ rank other ≤ bound)
    (item : α) : ∃ last, ReflTransGen next item last ∧ Last next last := by
  induction left : bound - rank item using Nat.strong_induction_on generalizing item with
  | _ left_ ih =>
      by_cases last : Last next item
      · exact ⟨item, .refl, last⟩
      · unfold Last at last
        push Not at last
        obtain ⟨other, step⟩ := last
        have risen := rises item other step
        obtain ⟨end_, reached, final⟩ := ih (bound - rank other) (by omega) other rfl
        exact ⟨end_, .head step reached, final⟩

end SynapseOS.Successors
