import Mathlib.Logic.Relation
import Mathlib.Tactic

/-! Runs of a partial step function. A run is filtered by an admissibility predicate
on the state a step leaves and the action it takes. -/

namespace SynapseOS.Transition

variable {σ α ν : Type}

inductive Reaches (step : σ → α → Option σ) (ok : σ → α → Prop) (start : σ) : σ → Prop
  | refl : Reaches step ok start start
  | tail {s t : σ} {a : α} (run : Reaches step ok start s) (allowed : ok s a)
      (taken : step s a = some t) : Reaches step ok start t

namespace Reaches

variable {step : σ → α → Option σ} {ok : σ → α → Prop}

theorem trans {s t u : σ} (first : Reaches step ok s t) (second : Reaches step ok t u) :
    Reaches step ok s u := by
  induction second with
  | refl => exact first
  | tail _ allowed taken ih => exact .tail ih allowed taken

theorem mono {weaker : σ → α → Prop} {s t : σ} (run : Reaches step ok s t)
    (implies : ∀ u a, ok u a → weaker u a) : Reaches step weaker s t := by
  induction run with
  | refl => exact .refl
  | tail _ allowed taken ih => exact .tail ih (implies _ _ allowed) taken

/-- An invariant holds along a run when every admissible step keeps it. -/
theorem invariant (inv : σ → Prop) {s t : σ} (run : Reaches step ok s t) (initial : inv s)
    (keeps : ∀ u a w, inv u → ok u a → step u a = some w → inv w) : inv t := by
  induction run with
  | refl => exact initial
  | tail _ allowed taken ih => exact keeps _ _ _ ih allowed taken

/-- A second invariant may use one that is already known to hold in every state. -/
theorem invariant_under (known inv : σ → Prop) {s t : σ} (run : Reaches step ok s t)
    (base : known s) (initial : inv s)
    (keepsKnown : ∀ u a w, known u → ok u a → step u a = some w → known w)
    (keeps : ∀ u a w, known u → inv u → ok u a → step u a = some w → inv w) : inv t := by
  have both : known t ∧ inv t := by
    refine run.invariant (fun u => known u ∧ inv u) ⟨base, initial⟩ ?_
    intro u a w held allowed taken
    exact ⟨keepsKnown u a w held.1 allowed taken, keeps u a w held.1 held.2 allowed taken⟩
  exact both.2

end Reaches

def execute (step : σ → α → Option σ) (ok : σ → α → Bool) : σ → List α → Option σ
  | s, [] => some s
  | s, a :: rest => if ok s a then (step s a).bind (fun t => execute step ok t rest) else none

theorem execute_reaches {step : σ → α → Option σ} {check : σ → α → Bool} {ok : σ → α → Prop}
    (sound : ∀ s a, check s a = true → ok s a) (actions : List α) (s t : σ)
    (executed : execute step check s actions = some t) : Reaches step ok s t := by
  induction actions generalizing s with
  | nil =>
      obtain rfl : s = t := by simpa [execute] using executed
      exact .refl
  | cons a rest ih =>
      unfold execute at executed
      split at executed
      · next passed =>
          obtain ⟨u, taken, remaining⟩ := Option.bind_eq_some_iff.mp executed
          have first : Reaches step ok s u := .tail .refl (sound s a passed) taken
          exact first.trans (ih u remaining)
      · cases executed

def Along (step : σ → α → Option σ) (holds : σ → α → σ → Prop) : σ → List α → Prop
  | _, [] => True
  | s, a :: rest => ∀ t, step s a = some t → holds s a t ∧ Along step holds t rest

theorem along_congr {step : σ → α → Option σ} {left right : σ → α → σ → Prop}
    (same : ∀ s a t, step s a = some t → (left s a t ↔ right s a t)) (s : σ) (actions : List α) :
    Along step left s actions ↔ Along step right s actions := by
  induction actions generalizing s with
  | nil => exact Iff.rfl
  | cons a rest ih => exact forall₂_congr fun t taken => and_congr (same s a t taken) (ih t)

end SynapseOS.Transition
