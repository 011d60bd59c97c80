import Mathlib.Logic.Function.Basic
import Mathlib.Tactic

/-! Locks indexed by a key, each held by at most one of a family of processes. -/

namespace SynapseOS.LockTable

variable {ι κ : Type}

/-- Whoever holds a key has it locked, and nobody else holds it. -/
structure Guarded (holder : ι → Option κ) (locked : κ → Prop) : Prop where
  held : ∀ i k, holder i = some k → locked k
  exclusive : ∀ i j k, holder i = some k → holder j = some k → i = j

namespace Guarded

variable {holder : ι → Option κ} {locked after : κ → Prop}

theorem vacant (absent : ∀ i, holder i = none) : Guarded holder locked := by
  constructor
  · intro i k holds
    rw [absent i] at holds
    cases holds
  · intro i j k holds _
    rw [absent i] at holds
    cases holds

theorem congr (guarded : Guarded holder locked) (same : ∀ k, after k ↔ locked k) :
    Guarded holder after :=
  ⟨fun i k holds => (same k).mpr (guarded.held i k holds), guarded.exclusive⟩

theorem acquire [DecidableEq ι] (guarded : Guarded holder locked) (i : ι) (key : κ)
    (free : ¬ locked key) (taken : ∀ k, after k ↔ k = key ∨ locked k) :
    Guarded (Function.update holder i (some key)) after := by
  have others : ∀ j k, j ≠ i → Function.update holder i (some key) j = some k → k ≠ key := by
    intro j k other holds same
    rw [Function.update_of_ne other] at holds
    exact free (same ▸ guarded.held j k holds)
  constructor
  · intro j k holds
    by_cases same : j = i
    · subst same
      rw [Function.update_self] at holds
      exact (taken k).mpr (Or.inl (Option.some.inj holds).symm)
    · rw [Function.update_of_ne same] at holds
      exact (taken k).mpr (Or.inr (guarded.held j k holds))
  · intro j l k first second
    by_cases left : j = i
    · by_cases right : l = i
      · rw [left, right]
      · subst left
        rw [Function.update_self] at first
        exact absurd (Option.some.inj first).symm (others l k right second)
    · by_cases right : l = i
      · subst right
        rw [Function.update_self] at second
        exact absurd (Option.some.inj second).symm (others j k left first)
      · rw [Function.update_of_ne left] at first
        rw [Function.update_of_ne right] at second
        exact guarded.exclusive j l k first second

theorem release [DecidableEq ι] (guarded : Guarded holder locked) (i : ι) (key : κ)
    (holds : holder i = some key) (left : ∀ k, k ≠ key → (after k ↔ locked k)) :
    Guarded (Function.update holder i none) after := by
  have kept : ∀ j k, Function.update holder i none j = some k → j ≠ i ∧ holder j = some k := by
    intro j k owned
    by_cases same : j = i
    · subst same
      rw [Function.update_self] at owned
      cases owned
    · rw [Function.update_of_ne same] at owned
      exact ⟨same, owned⟩
  constructor
  · intro j k owned
    obtain ⟨other, before⟩ := kept j k owned
    have different : k ≠ key := by
      intro same
      exact other (guarded.exclusive j i k before (same ▸ holds))
    exact (left k different).mpr (guarded.held j k before)
  · intro j l k first second
    exact guarded.exclusive j l k (kept j k first).2 (kept l k second).2

end Guarded

end SynapseOS.LockTable
