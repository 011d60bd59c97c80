import Mathlib.Tactic

/-! Means of lists and weighted means of parts. -/

namespace SynapseOS

namespace Means

variable {α : Type} [Field α] [LinearOrder α] [IsStrictOrderedRing α]

def mean (values : List α) : α := values.sum / values.length

def weightOf (parts : List (α × α)) : α := (parts.map Prod.snd).sum

def totalOf (parts : List (α × α)) : α := (parts.map fun part => part.1 * part.2).sum

def weightedMean (parts : List (α × α)) : α := totalOf parts / weightOf parts

section Weighted

variable {parts : List (α × α)} (positive : ∀ part ∈ parts, 0 < part.2)

include positive

theorem weightOf_pos (some_ : parts ≠ []) : 0 < weightOf parts := by
  apply List.sum_pos
  · intro weight member
    obtain ⟨part, inside, rfl⟩ := List.mem_map.mp member
    exact positive part inside
  · simpa using some_

theorem mul_weightOf_le {low : α} (bound : ∀ part ∈ parts, low ≤ part.1) :
    low * weightOf parts ≤ totalOf parts := by
  induction parts with
  | nil => simp [weightOf, totalOf]
  | cons part parts ih =>
      have rest := ih (fun p member => positive p (List.mem_cons_of_mem _ member))
        (fun p member => bound p (List.mem_cons_of_mem _ member))
      have first : low * part.2 ≤ part.1 * part.2 :=
        mul_le_mul_of_nonneg_right (bound part List.mem_cons_self)
          (positive part List.mem_cons_self).le
      simp only [weightOf, totalOf, List.map_cons, List.sum_cons, mul_add] at rest ⊢
      exact add_le_add first rest

theorem totalOf_le_mul {high : α} (bound : ∀ part ∈ parts, part.1 ≤ high) :
    totalOf parts ≤ high * weightOf parts := by
  induction parts with
  | nil => simp [weightOf, totalOf]
  | cons part parts ih =>
      have rest := ih (fun p member => positive p (List.mem_cons_of_mem _ member))
        (fun p member => bound p (List.mem_cons_of_mem _ member))
      have first : part.1 * part.2 ≤ high * part.2 :=
        mul_le_mul_of_nonneg_right (bound part List.mem_cons_self)
          (positive part List.mem_cons_self).le
      simp only [weightOf, totalOf, List.map_cons, List.sum_cons, mul_add] at rest ⊢
      exact add_le_add first rest

theorem weightedMean_between (some_ : parts ≠ []) {low high : α}
    (bound : ∀ part ∈ parts, low ≤ part.1 ∧ part.1 ≤ high) :
    low ≤ weightedMean parts ∧ weightedMean parts ≤ high := by
  have weight := weightOf_pos positive some_
  constructor
  · rw [weightedMean, le_div_iff₀ weight]
    exact mul_weightOf_le positive fun part member => (bound part member).1
  · rw [weightedMean, div_le_iff₀ weight]
    exact totalOf_le_mul positive fun part member => (bound part member).2

end Weighted

def Raised (parts others : List (α × α)) : Prop :=
  List.Forall₂ (fun part other => part.1 ≤ other.1 ∧ part.2 = other.2) parts others

section Raised

variable {parts others : List (α × α)} (raised : Raised parts others)

include raised

omit [IsStrictOrderedRing α] in
theorem weightOf_raised : weightOf parts = weightOf others := by
  induction raised with
  | nil => rfl
  | cons step _ ih =>
      simp only [weightOf, List.map_cons, List.sum_cons] at ih ⊢
      rw [step.2, ih]

theorem totalOf_raised (positive : ∀ part ∈ parts, 0 < part.2) :
    totalOf parts ≤ totalOf others := by
  induction raised with
  | nil => exact le_rfl
  | @cons part other _ _ step _ ih =>
      have rest := ih fun p member => positive p (List.mem_cons_of_mem _ member)
      have first : part.1 * part.2 ≤ other.1 * other.2 := by
        rw [← step.2]
        exact mul_le_mul_of_nonneg_right step.1 (positive part List.mem_cons_self).le
      simp only [totalOf, List.map_cons, List.sum_cons] at rest ⊢
      exact add_le_add first rest

theorem weightedMean_raised (positive : ∀ part ∈ parts, 0 < part.2) :
    weightedMean parts ≤ weightedMean others := by
  rcases eq_or_ne parts [] with rfl | some_
  · cases raised
    exact le_rfl
  · rw [weightedMean, weightedMean, ← weightOf_raised raised]
    exact div_le_div_of_nonneg_right (totalOf_raised raised positive)
      (weightOf_pos positive some_).le

end Raised

section Mean

omit [LinearOrder α] [IsStrictOrderedRing α] in
theorem mean_weighted (values : List α) : mean values = weightedMean
    (values.map fun v => (v, 1)) := by
  unfold mean weightedMean totalOf weightOf
  congr 1
  · simp [Function.comp_def]
  · simp [Function.comp_def]

theorem unit_pos (values : List α) : ∀ part ∈ values.map fun v => (v, (1 : α)), 0 < part.2 := by
  intro part member
  obtain ⟨_, _, rfl⟩ := List.mem_map.mp member
  exact one_pos

theorem mean_between {values : List α} (some_ : values ≠ []) {low high : α}
    (bound : ∀ v ∈ values, low ≤ v ∧ v ≤ high) : low ≤ mean values ∧ mean values ≤ high := by
  rw [mean_weighted]
  apply weightedMean_between (unit_pos values) (by simpa using some_)
  intro part member
  obtain ⟨v, inside, rfl⟩ := List.mem_map.mp member
  exact bound v inside

theorem mean_raised {values others : List α} (raised : List.Forall₂ (· ≤ ·) values others) :
    mean values ≤ mean others := by
  rw [mean_weighted, mean_weighted]
  apply weightedMean_raised _ (unit_pos values)
  rw [Raised, List.forall₂_map_left_iff, List.forall₂_map_right_iff]
  exact raised.imp fun _ _ le => ⟨le, rfl⟩

omit [LinearOrder α] [IsStrictOrderedRing α] in
theorem mean_perm {values others : List α} (same : values.Perm others) :
    mean values = mean others := by
  rw [mean, mean, same.sum_eq, same.length_eq]

end Mean

end Means

end SynapseOS
