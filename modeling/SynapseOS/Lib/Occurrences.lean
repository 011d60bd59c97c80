import Mathlib.Data.List.Basic
import Mathlib.Tactic

/-! Where a part stands in a whole, and wholes in which it stands once. -/

namespace SynapseOS.Occurrences

variable {α : Type} {part whole : List α} {start : Nat}

def OccursAt (part whole : List α) (start : Nat) : Prop := part <+: whole.drop start

def Occurs (part whole : List α) : Prop := ∃ start, OccursAt part whole start

def OccursOnce (part whole : List α) : Prop :=
  ∃ start, OccursAt part whole start ∧ ∀ other, OccursAt part whole other → other = start

def Overlaps (part whole : List α) : Prop :=
  ∃ first second, OccursAt part whole first ∧ OccursAt part whole second ∧ first < second ∧
    second < first + part.length

theorem occursAt_zero : OccursAt part whole 0 ↔ part <+: whole := by
  rw [OccursAt, List.drop_zero]

theorem occursAt_succ {head : α} {rest : List α} :
    OccursAt part (head :: rest) (start + 1) ↔ OccursAt part rest start := by
  rw [OccursAt, OccursAt, List.drop_succ_cons]

theorem occursAt_fits (some_ : part ≠ []) (occurs : OccursAt part whole start) :
    start + part.length ≤ whole.length := by
  have size := occurs.length_le
  have positive := List.length_pos_iff.mpr some_
  rw [List.length_drop] at size
  omega

theorem occurs_cons {head : α} {rest : List α} :
    Occurs part (head :: rest) ↔ part <+: head :: rest ∨ Occurs part rest := by
  constructor
  · rintro ⟨start, occurs⟩
    cases start with
    | zero => exact .inl (occursAt_zero.mp occurs)
    | succ start => exact .inr ⟨start, occursAt_succ.mp occurs⟩
  · rintro (here | ⟨start, later⟩)
    · exact ⟨0, occursAt_zero.mpr here⟩
    · exact ⟨start + 1, occursAt_succ.mpr later⟩

theorem occursAt_front (before after : List α) : OccursAt part
    (before ++ (part ++ after)) before.length := by
  rw [OccursAt, List.drop_left]
  exact List.prefix_append part after

theorem occursAt_append (before : List α) (shift : Nat) :
    OccursAt part (before ++ whole) (before.length + shift) ↔ OccursAt part whole shift := by
  rw [OccursAt, OccursAt, List.drop_length_add_append]

theorem occursAt_splits (occurs : OccursAt part whole start) (within : start ≤ whole.length) :
    ∃ before after, whole = before ++ (part ++ after) ∧ before.length = start := by
  obtain ⟨after, same⟩ := occurs
  refine ⟨whole.take start, after, ?_, List.length_take_of_le within⟩
  rw [same, List.take_append_drop]

/-- A part that stands once stands first there, not behind it, and does not overlap itself. -/
theorem occursOnce_iff (some_ : part ≠ []) {before after : List α}
    (stands : whole = before ++ (part ++ after))
    (first : ∀ start < before.length, ¬ OccursAt part whole start) :
    OccursOnce part whole ↔ ¬ Occurs part after ∧ ¬ Overlaps part whole := by
  have here : OccursAt part whole before.length := stands ▸ occursAt_front before after
  have behind : ∀ shift, OccursAt part whole (before.length + (part.length + shift)) ↔
      OccursAt part after shift := by
    intro shift
    rw [stands, occursAt_append, occursAt_append]
  have positive := List.length_pos_iff.mpr some_
  constructor
  · rintro ⟨start, _, only⟩
    constructor
    · rintro ⟨shift, later⟩
      have one := only _ here
      have two := only _ ((behind shift).mpr later)
      omega
    · rintro ⟨left, right, one, two, before_, _⟩
      have same := (only _ one).trans (only _ two).symm
      omega
  · rintro ⟨absent, apart⟩
    refine ⟨before.length, here, fun other occurs => ?_⟩
    by_contra different
    rcases Nat.lt_or_gt_of_ne different with sooner | later
    · exact first other sooner occurs
    · by_cases inside : other < before.length + part.length
      · exact apart ⟨before.length, other, here, occurs, later, inside⟩
      · obtain ⟨shift, rfl⟩ : ∃ shift, other = before.length + (part.length + shift) :=
          ⟨other - before.length - part.length, by omega⟩
        exact absent ⟨shift, (behind shift).mp occurs⟩

theorem occurs_first (some_ : part ≠ []) (occurs : Occurs part whole) :
    ∃ before after, whole = before ++ (part ++ after) ∧
      ∀ start < before.length, ¬ OccursAt part whole start := by
  classical
  obtain ⟨start, least⟩ : ∃ start, OccursAt part whole start ∧
      ∀ sooner < start, ¬ OccursAt part whole sooner :=
    ⟨Nat.find occurs, Nat.find_spec occurs, fun sooner below => Nat.find_min occurs below⟩
  have fits := occursAt_fits some_ least.1
  obtain ⟨before, after, stands, rfl⟩ := occursAt_splits least.1 (by omega)
  exact ⟨before, after, stands, least.2⟩

theorem occursOnce_occurs (once : OccursOnce part whole) : Occurs part whole := by
  obtain ⟨start, occurs, _⟩ := once
  exact ⟨start, occurs⟩

end SynapseOS.Occurrences
