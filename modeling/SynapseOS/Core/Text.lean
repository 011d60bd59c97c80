import Mathlib.Data.List.DropRight
import Mathlib.Tactic

/-! Python text, by code point. -/

namespace SynapseOS

def space (point : Nat) : Bool :=
  decide (0x09 ≤ point ∧ point ≤ 0x0D) || decide (0x1C ≤ point ∧ point ≤ 0x20) ||
    decide (0x2000 ≤ point ∧ point ≤ 0x200A) ||
    [0x85, 0xA0, 0x1680, 0x2028, 0x2029, 0x202F, 0x205F, 0x3000].contains point

def strip (text : List Nat) : List Nat := (text.dropWhile space).rdropWhile space

theorem solid_dropWhile {text : List Nat} {point : Nat} (among : point ∈ text)
    (solid : space point = false) : point ∈ text.dropWhile space := by
  rw [← List.takeWhile_append_dropWhile (p := space) (l := text)] at among
  rcases List.mem_append.mp among with front | rest
  · rw [List.mem_takeWhile_imp front] at solid
    cases solid
  · exact rest

theorem solid_strip {text : List Nat} {point : Nat} (among : point ∈ text)
    (solid : space point = false) : point ∈ strip text := by
  have kept := solid_dropWhile among solid
  exact List.mem_reverse.mpr (solid_dropWhile (List.mem_reverse.mpr kept) solid)

theorem strip_subset (text : List Nat) : strip text ⊆ text := by
  intro point among
  have middle := List.dropWhile_subset space (List.mem_reverse.mp among)
  exact List.dropWhile_subset space (List.mem_reverse.mp middle)

theorem strip_blank (text : List Nat) : strip text = [] ↔ ∀ point ∈ text, space point = true := by
  constructor
  · intro blank point among
    by_contra solid
    have kept := solid_strip among (Bool.not_eq_true _ ▸ solid)
    rw [blank] at kept
    cases kept
  · intro all
    have front : text.dropWhile space = [] := List.dropWhile_eq_nil_iff.mpr all
    rw [strip, front]
    rfl

theorem strip_strip {text : List Nat} (left : strip text ≠ []) : strip (strip text) ≠ [] := by
  intro blank
  apply left
  rw [strip_blank] at blank ⊢
  intro point among
  by_contra solid
  have kept := solid_strip among (Bool.not_eq_true _ ▸ solid)
  exact solid (blank point kept)

def lineEnd (point : Nat) : Bool :=
  decide (0x0A ≤ point ∧ point ≤ 0x0D) || decide (0x1C ≤ point ∧ point ≤ 0x1E) ||
    [0x85, 0x2028, 0x2029].contains point

/-- `str.splitlines`, with the line that is read so far. -/
def splitLinesFrom (line : List Nat) : List Nat → List (List Nat)
  | [] => if line = [] then [] else [line]
  | [point] => if lineEnd point = true then [line] else [line ++ [point]]
  | 0x0D :: 0x0A :: rest => line :: splitLinesFrom [] rest
  | point :: next :: rest =>
      if lineEnd point = true then line :: splitLinesFrom [] (next :: rest)
      else splitLinesFrom (line ++ [point]) (next :: rest)

def splitLines (text : List Nat) : List (List Nat) := splitLinesFrom [] text

end SynapseOS
