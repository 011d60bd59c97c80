import Mathlib.Data.List.Basic
import Mathlib.Tactic

/-! Reading a stream chunk by chunk until it ends. -/

namespace SynapseOS

variable {α σ : Type}

/-- A stream in the parts in which it is read, none of them empty. -/
structure Division (stream : List α) where
  chunks : List (List α)
  whole : chunks.flatten = stream
  filled : ∀ chunk ∈ chunks, chunk ≠ []

/-- The loop that takes one chunk after the other and ends at an empty one, which is what the end of
a stream reads as. -/
def untilEmpty (step : σ → List α → σ) : List (List α) → σ → σ
  | [], state => state
  | chunk :: rest, state => if chunk = [] then state else untilEmpty step rest (step state chunk)

/-- What one chunk preserves holds of the whole stream. -/
theorem untilEmpty_invariant {step : σ → List α → σ} {holds : List α → σ → Prop}
    (kept : ∀ seen state chunk, holds seen state → chunk ≠ [] →
      holds (seen ++ chunk) (step state chunk))
    {seen : List α} {state : σ} (now : holds seen state) {chunks : List (List α)}
    (filled : ∀ chunk ∈ chunks, chunk ≠ []) :
    holds (seen ++ chunks.flatten) (untilEmpty step chunks state) := by
  induction chunks generalizing seen state with
  | nil => rwa [List.flatten_nil, List.append_nil]
  | cons chunk rest ih =>
      have some_ := filled chunk List.mem_cons_self
      rw [untilEmpty, if_neg some_, List.flatten_cons, ← List.append_assoc]
      exact ih (kept seen state chunk now some_) fun other member =>
        filled other (List.mem_cons_of_mem _ member)

theorem Division.invariant {stream : List α} (division : Division stream) {step : σ → List α → σ}
    {holds : List α → σ → Prop} {state : σ} (start : holds [] state)
    (kept : ∀ seen state chunk, holds seen state → chunk ≠ [] →
      holds (seen ++ chunk) (step state chunk)) :
    holds stream (untilEmpty step division.chunks state) := by
  have run := untilEmpty_invariant kept start division.filled
  rwa [division.whole, List.nil_append] at run

theorem take_more (limit : Nat) (seen chunk : List α) :
    (seen ++ chunk).take limit = seen.take limit ++ chunk.take
      (limit - (seen.take limit).length) := by
  have room : limit - (seen.take limit).length = limit - seen.length := by
    rw [List.length_take]
    omega
  rw [List.take_append, room]

theorem exceeds_more (limit : Nat) (seen : List α) {chunk : List α} (some_ : chunk ≠ []) :
    decide (limit < (seen ++ chunk).length) =
      (decide (limit < seen.length) ||
        decide (limit - (seen.take limit).length < chunk.length)) := by
  have positive : 0 < chunk.length := List.length_pos_of_ne_nil some_
  rw [List.length_append, List.length_take, ← Bool.decide_or]
  refine decide_eq_decide.mpr ?_
  omega

theorem take_room (kept chunk : List α) (room : Nat) :
    (if room ≠ 0 then kept ++ chunk.take room else kept) = kept ++ chunk.take room := by
  split
  · rfl
  · next full => rw [not_not.mp full, List.take_zero, List.append_nil]

theorem flag_room (flag : Bool) (more : Prop) [Decidable more] :
    (if more then true else flag) = (flag || decide more) := by
  by_cases exceeded : more
  · rw [if_pos exceeded, decide_eq_true exceeded, Bool.or_true]
  · rw [if_neg exceeded, decide_eq_false exceeded, Bool.or_false]

end SynapseOS
