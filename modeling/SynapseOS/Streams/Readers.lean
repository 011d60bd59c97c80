import SynapseOS.Lib.Chunks
import SynapseOS.LocalGit.Output

/-! The bounded readers of process output (`infrastructure/commands/runner.py`,
`infrastructure/git/local.py`, `infrastructure/tools/git.py`). A limit is a number of bytes, which
the settings of the callers keep positive. -/

namespace SynapseOS.Commands

structure Retained where
  retained : List UInt8
  truncated : Bool

def Retained.read (limit : Nat) (state : Retained) (chunk : List UInt8) : Retained :=
  let available := limit - state.retained.length
  let retained := if available ≠ 0 then state.retained ++ chunk.take available else state.retained
  let truncated := if available < chunk.length then true else state.truncated
  ⟨retained, truncated⟩

/-- `_read_bounded` of the command runner. -/
def readBounded (limit : Nat) (chunks : List (List UInt8)) : List UInt8 × Bool :=
  let state := untilEmpty (Retained.read limit) chunks ⟨[], false⟩
  (state.retained, state.truncated)

structure Retained.Holds (limit : Nat) (seen : List UInt8) (state : Retained) : Prop where
  content : state.retained = seen.take limit
  truncated : state.truncated = decide (limit < seen.length)

variable {limit : Nat} {seen chunk : List UInt8}

theorem Retained.read_holds {state : Retained} (holds : state.Holds limit seen)
    (some_ : chunk ≠ []) : (state.read limit chunk).Holds limit (seen ++ chunk) := by
  constructor
  · rw [take_more, ← holds.content]
    exact take_room _ _ _
  · rw [exceeds_more limit seen some_, ← holds.truncated, ← holds.content]
    exact flag_room _ _

theorem readBounded_eq (limit : Nat) {stream : List UInt8} (division : Division stream) :
    readBounded limit division.chunks = (stream.take limit, decide (limit < stream.length)) := by
  have start : Retained.Holds limit [] ⟨[], false⟩ := ⟨by rw [List.take_nil], by simp⟩
  have run := division.invariant start fun _ _ _ holds some_ => Retained.read_holds holds some_
  exact Prod.ext run.content run.truncated

end SynapseOS.Commands

namespace SynapseOS.LocalGit

structure Reading where
  chunks : List (List UInt8)
  retained : Nat
  total : Nat

def Reading.read (limit : Nat) (state : Reading) (chunk : List UInt8) : Reading :=
  let total := state.total + chunk.length
  let keep := min chunk.length (limit - state.retained)
  if keep ≠ 0 then ⟨state.chunks ++ [chunk.take keep], state.retained + keep, total⟩
  else { state with total := total }

/-- `_read_bounded` of the local provider. -/
def readBounded (limit : Nat) (chunks : List (List UInt8)) : List UInt8 × Nat × Bool :=
  let state := untilEmpty (Reading.read limit) chunks ⟨[], 0, 0⟩
  (state.chunks.flatten, state.total, decide (limit < state.total))

structure Reading.Holds (limit : Nat) (seen : List UInt8) (state : Reading) : Prop where
  content : state.chunks.flatten = seen.take limit
  retained : state.retained = (seen.take limit).length
  total : state.total = seen.length

variable {limit : Nat} {seen chunk : List UInt8}

theorem Reading.read_holds {state : Reading} (holds : state.Holds limit seen) (some_ : chunk ≠ []) :
    (state.read limit chunk).Holds limit (seen ++ chunk) := by
  have total : state.total + chunk.length = (seen ++ chunk).length := by
    rw [holds.total, List.length_append]
  have positive : 0 < chunk.length := List.length_pos_of_ne_nil some_
  have parts := take_more limit seen chunk
  rw [← holds.retained] at parts
  have part : chunk.take (min chunk.length (limit - state.retained)) = chunk.take
      (limit - state.retained) := by
    rw [List.take_eq_take_iff]
    omega
  unfold Reading.read
  dsimp only
  split
  · constructor
    · rw [parts, ← holds.content, part, List.flatten_append, List.flatten_singleton]
    · rw [parts, List.length_append, ← holds.retained, List.length_take, Nat.min_comm]
    · exact total
  · next full =>
      have room : limit - state.retained = 0 := by omega
      rw [room, List.take_zero, List.append_nil] at parts
      constructor
      · rw [parts]
        exact holds.content
      · rw [parts]
        exact holds.retained
      · exact total

theorem readBounded_eq (limit : Nat) {stream : List UInt8} (division : Division stream) :
    readBounded limit division.chunks = (stream.take limit, stream.length,
      decide (limit < stream.length)) := by
  have start : Reading.Holds limit [] ⟨[], 0, 0⟩ :=
    ⟨by rw [List.take_nil]; rfl, by rw [List.take_nil]; rfl, rfl⟩
  have run := division.invariant start fun _ _ _ holds some_ => Reading.read_holds holds some_
  have truncated := congrArg (fun total => decide (limit < total)) run.total
  exact Prod.ext run.content (Prod.ext run.total truncated)

end SynapseOS.LocalGit

namespace SynapseOS.GitTools

structure Reading where
  chunks : List (List UInt8)
  retained : Nat
  truncated : Bool

def Reading.read (limit : Nat) (state : Reading) (chunk : List UInt8) : Reading :=
  let available := limit - state.retained
  let truncated := if available < chunk.length then true else state.truncated
  if available ≠ 0 then
    let kept := chunk.take available
    ⟨state.chunks ++ [kept], state.retained + kept.length, truncated⟩
  else { state with truncated := truncated }

def readLimited (limit : Nat) (chunks : List (List UInt8)) : List UInt8 × Bool :=
  let state := untilEmpty (Reading.read limit) chunks ⟨[], 0, false⟩
  (state.chunks.flatten, state.truncated)

structure Reading.Holds (limit : Nat) (seen : List UInt8) (state : Reading) : Prop where
  content : state.chunks.flatten = seen.take limit
  retained : state.retained = (seen.take limit).length
  truncated : state.truncated = decide (limit < seen.length)

variable {limit : Nat} {seen chunk : List UInt8}

theorem Reading.read_holds {state : Reading} (holds : state.Holds limit seen) (some_ : chunk ≠ []) :
    (state.read limit chunk).Holds limit (seen ++ chunk) := by
  have flag : (if limit - state.retained < chunk.length then true else state.truncated) =
      decide (limit < (seen ++ chunk).length) := by
    rw [exceeds_more limit seen some_, ← holds.truncated, ← holds.retained]
    exact flag_room _ _
  have parts := take_more limit seen chunk
  rw [← holds.retained] at parts
  unfold Reading.read
  dsimp only
  split
  · constructor
    · rw [parts, ← holds.content, List.flatten_append, List.flatten_singleton]
    · rw [parts, List.length_append, ← holds.retained]
    · exact flag
  · next full =>
      rw [not_not.mp full, List.take_zero, List.append_nil] at parts
      constructor
      · rw [parts]
        exact holds.content
      · rw [parts]
        exact holds.retained
      · exact flag

theorem readLimited_eq (limit : Nat) {stream : List UInt8} (division : Division stream) :
    readLimited limit division.chunks = (stream.take limit, decide (limit < stream.length)) := by
  have start : Reading.Holds limit [] ⟨[], 0, false⟩ :=
    ⟨by rw [List.take_nil]; rfl, by rw [List.take_nil]; rfl, by simp⟩
  have run := division.invariant start fun _ _ _ holds some_ => Reading.read_holds holds some_
  exact Prod.ext run.content run.truncated

end SynapseOS.GitTools

namespace SynapseOS.Streams

/-- However a stream comes in, the three readers return the same first bytes of it, and say alike
whether there were more. -/
theorem readers_agree (limit : Nat) (stream : List UInt8) (first second third : Division stream) :
    Commands.readBounded limit first.chunks =
        (stream.take (min limit stream.length), decide (limit < stream.length)) ∧
      LocalGit.readBounded limit second.chunks =
        (stream.take (min limit stream.length), stream.length, decide (limit < stream.length)) ∧
      GitTools.readLimited limit third.chunks =
        (stream.take (min limit stream.length), decide (limit < stream.length)) := by
  have same : stream.take (min limit stream.length) = stream.take limit := by
    rw [List.take_eq_take_iff]
    omega
  rw [same]
  exact ⟨Commands.readBounded_eq limit first, LocalGit.readBounded_eq limit second,
    GitTools.readLimited_eq limit third⟩

end SynapseOS.Streams
