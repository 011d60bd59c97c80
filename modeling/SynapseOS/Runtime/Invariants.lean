import SynapseOS.Runtime.Protocol

/-! What holds wherever a run comes to: the counters agree with the trace and keep their bounds. -/

namespace SynapseOS.Runtime

open Tools

section Window

variable {α : Type}

/-- Keeping a window while appending is taking the window of everything appended. -/
theorem rtake_concat (xs : List α) (x : α) (n : Nat) :
    (xs.rtake n ++ [x]).rtake n = (xs ++ [x]).rtake n := by
  rw [List.rtake_eq_reverse_take_reverse, List.rtake_eq_reverse_take_reverse,
    List.rtake_eq_reverse_take_reverse]
  rw [List.reverse_append, List.reverse_append, List.reverse_reverse]
  cases n with
  | zero => simp
  | succ n => simp [List.take_take]

theorem length_rtake_le (xs : List α) (n : Nat) : (xs.rtake n).length ≤ n := by
  rw [List.rtake_eq_reverse_take_reverse, List.length_reverse]
  exact List.length_take_le _ _

end Window

structure Kept (limits : RuntimeLimits) (l : Ledger) : Prop where
  calls : l.counters.toolCalls = callsOf l.trace
  tokens : l.counters.reportedTokens = tokensOf l.trace
  history : l.history = (entriesOf l.trace).rtake limits.maxHistoryEntries
  capped : l.counters.toolCalls ≤ limits.maxToolCalls
  paced : l.counters.toolCalls ≤ l.counters.iterations
  looped : l.counters.iterations ≤ limits.maxIterations

section Kept

variable {limits : RuntimeLimits} {p q : Point} {l m : Ledger}

theorem kept_log (kept : Kept limits l) (event : Event) (calls : event.calls = 0)
    (tokens : event.tokens = 0) (entry : event.entry? = none) : Kept limits (l.log event) := by
  refine ⟨?_, ?_, ?_, kept.capped, kept.paced, kept.looped⟩
  · rw [Ledger.log, callsOf_concat, calls]
    exact kept.calls
  · rw [Ledger.log, tokensOf_concat, tokens]
    exact kept.tokens
  · rw [Ledger.log, entriesOf_concat, entry, Option.toList_none, List.append_nil]
    exact kept.history

theorem kept_failed (kept : Kept limits l) : Kept limits l.failed :=
  ⟨kept.calls, kept.tokens, kept.history, kept.capped, kept.paced, kept.looped⟩

theorem kept_begun (kept : Kept limits l) (left_ : l.counters.iterations < limits.maxIterations) :
    Kept limits l.begun :=
  ⟨kept.calls, kept.tokens, kept.history, kept.capped, Nat.le_succ_of_le kept.paced, left_⟩

theorem kept_called (kept : Kept limits l) (name : String) (arguments : List (String × JsonValue))
    (allowed : l.counters.toolCalls < limits.maxToolCalls)
    (first : l.counters.toolCalls < l.counters.iterations) :
    Kept limits (l.called name arguments) := by
  refine ⟨?_, ?_, ?_, allowed, first, kept.looped⟩
  · rw [Ledger.called, Ledger.log, callsOf_concat, ← kept.calls]
    rfl
  · rw [Ledger.called, Ledger.log, tokensOf_concat, ← kept.tokens]
    rfl
  · rw [Ledger.called, Ledger.log, entriesOf_concat]
    exact kept.history.trans (by simp [Event.entry?])

theorem kept_answered (kept : Kept limits l) (step : RuntimeStep)
    (output : ReasonerOutput Thought) : Kept limits (l.answered step output) := by
  refine ⟨?_, ?_, ?_, kept.capped, kept.paced, kept.looped⟩
  · rw [Ledger.answered, Ledger.log, callsOf_concat, ← kept.calls]
    rfl
  · rw [Ledger.answered, Ledger.log, tokensOf_concat, ← kept.tokens]
    rfl
  · rw [Ledger.answered, Ledger.log, entriesOf_concat]
    exact kept.history.trans (by simp [Event.entry?])

theorem kept_appended (kept : Kept limits l) (entry : RuntimeHistoryEntry) :
    Kept limits (l.appended limits.maxHistoryEntries entry) := by
  refine ⟨?_, ?_, ?_, kept.capped, kept.paced, kept.looped⟩
  · rw [Ledger.appended, Ledger.log, callsOf_concat, ← kept.calls]
    rfl
  · rw [Ledger.appended, Ledger.log, tokensOf_concat, ← kept.tokens]
    rfl
  · rw [Ledger.appended, Ledger.log, entriesOf_concat, kept.history]
    exact rtake_concat _ entry _

theorem kept_move (kept : Kept limits l) (taken : Move limits p l q m) : Kept limits m := by
  cases taken with
  | begin_ _ left_ => exact kept_begun kept left_
  | call _ name arguments _ allowed first => exact kept_called kept name arguments allowed first
  | answer _ step output => exact kept_answered kept step output
  | append _ _ entry => exact kept_appended kept entry
  | recover | pay => exact kept_failed kept
  | invalid | expire | timeOutInvalid => exact kept
  | open_ | ask | refuse | drop | obtain_ | unaudited | interrupt | close | observed | rethrow
  | reject | terminate | timeOut | timeOutRejected | withdraw => exact kept_log kept _ rfl rfl rfl

theorem reached_kept (reached : Reached limits p l) : Kept limits l := by
  apply reached_invariant (fun _ l => Kept limits l) _ _ reached
  · exact ⟨rfl, rfl, (List.rtake_nil _).symm, Nat.zero_le _, Nat.le_refl _, Nat.zero_le _⟩
  · exact fun _ _ _ _ _ kept taken => kept_move kept taken

end Kept

def Sized : Point → Ledger → Prop
  | .opened _ _, l | .asked _, l | .refused _ _, l | .overdue, l | .closed _ _, l =>
      l.counters.Bounded
  | .thrown e, l => e = .validation ∨ l.counters.Bounded
  | .resting _, _ | .replied _ _, _ | .escaped _, _ => True

section Sized

variable {limits : RuntimeLimits} {p q : Point} {l m : Ledger}

theorem describes_bounded {record : RuntimeAuditRecord} {step : RuntimeStep}
    {outcome : RuntimeAuditOutcome} {reason : Option RuntimeTerminalReason}
    (describes : Describes record l step outcome reason) : l.counters.Bounded :=
  describes.counters ▸ record.bounded

theorem sized_move (sized : Sized p l) (taken : Move limits p l q m) : Sized q m := by
  cases taken with
  | begin_ | answer | obtain_ | unaudited | close | observed | recover | pay | append
  | timeOutRejected | timeOutInvalid | withdraw => trivial
  | open_ _ _ _ _ describes => exact describes_bounded (l := l) describes
  | terminate _ _ _ _ _ describes => exact describes_bounded (l := l) describes
  | timeOut _ _ describes => exact describes_bounded (l := l) describes
  | rethrow _ _ _ _ describes => exact .inr (describes_bounded (l := l) describes)
  | ask | refuse => exact sized
  | call _ _ _ _ allowed =>
      obtain ⟨iterations, _, failures, tokens⟩ := sized
      have most := limits.tool_bounds
      refine ⟨iterations, ?_, failures, tokens⟩
      show l.counters.toolCalls + 1 ≤ 1000
      omega
  | drop | interrupt => exact .inr sized
  | reject _ _ record _ _ counters => exact .inr (counters ▸ record.bounded)
  | invalid => exact .inl rfl
  | expire _ e late =>
      rcases sized with rfl | bounded
      · rcases late with other | other <;> cases other
      · exact bounded

theorem reached_sized (reached : Reached limits p l) : Sized p l := by
  apply reached_invariant Sized _ _ reached
  · trivial
  · exact fun _ _ _ _ _ sized taken => sized_move sized taken

end Sized

structure Ordered (l : Ledger) : Prop where
  past : ∀ record ∈ recordsOf l.trace, record.counters ≤ l.counters
  sorted : (recordsOf l.trace).Pairwise fun a b => a.counters ≤ b.counters

section Ordered

variable {limits : RuntimeLimits} {p q : Point} {l m : Ledger}

theorem ordered_counted (ordered : Ordered l) (records : recordsOf m.trace = recordsOf l.trace)
    (counted : l.counters ≤ m.counters) : Ordered m := by
  refine ⟨?_, ?_⟩
  · intro record member
    rw [records] at member
    exact counters_trans (ordered.past record member) counted
  · rw [records]
    exact ordered.sorted

theorem ordered_log (ordered : Ordered l) (event : Event) (silent : event.record? = none) :
    Ordered (l.log event) := by
  have records : recordsOf (l.log event).trace = recordsOf l.trace := by
    rw [Ledger.log, recordsOf_concat, silent, Option.toList_none, List.append_nil]
  exact ordered_counted ordered records (counters_refl l.counters)

theorem ordered_noted (ordered : Ordered l) (record : RuntimeAuditRecord) (raised : Option Exn)
    (counters : record.counters = l.counters) : Ordered (l.noted record raised) := by
  have records : recordsOf (l.noted record raised).trace = recordsOf l.trace ++ [record] := by
    rw [Ledger.noted, Ledger.log, recordsOf_concat]
    rfl
  refine ⟨?_, ?_⟩
  · intro other member
    rw [records] at member
    rcases List.mem_append.mp member with earlier | last
    · exact ordered.past other earlier
    · rw [List.mem_singleton.mp last, counters]
      exact counters_refl _
  · rw [records]
    apply List.pairwise_append.mpr
    refine ⟨ordered.sorted, List.pairwise_singleton _ _, ?_⟩
    intro other member last same
    rw [List.mem_singleton.mp same, counters]
    exact ordered.past other member

theorem ordered_move (ordered : Ordered l) (taken : Move limits p l q m) : Ordered m := by
  cases taken with
  | invalid | expire | timeOutInvalid => exact ordered
  | begin_ =>
      have counted : l.counters ≤ l.begun.counters :=
        ⟨Nat.le_succ _, Nat.le_refl _, Nat.le_refl _, Nat.le_refl _⟩
      exact ordered_counted (m := l.begun) ordered rfl counted
  | recover | pay =>
      have counted : l.counters ≤ l.failed.counters :=
        ⟨Nat.le_refl _, Nat.le_refl _, Nat.le_succ _, Nat.le_refl _⟩
      exact ordered_counted (m := l.failed) ordered rfl counted
  | call _ name arguments =>
      have logged := ordered_log ordered (.toolCalled name arguments) rfl
      exact ordered_counted logged rfl ⟨Nat.le_refl _, Nat.le_succ _, Nat.le_refl _, Nat.le_refl _⟩
  | answer _ step output =>
      have logged := ordered_log ordered (.answered step output) rfl
      exact ordered_counted logged rfl
        ⟨Nat.le_refl _, Nat.le_refl _, Nat.le_refl _, Nat.le_add_right _ _⟩
  | append _ _ entry =>
      have logged := ordered_log ordered
        (.appended entry ((l.history ++ [entry]).rtake limits.maxHistoryEntries)) rfl
      exact ordered_counted logged rfl (counters_refl _)
  | ask | refuse | drop | obtain_ | unaudited | interrupt | withdraw =>
      exact ordered_log ordered _ rfl
  | open_ _ _ record _ describes => exact ordered_noted ordered record _ describes.counters
  | close _ _ record _ _ describes => exact ordered_noted ordered record _ describes.counters
  | observed _ _ record _ describes => exact ordered_noted ordered record _ describes.counters
  | rethrow _ record _ _ describes => exact ordered_noted ordered record _ describes.counters
  | reject _ _ record _ _ counters => exact ordered_noted ordered record _ counters
  | terminate _ record _ _ _ describes => exact ordered_noted ordered record _ describes.counters
  | timeOut _ record describes => exact ordered_noted ordered record _ describes.counters
  | timeOutRejected _ record _ describes =>
      exact ordered_noted ordered record _ describes.counters

theorem reached_ordered (reached : Reached limits p l) : Ordered l := by
  apply reached_invariant (fun _ l => Ordered l) _ _ reached
  · refine ⟨?_, List.Pairwise.nil⟩
    intro record member
    cases member
  · exact fun _ _ _ _ _ ordered taken => ordered_move ordered taken

theorem before_begun (reached : Reached limits p l) : Before 0 l.begun := by
  intro record member _ current
  have past : record.counters.iterations ≤ l.counters.iterations :=
    ((reached_ordered reached).past record member).1
  have same : record.counters.iterations = l.counters.iterations + 1 := current
  omega

end Ordered

section Closed

variable {limits : RuntimeLimits} {l : Ledger} {status : RuntimeTerminalStatus}
  {reason : RuntimeTerminalReason}

theorem reached_closed (reached : Reached limits (.closed status reason) l) :
    status.accepts reason = true ∧ (reason = .taskCompleted → Completed l.trace) := by
  cases reached with
  | move _ taken =>
      cases taken with
      | terminate _ _ _ _ _ _ _ accepts completed =>
          refine ⟨accepts, fun done => ?_⟩
          rcases completed done
            with ⟨output, decision, member, said⟩ | ⟨output, value, member, said⟩
          · exact .inl ⟨output, decision, List.mem_append_left _ member, said⟩
          · exact .inr ⟨output, value, List.mem_append_left _ member, said⟩
      | timeOut => exact ⟨by decide, fun other => nomatch other⟩

end Closed

end SynapseOS.Runtime
