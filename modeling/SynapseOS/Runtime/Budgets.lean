import SynapseOS.Lib.Trace
import SynapseOS.Runtime.Runs

/-! The budgets of a run: tool calls, tokens and retained history. -/

namespace SynapseOS.Runtime

open Tools

def Event.starts : Event → Bool
  | .asked _ | .toolCalled _ _ => true
  | .recorded record _ => decide (record.outcome = .started)
  | .cancellation _ _ | .answered _ _ | .refused _ _ | .toolReturned _ | .toolRaised _
  | .appended _ _ => false

/-- The recorder persists a record or fails closed: it raises no other `RuntimeError`. -/
def FailsClosed (trace : Trace) : Prop :=
  ∀ record code, .recorded record (some (.runtime code)) ∈ trace → code = .auditFailed

/-- Nothing starts once the reported tokens have reached the budget. -/
def Thrifty (limits : RuntimeLimits) : Trace → Prop :=
  Always fun before event => event.starts = true → tokensOf before < limits.maxTokens

/-- After each append the history holds the last entries appended so far. -/
def Windowed (limits : RuntimeLimits) : Trace → Prop :=
  Always fun before event => ∀ entry retained, event = .appended entry retained →
    retained = (entriesOf before ++ [entry]).rtake limits.maxHistoryEntries

def Checked (limits : RuntimeLimits) : Trace → Prop :=
  Always fun before event => event.starts = true →
    Lax before ∨ tokensOf before < limits.maxTokens

section Moves

variable {limits : RuntimeLimits} {p q : Point} {l m : Ledger}

theorem checked_spare (checked : Checked limits l.trace) (kept : Kept limits l) (event : Event)
    (spare : event.starts = true → Spare limits l) : Checked limits (l.log event).trace := by
  apply always_concat checked
  intro starts
  rcases spare starts with lax | under
  · exact .inl lax
  · rw [kept.tokens] at under
    exact .inr under

theorem checked_move (checked : Checked limits l.trace) (kept : Kept limits l)
    (taken : Move limits p l q m) : Checked limits m.trace := by
  have quiet (event : Event) (still : event.starts = false) :
      Checked limits (l.log event).trace :=
    checked_spare checked kept event fun starts => absurd (still.symm.trans starts) (by decide)
  have noted (record : RuntimeAuditRecord) (raised : Option Exn) (step : RuntimeStep)
      (outcome : RuntimeAuditOutcome) (reason : Option RuntimeTerminalReason)
      (describes : Describes record l step outcome reason) (ended : outcome ≠ .started) :
      Checked limits (l.noted record raised).trace := by
    apply quiet
    show decide (record.outcome = .started) = false
    rw [describes.outcome]
    exact decide_eq_false ended
  cases taken with
  | begin_ | recover | pay | invalid | expire | timeOutInvalid => exact checked
  | open_ _ _ _ _ _ startable => exact checked_spare checked kept _ fun _ => startable.1
  | ask _ _ spare => exact checked_spare checked kept _ fun _ => spare
  | call _ name arguments spare =>
      exact checked_spare checked kept (.toolCalled name arguments) fun _ => spare
  | answer _ step output => exact quiet (.answered step output) rfl
  | append _ _ entry => exact quiet (.appended entry _) rfl
  | refuse | drop | obtain_ | unaudited | interrupt | withdraw => exact quiet _ rfl
  | close _ _ _ _ _ describes ended => exact noted _ _ _ _ _ describes ended
  | observed _ _ _ _ describes ended => exact noted _ _ _ _ _ describes ended
  | rethrow _ _ _ _ describes => exact noted _ _ _ _ _ describes (by decide)
  | reject _ _ record _ _ _ _ startable =>
      exact checked_spare checked kept _ fun starts => (startable (of_decide_eq_true starts)).1
  | terminate _ _ _ _ _ describes ended => exact noted _ _ _ _ _ describes ended
  | timeOut _ _ describes => exact noted _ _ _ _ _ describes (by decide)
  | timeOutRejected _ _ _ describes => exact noted _ _ _ _ _ describes (by decide)

theorem windowed_log (windowed : Windowed limits l.trace) (event : Event)
    (other : event.entry? = none) : Windowed limits (l.log event).trace := by
  apply always_concat windowed
  rintro entry retained rfl
  cases other

theorem windowed_move (windowed : Windowed limits l.trace) (kept : Kept limits l)
    (taken : Move limits p l q m) : Windowed limits m.trace := by
  cases taken with
  | begin_ | recover | pay | invalid | expire | timeOutInvalid => exact windowed
  | call _ name arguments => exact windowed_log windowed (.toolCalled name arguments) rfl
  | answer _ step output => exact windowed_log windowed (.answered step output) rfl
  | append _ _ entry =>
      apply always_concat windowed
      intro other retained same
      obtain ⟨rfl, rfl⟩ := Event.appended.inj same
      rw [kept.history]
      exact rtake_concat _ _ _
  | open_ | ask | refuse | drop | obtain_ | unaudited | interrupt | close | observed | rethrow
  | reject | terminate | timeOut | timeOutRejected | withdraw =>
      exact windowed_log windowed _ rfl

theorem reached_checked (reached : Reached limits p l) : Checked limits l.trace := by
  apply reached_invariant (fun _ l => Checked limits l.trace) always_nil _ reached
  exact fun _ _ _ _ before checked taken => checked_move checked (reached_kept before) taken

theorem reached_windowed (reached : Reached limits p l) : Windowed limits l.trace := by
  apply reached_invariant (fun _ l => Windowed limits l.trace) always_nil _ reached
  exact fun _ _ _ _ before windowed taken => windowed_move windowed (reached_kept before) taken

theorem checked_thrifty {trace : Trace} (checked : Checked limits trace)
    (closed : FailsClosed trace) : Thrifty limits trace := by
  intro before event after split starts
  rcases checked before event after split starts with ⟨record, code, other, member⟩ | under
  · have present : .recorded record (some (.runtime code)) ∈ trace := by
      rw [split]
      exact List.mem_append_left _ member
    exact absurd (closed record code present) other
  · exact under

end Moves

structure Within (limits : RuntimeLimits) (l : Ledger) : Prop where
  calls : callsOf l.trace ≤ min limits.maxToolCalls limits.maxIterations
  checked : Checked limits l.trace
  windowed : Windowed limits l.trace
  history : l.history = (entriesOf l.trace).rtake limits.maxHistoryEntries

theorem reached_within {limits : RuntimeLimits} {p : Point} {l : Ledger}
    (reached : Reached limits p l) : Within limits l := by
  have kept := reached_kept reached
  refine ⟨?_, reached_checked reached, reached_windowed reached, kept.history⟩
  rw [← kept.calls]
  exact le_min kept.capped (kept.paced.trans kept.looped)

theorem ends_within {rt : AgentRuntime} {task : RuntimeTask} {context : ToolExecutionContext}
    {outcome : Except Exn RuntimeResult} {l : Ledger} (ends : Ends rt task context outcome l) :
    Within rt.limits l := by
  cases ends with
  | mismatched => exact reached_within .start
  | returned _ _ _ _ _ reached => exact reached_within reached
  | auditFailed _ _ _ reached => exact reached_within reached
  | raised _ _ _ reached => exact reached_within reached
  | escaped _ _ _ reached => exact reached_within reached

theorem ends_truthful {rt : AgentRuntime} {task : RuntimeTask} {context : ToolExecutionContext}
    {r : RuntimeResult} {l : Ledger} (ends : Ends rt task context (.ok r) l) :
    r.history = l.history ∧ r.status.accepts r.reason = true ∧
      (r.reason = .taskCompleted → Completed l.trace) := by
  cases ends with
  | returned _ status reason _ _ reached reports =>
      have closed := reached_closed reached
      rw [reports.status, reports.reason]
      exact ⟨reports.history, closed⟩
  | auditFailed _ _ _ _ reports =>
      rw [reports.status, reports.reason]
      exact ⟨reports.history, by decide, fun other => nomatch other⟩

/-- The budgets of every run whose recorder fails closed. -/
theorem budgets_kept (rt : AgentRuntime) (task : RuntimeTask) (context : ToolExecutionContext)
    (closed : FailsClosed (run rt task context start).2.trace) :
    let world := (run rt task context start).2
    callsOf world.trace ≤ min rt.limits.maxToolCalls rt.limits.maxIterations ∧
      Thrifty rt.limits world.trace ∧
      Windowed rt.limits world.trace ∧
      world.run.history = (entriesOf world.trace).rtake rt.limits.maxHistoryEntries ∧
      world.run.history.length ≤ rt.limits.maxHistoryEntries ∧
      ∀ r, (run rt task context start).1 = .ok r →
        r.history = world.run.history ∧ r.status.accepts r.reason = true ∧
          (r.reason = .taskCompleted → Completed world.trace) := by
  intro world
  have ends := run_ends rt task context
  have within := ends_within ends
  have history : world.run.history = _ := within.history
  refine ⟨within.calls, checked_thrifty within.checked closed, within.windowed, history, ?_, ?_⟩
  · rw [history]
    exact length_rtake_le _ _
  · intro r returned
    rw [returned] at ends
    exact ends_truthful ends

def Event.closedly : Event → Bool
  | .recorded _ (some (.runtime code)) => decide (code = .auditFailed)
  | _ => true

theorem failsClosed_all {trace : Trace} (checked : trace.all Event.closedly = true) :
    FailsClosed trace := by
  intro record code member
  exact of_decide_eq_true (List.all_eq_true.mp checked _ member)

theorem budgets_kept_sample :
    let world := (run sampleRuntime sampleTask sampleContext start).2
    callsOf world.trace = 1 ∧ callsOf world.trace ≤ min 2 3 ∧
      world.run.history.length ≤ 2 ∧
      verdict (run sampleRuntime sampleTask sampleContext start).1 =
        .ok (.completed, .taskCompleted) := by
  have closed : FailsClosed (run sampleRuntime sampleTask sampleContext start).2.trace :=
    failsClosed_all (by decide +kernel)
  have kept := budgets_kept sampleRuntime sampleTask sampleContext closed
  exact ⟨by decide +kernel, kept.1, kept.2.2.2.2.1, by decide +kernel⟩

end SynapseOS.Runtime
