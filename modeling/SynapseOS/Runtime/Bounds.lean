import SynapseOS.Runtime.Accounting

/-! When `AgentRuntime.run` returns a result. -/

namespace SynapseOS.Runtime

open Tools

/-- Where the recorder accepts everything and nobody cancels, a run returns exactly when the task
is in scope, the answers report at most 10000000 tokens, at most 100 failures occur, and the tool
executor raises no error but `ToolAuditError`. -/
theorem run_returns (rt : AgentRuntime) (task : RuntimeTask) (context : ToolExecutionContext)
    (conforming : Conforming (run rt task context start).2.trace) :
    (∃ r, (run rt task context start).1 = .ok r) ↔
      task.taskId = context.taskId ∧ Fits (run rt task context start).2.trace := by
  have ends := run_ends rt task context
  constructor
  · rintro ⟨r, returned⟩
    rw [returned] at ends
    exact returned_fits ends conforming
  · rintro ⟨matched, fits⟩
    exact conforming_returns ends matched conforming fits

theorem verdict_ok {outcome : Except Exn RuntimeResult}
    {pair : RuntimeTerminalStatus × RuntimeTerminalReason} (told : verdict outcome = .ok pair) :
    ∃ r, outcome = .ok r := by
  cases outcome with
  | error e => cases told
  | ok r => exact ⟨r, rfl⟩

theorem run_returns_sample :
    (∃ r, (run sampleRuntime sampleTask sampleContext start).1 = .ok r) ∧
      Fits (run sampleRuntime sampleTask sampleContext start).2.trace := by
  have told : verdict (run sampleRuntime sampleTask sampleContext start).1 =
      .ok (.completed, .taskCompleted) := by decide +kernel
  have returned := verdict_ok told
  have conforming : Conforming (run sampleRuntime sampleTask sampleContext start).2.trace := by
    decide +kernel
  exact ⟨returned, ((run_returns sampleRuntime sampleTask sampleContext conforming).mp returned).2⟩

def hungryEnv : Collaborators :=
  { sampleEnv with
    observe := fun _ _ _ => .ok (reply sampleObservation 6000000 (by decide))
    plan := fun _ _ _ _ => .ok (reply samplePlan 6000000 (by decide)) }

def hungryRuntime : AgentRuntime := ⟨hungryEnv, sampleLimits 10000000 (by decide), by decide⟩

def brokenEnv : Collaborators :=
  { sampleEnv with execute := fun _ _ _ _ => .error (.tool .compensationFailed) }

def brokenRuntime : AgentRuntime := ⟨brokenEnv, sampleLimits 100 hundred_tokens, by decide⟩

theorem run_raises :
    (Conforming (run hungryRuntime sampleTask sampleContext start).2.trace ∧
      sampleTask.taskId = sampleContext.taskId ∧
      verdict (run hungryRuntime sampleTask sampleContext start).1 = .error .validation) ∧
    (Conforming (run brokenRuntime sampleTask sampleContext start).2.trace ∧
      verdict (run brokenRuntime sampleTask sampleContext start).1 =
        .error (.tool .compensationFailed)) := by
  decide +kernel

end SynapseOS.Runtime
