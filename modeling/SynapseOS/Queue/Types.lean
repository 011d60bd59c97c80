import Mathlib.Data.Rat.Defs
import Mathlib.Tactic

/-! Contracts of asynchronous AgentRun execution (`core/queue/types.py`). -/

namespace SynapseOS

/-- The 128 bits of a UUID as a number; only equality is used. -/
abbrev UUID := Nat

namespace Queue

inductive AgentRunStatus
  | queued
  | running
  | retrying
  | succeeded
  | failed
  | cancelled
  deriving DecidableEq, Repr

def AgentRunStatus.terminal : AgentRunStatus → Bool
  | .succeeded | .failed | .cancelled => true
  | .queued | .running | .retrying => false

/-- `Annotated[float, Field(gt=0.0, le=3_600.0)]`, as an exact number of seconds. -/
def BoundedSeconds (seconds : ℚ) : Prop := 0 < seconds ∧ seconds ≤ 3600

instance (seconds : ℚ) : Decidable (BoundedSeconds seconds) :=
  inferInstanceAs (Decidable (_ ∧ _))

def BoundedAttempt (attempt : Nat) : Prop := 1 ≤ attempt ∧ attempt ≤ 10

instance (attempt : Nat) : Decidable (BoundedAttempt attempt) :=
  inferInstanceAs (Decidable (_ ∧ _))

/-- The execution envelope of one attempt, with the field bounds it was validated for. -/
structure AgentRunJob where
  runId : UUID
  taskId : UUID
  idempotencyKey : String
  attempt : Nat := 1
  maxAttempts : Nat := 1
  timeoutSeconds : ℚ
  heartbeatTimeoutSeconds : ℚ
  key_bounds : 1 ≤ idempotencyKey.length ∧ idempotencyKey.length ≤ 128
  attempt_bounds : BoundedAttempt attempt
  max_attempts_bounds : BoundedAttempt maxAttempts
  timeout_bounds : BoundedSeconds timeoutSeconds
  heartbeat_bounds : BoundedSeconds heartbeatTimeoutSeconds
  deriving DecidableEq

/-- `job.model_copy(update={"attempt": job.attempt + 1})`. The copy is not validated; the
guard its two callers check keeps it within the field bounds. -/
def AgentRunJob.retry (job : AgentRunJob) (remaining : job.attempt < job.maxAttempts) :
    AgentRunJob :=
  { job with
    attempt := job.attempt + 1
    attempt_bounds := by
      have upper := job.max_attempts_bounds.2
      unfold BoundedAttempt
      omega }

section Retry

variable (job : AgentRunJob) (remaining : job.attempt < job.maxAttempts)

@[simp] theorem retry_runId : (job.retry remaining).runId = job.runId := rfl

@[simp] theorem retry_taskId : (job.retry remaining).taskId = job.taskId := rfl

@[simp] theorem retry_attempt : (job.retry remaining).attempt = job.attempt + 1 := rfl

@[simp] theorem retry_maxAttempts : (job.retry remaining).maxAttempts = job.maxAttempts := rfl

end Retry

structure QueueAuditEvent where
  runId : UUID
  taskId : UUID
  status : AgentRunStatus
  attempt : Nat
  attempt_bounds : BoundedAttempt attempt
  deriving DecidableEq

/-- The answer of the audit sink to an event: whether `record` raises. -/
abbrev Sink := QueueAuditEvent → Bool

/-- A reference to a `RunHandler` callable. What the call does is up to the environment. -/
abbrev RunHandler := Nat

structure WorkItem where
  job : AgentRunJob
  handler : RunHandler
  deriving DecidableEq

end Queue

end SynapseOS
