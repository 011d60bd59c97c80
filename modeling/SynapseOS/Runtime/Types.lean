import SynapseOS.Tools.Types

/-! Values of one bounded agent loop (`core/runtime/types.py`, `audit.py`, `errors.py`). -/

namespace SynapseOS.Runtime

open Tools

inductive RuntimeStep
  | observe
  | plan
  | decide
  | act
  | observeResult
  | verify
  | report
  deriving DecidableEq, Repr

inductive RuntimeAction
  | toolCall
  | complete
  | escalate
  deriving DecidableEq, Repr

inductive RuntimeVerificationOutcome
  | continue_
  | complete
  | escalate
  deriving DecidableEq, Repr

inductive RuntimeTerminalStatus
  | completed
  | escalated
  | limitReached
  | timedOut
  | failed
  deriving DecidableEq, Repr

inductive RuntimeTerminalReason
  | taskCompleted
  | agentEscalated
  | humanApprovalRequired
  | permissionDenied
  | stagnationDetected
  | maxIterationsReached
  | maxToolCallsReached
  | tokenBudgetReached
  | globalTimeout
  | maxFailuresReached
  | auditFailed
  | invalidLlmOutput
  | cancelled
  deriving DecidableEq, Repr

def statusReasons : RuntimeTerminalStatus → List RuntimeTerminalReason
  | .completed => [.taskCompleted]
  | .escalated => [.agentEscalated, .humanApprovalRequired, .permissionDenied, .stagnationDetected]
  | .limitReached => [.maxIterationsReached, .maxToolCallsReached, .tokenBudgetReached]
  | .timedOut => [.globalTimeout]
  | .failed => [.maxFailuresReached, .auditFailed, .invalidLlmOutput]

def RuntimeTerminalStatus.accepts (status : RuntimeTerminalStatus)
    (reason : RuntimeTerminalReason) : Bool :=
  (statusReasons status).contains reason

structure RuntimeLimits where
  maxIterations : Nat
  timeoutSeconds : ℚ
  maxToolCalls : Nat
  maxFailures : Nat
  maxTokens : Nat
  maxHistoryEntries : Nat
  stagnationWindow : Nat
  maxStepTokens : Nat
  iteration_bounds : 1 ≤ maxIterations ∧ maxIterations ≤ 100
  timeout_bounds : 0 < timeoutSeconds ∧ timeoutSeconds ≤ 3600
  tool_bounds : maxToolCalls ≤ 1000
  failure_bounds : maxFailures ≤ 100
  token_bounds : 1 ≤ maxTokens ∧ maxTokens ≤ 10000000
  history_bounds : 1 ≤ maxHistoryEntries ∧ maxHistoryEntries ≤ 1000
  window_bounds : 2 ≤ stagnationWindow ∧ stagnationWindow ≤ 20
  step_bounds : 1 ≤ maxStepTokens ∧ maxStepTokens ≤ 131072
  window_retained : stagnationWindow ≤ maxHistoryEntries

structure Text (limit : Nat) where
  text : String
  bounds : 1 ≤ text.length ∧ text.length ≤ limit
  deriving DecidableEq

def notBlank (text : String) : Bool := text.toList.any fun c => !c.isWhitespace

structure RuntimeTask where
  taskId : UUID
  objective : Text 8192
  acceptanceCriteria : List (Text 1024)
  objective_present : notBlank objective.text = true
  criteria_bounds : 1 ≤ acceptanceCriteria.length ∧ acceptanceCriteria.length ≤ 32
  criteria_present : (acceptanceCriteria.all fun item => notBlank item.text) = true

structure RuntimeObservation where
  summary : Text 4096
  facts : List (Text 1024) := []
  uncertainties : List (Text 1024) := []
  facts_bounds : facts.length ≤ 32
  uncertainties_bounds : uncertainties.length ≤ 16

structure RuntimePlan where
  objective : Text 4096
  steps : List (Text 1024)
  successCriteria : List (Text 1024)
  steps_bounds : 1 ≤ steps.length ∧ steps.length ≤ 32
  criteria_bounds : 1 ≤ successCriteria.length ∧ successCriteria.length ≤ 16

/-- `require_action_fields`: a tool name exactly on a tool call, arguments on no other action. -/
def actionFields (action : RuntimeAction) (toolName : Option Identifier)
    (arguments : List (String × JsonValue)) : Bool :=
  if action = .toolCall then toolName.isSome else toolName.isNone && arguments.isEmpty

structure RuntimeDecision where
  action : RuntimeAction
  toolName : Option Identifier
  arguments : List (String × JsonValue)
  rationale : Text 4096
  confidence : ℚ
  arguments_bounds : arguments.length ≤ 128
  confidence_bounds : 0 ≤ confidence ∧ confidence ≤ 1
  action_fields : actionFields action toolName arguments = true

structure RuntimeVerification where
  outcome : RuntimeVerificationOutcome
  summary : Text 4096
  progressMade : Bool

structure RuntimeReport where
  summary : Text 4096
  details : List (Text 1024) := []
  nextActions : List (Text 1024) := []
  details_bounds : details.length ≤ 32
  actions_bounds : nextActions.length ≤ 16

structure ReasonerOutput (α : Type) where
  value : α
  reportedTokens : Nat
  usageAvailable : Bool
  token_bounds : reportedTokens ≤ 10000000
  consistent_usage : usageAvailable = false → reportedTokens = 0

def ReasonerOutput.map {α β : Type} (f : α → β) (output : ReasonerOutput α) : ReasonerOutput β :=
  { output with value := f output.value }

structure RuntimeHistoryEntry where
  iteration : Nat
  step : RuntimeStep
  action : Option RuntimeAction := none
  toolName : Option Identifier := none
  toolErrorCode : Option ToolErrorCode := none
  reportedTokens : Nat := 0
  iteration_bounds : 1 ≤ iteration ∧ iteration ≤ 100
  deriving DecidableEq

inductive RuntimeAuditOutcome
  | started
  | succeeded
  | failed
  | denied
  | timedOut
  | cancelled
  | escalated
  | limitReached
  deriving DecidableEq, Repr

inductive RuntimeErrorCode
  | invalidRequest
  | llmFailed
  | llmOutputInvalid
  | auditFailed
  | toolFailed
  | budgetExceeded
  deriving DecidableEq, Repr

/-- What a Python call can raise here. `expired` is the `CancelledError` by which the run's own
`asyncio.timeout` interrupts an await, `cancelled` any other one. -/
inductive Exn
  /-- `core.runtime.RuntimeError`. -/
  | runtime (code : RuntimeErrorCode)
  /-- `ToolAuditError`. -/
  | toolAudit
  /-- Another `ToolError`. -/
  | tool (code : ToolErrorCode)
  /-- `TimeoutError`. -/
  | timeout
  | expired
  | cancelled
  /-- A `ValidationError` of pydantic. -/
  | validation
  | other (name : String)
  deriving DecidableEq, Repr

structure Counters where
  iterations : Nat
  toolCalls : Nat
  failures : Nat
  reportedTokens : Nat
  deriving DecidableEq

def Counters.Bounded (c : Counters) : Prop :=
  c.iterations ≤ 100 ∧ c.toolCalls ≤ 1000 ∧ c.failures ≤ 100 ∧ c.reportedTokens ≤ 10000000

instance (c : Counters) : Decidable c.Bounded := inferInstanceAs (Decidable (_ ∧ _))

instance : LE Counters where
  le c d := c.iterations ≤ d.iterations ∧ c.toolCalls ≤ d.toolCalls ∧ c.failures ≤ d.failures ∧
    c.reportedTokens ≤ d.reportedTokens

theorem counters_refl (c : Counters) : c ≤ c :=
  ⟨Nat.le_refl _, Nat.le_refl _, Nat.le_refl _, Nat.le_refl _⟩

theorem counters_trans {c d e : Counters} (first : c ≤ d) (second : d ≤ e) : c ≤ e :=
  ⟨first.1.trans second.1, first.2.1.trans second.2.1, first.2.2.1.trans second.2.2.1,
    first.2.2.2.trans second.2.2.2⟩

structure RuntimeAuditRecord where
  agentId : Identifier
  agentRunId : UUID
  projectId : UUID
  taskId : UUID
  correlationId : UUID
  step : RuntimeStep
  outcome : RuntimeAuditOutcome
  durationMs : Int
  counters : Counters
  reason : Option RuntimeTerminalReason := none
  action : Option RuntimeAction := none
  toolName : Option Identifier := none
  errorCode : Option ToolErrorCode := none
  duration_bounds : 0 ≤ durationMs ∧ durationMs ≤ 3600000
  bounded : counters.Bounded

structure RuntimeResult where
  status : RuntimeTerminalStatus
  reason : RuntimeTerminalReason
  summary : Text 4096
  counters : Counters
  usageAvailable : Bool
  durationMs : ℚ
  history : List RuntimeHistoryEntry
  report : Option RuntimeReport := none
  bounded : counters.Bounded
  duration_bounds : 0 ≤ durationMs
  history_bounds : history.length ≤ 1000
  truthful : status.accepts reason = true

end SynapseOS.Runtime
