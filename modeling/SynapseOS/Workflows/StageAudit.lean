import SynapseOS.Security.Types
import SynapseOS.Workflows.Checkpoint

/-! The checkpoints of the QA and the Security stage (`core/workflows/qa_audit.py`,
`core/workflows/security_audit.py`). -/

namespace SynapseOS.Workflows

open Commands (CommandProfileId CommandTerminalStatus)
open Execution Program Tasks Tools

def Stage.waiting : Stage → TaskStatus
  | .qa => .waitingQa
  | .security => .waitingSecurity

inductive StageResult
  | qa (result : QA.QAResult)
  | security (result : Security.SecurityResult)

def StageResult.correlationId : StageResult → UUID
  | .qa result => result.correlationId
  | .security result => result.correlationId

/-- `ValidatedQAWorkflowScope` or `ValidatedSecurityWorkflowScope`: the agent is the one of the
stage, and the profiles and criteria are those of a QA request. -/
structure StageScope where
  task : UUID
  correlationId : UUID
  agentSlug : String
  developerId : UUID
  requiredTestProfiles : List CommandProfileId
  criterionCount : Nat
  /-- The head and the checksum of the pull request. -/
  evidence : Option (String × String)

section Texts

def qaDecisionValue : QA.QADecision → String
  | .passed => "PASSED"
  | .failed => "FAILED"

def securityDecisionValue : Security.SecurityDecision → String
  | .pass => "PASS"
  | .warn => "WARN"
  | .block => "BLOCK"

def terminalStatusValue : CommandTerminalStatus → String
  | .succeeded => "SUCCEEDED"
  | .failed => "FAILED"

def StageErrorCode.value : StageErrorCode → String
  | .invalidInput => "INVALID_INPUT"
  | .invalidScope => "INVALID_SCOPE"
  | .invalidState => "INVALID_STATE"
  | .invalidRole => "INVALID_ROLE"
  | .invalidAgent => "INVALID_AGENT"
  | .timeout => "TIMEOUT"
  | .collaboratorFailure => "COLLABORATOR_FAILURE"
  | .persistenceFailure => "PERSISTENCE_FAILURE"
  | .concurrentModification => "CONCURRENT_MODIFICATION"
  | .internalFailure => "INTERNAL_FAILURE"

end Texts

section Data

def StageResult.target : StageResult → TaskStatus
  | .qa result =>
      match result.decision with
      | .passed => .waitingSecurity
      | .failed => .changesRequested
  | .security result =>
      match result.decision with
      | .pass => .completed
      | .warn => .waitingHuman
      | .block => .changesRequested

def StageResult.reason : StageResult → String
  | .qa result =>
      match result.decision with
      | .passed => "Independent QA passed."
      | .failed => "Independent QA requested changes."
  | .security result =>
      match result.decision with
      | .pass => "Independent Security gate passed."
      | .warn => "Independent Security gate requires human review."
      | .block => "Independent Security gate blocked completion."

def startedData (stage : Stage) (scope : StageScope) : Metadata :=
  match stage with
  | .qa => [("qa_agent_id", .string scope.agentSlug),
      ("required_test_profile_count", .integer scope.requiredTestProfiles.length)]
  | .security => [("security_agent_id", .string scope.agentSlug)]

def evidenceData (scope : StageScope) : Metadata :=
  match scope.evidence with
  | none => []
  | some (head, checksum) =>
      [("head_sha", .string head), ("preparation_checksum", .string checksum)]

def severityCount (result : Security.SecurityResult) (severity : Security.SecuritySeverity) :
    JsonValue :=
  .integer (result.findings.countP fun finding => decide (finding.severity = severity))

def asciiText (text : PyStr) : String := String.ofList (text.map Char.ofNat)

def completedData (scope : StageScope) : StageResult → Metadata
  | .qa result =>
      [("qa_agent_id", .string scope.agentSlug),
        ("decision", .string (qaDecisionValue result.decision)),
        ("criterion_count", .integer result.criteria.length),
        ("finding_count", .integer result.findings.length),
        ("recommendation_count", .integer result.recommendations.length),
        ("confidence", .number (.finite result.confidence.val)),
        ("tests", .list (result.tests.map fun test =>
          .dict [("profile_id", .string test.profileId.value),
            ("status", .string (terminalStatusValue test.status))]))] ++ evidenceData scope
  | .security result =>
      [("decision", .string (securityDecisionValue result.decision)),
        ("confidence", .number (.finite result.confidence.val)),
        ("info_finding_count", severityCount result .info),
        ("low_finding_count", severityCount result .low),
        ("medium_finding_count", severityCount result .medium),
        ("high_finding_count", severityCount result .high),
        ("critical_finding_count", severityCount result .critical),
        ("confirmed_blocker_count",
          .integer (result.findings.countP fun finding => Security.isVeto finding.toFindingFields)),
        ("scanner_suite_id", .string (asciiText result.scanner.suiteId)),
        ("scanner_complete", .boolean result.scanner.complete),
        ("scanner_truncated", .boolean result.scanner.truncated)] ++ evidenceData scope

def escalatedData (stage : Stage) (scope : StageScope) (code : StageErrorCode) : Metadata :=
  [(match stage with | .qa => "qa_agent_id" | .security => "security_agent_id",
    .string scope.agentSlug), ("error_code", .string code.value)]

end Data

section Rows

variable (rows : List AuditEvent) (scope : StageScope)

def hasQaEvent (type : EventType) : Bool :=
  rows.any fun row =>
    decide (row.taskId = scope.task ∧ row.correlationId = some scope.correlationId ∧
    row.actorId = some (.ofString scope.agentSlug) ∧ row.eventType = type)

def isSecurityType : EventType → Bool
  | .started .security | .completed .security | .escalated .security => true
  | _ => false

def isSecurityTerminal : EventType → Bool
  | .completed .security | .escalated .security => true
  | _ => false

def securityRows (task : UUID) : List AuditEvent :=
  rows.filter fun row =>
    decide (row.taskId = task ∧ row.resourceType = some (.stageWorkflow .security)) &&
    isSecurityType row.eventType

def correlatedCount (correlation : Option UUID) (type : EventType → Bool) : Nat :=
  rows.countP fun row => decide (row.correlationId = correlation) && type row.eventType

def hasUnmatchedSecurityStart (task : UUID) : Bool :=
  let kept := securityRows rows task
  kept.any fun row => decide (correlatedCount kept row.correlationId isSecurityTerminal <
    correlatedCount kept row.correlationId fun type => decide (type = .started .security))

def hasCurrentSecurityEvent : Bool :=
  (securityRows rows scope.task).any fun row =>
    decide (row.correlationId = some scope.correlationId)

def startRefused : Stage → Bool
  | .qa => hasQaEvent rows scope (.started .qa)
  | .security => hasUnmatchedSecurityStart rows scope.task || hasCurrentSecurityEvent rows scope

def hasMatchingStart : Stage → Bool
  | .qa => hasQaEvent rows scope (.started .qa) &&
      !([EventType.completed .qa, .escalated .qa].any (hasQaEvent rows scope))
  | .security =>
      let kept := securityRows rows scope.task
      let starts := kept.countP fun row => decide (row.correlationId = some scope.correlationId ∧
        row.actorId = some (.ofString scope.agentSlug) ∧ row.eventType = .started .security)
      decide (starts = 1 ∧ correlatedCount kept (some scope.correlationId) isSecurityTerminal = 0)

end Rows

section Stages

variable (stage : Stage) (calls : Calls) (scope : StageScope)

def checkpointEvent (type : EventType) (project : UUID) (data : Metadata) : AuditEvent where
  actorType := some .agent
  actorId := some (.ofString scope.agentSlug)
  projectId := project
  taskId := scope.task
  eventType := type
  action := .recordCheckpoint stage
  resourceType := some (.stageWorkflow stage)
  result := .succeeded
  data := .fields data
  correlationId := some scope.correlationId

/-- `_stage_qa_event` and `_stage_security_event`. -/
def stageEvent (type : EventType) (data : Metadata) : Program Session Exn Unit := do
  let row ← readTask scope.task
  call calls (.add type)
  addEvent (checkpointEvent stage scope type row.projectId data)

def queryRows : Program Session Exn (List AuditEvent) := do
  call calls .query
  let session ← look
  pure session.working.audits

def stageStarted : Program Session Exn Unit := do
  let rows ← queryRows calls
  if startRefused rows scope stage = true then raise (.stage stage .invalidState)
  else stageEvent stage calls scope (.started stage) (startedData stage scope)

def requireMatchingStart : Program Session Exn Unit := do
  let rows ← queryRows calls
  if hasMatchingStart rows scope stage = true then pure () else raise (.stage stage .invalidState)

def completionContext (result : StageResult) : TransitionContext where
  actorType := .agent
  actorId := some (.ofString scope.agentSlug)
  reason := .ofString result.reason
  correlationId := some scope.correlationId

def escalationContext (code : StageErrorCode) : TransitionContext where
  actorType := .system
  actorId := none
  reason := .ofString (match stage with
    | .qa => "QA workflow safely escalated for human attention."
    | .security => "Security workflow safely escalated for human attention.")
  metadata := [(match stage with
    | .qa => "qa_workflow_error_code"
    | .security => "security_workflow_error_code", .string code.value)]
  correlationId := some scope.correlationId

def stageCompleted (result : StageResult) : Program Session Exn Unit := do
  requireMatchingStart stage calls scope
  transition calls scope.task result.target (completionContext scope result)
  stageEvent stage calls scope (.completed stage) (completedData scope result)

def stageEscalated (code : StageErrorCode) : Program Session Exn Unit := do
  requireMatchingStart stage calls scope
  transition calls scope.task .waitingHuman (escalationContext stage scope code)
  stageEvent stage calls scope (.escalated stage) (escalatedData stage scope code)

def normalizeCode : Exn → StageErrorCode
  | .stage raised code => if raised = stage then code else .internalFailure
  | .invalidTransition _ _ => .concurrentModification
  | .workflow .timeout | .sqlalchemy true => .timeout
  | .workflow _ | .sqlalchemy false => .persistenceFailure
  | _ => .internalFailure

def stageHandling : Handling where
  missing := .stage stage .invalidScope
  mismatch := .stage stage .concurrentModification
  normalize := fun e => .stage stage (normalizeCode stage e)
  persistence := .stage stage .persistenceFailure
  keepsAgent := false

def commitStageCheckpoint (staged : Program Session Exn Unit) : Program Session Exn Unit :=
  commitCheckpoint (stageHandling stage) calls scope.task stage.waiting
    (some scope.developerId) staged

/-- `commit_qa_started_checkpoint` and `commit_security_started_checkpoint`. -/
def commitStartedCheckpoint : Program Session Exn Unit :=
  commitStageCheckpoint stage calls scope (stageStarted stage calls scope)

/-- `commit_qa_completed_checkpoint` and `commit_security_completed_checkpoint`. -/
def commitCompletedCheckpoint (result : StageResult) : Program Session Exn Unit :=
  if result.correlationId ≠ scope.correlationId then raise (.stage stage .invalidScope)
  else commitStageCheckpoint stage calls scope (stageCompleted stage calls scope result)

/-- `_require_escalation_code`. -/
def escalationCode (code : StageErrorCode) : Bool :=
  [StageErrorCode.timeout, .collaboratorFailure, .persistenceFailure,
    .internalFailure].contains code

/-- `commit_qa_escalated_checkpoint` and `commit_security_escalated_checkpoint`. -/
def commitEscalatedCheckpoint (code : StageErrorCode) : Program Session Exn Unit :=
  if escalationCode code = false then raise (.stage stage .invalidInput)
  else commitStageCheckpoint stage calls scope (stageEscalated stage calls scope code)

end Stages

end SynapseOS.Workflows
