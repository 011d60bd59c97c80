import SynapseOS.Core.Fields
import SynapseOS.Queue.Types

/-! The run of the Engineering V1 stages (`core/engineering_v1/types.py`, `orchestrator.py`). -/

namespace SynapseOS.EngineeringV1

open Execution

inductive EngineeringStage
  | specificationAnalysis
  | blockingQuestions
  | architecture
  | taskPlanning
  | agentAssignment
  | repositoryInspection
  | codeChange
  | testExecution
  | independentReview
  | qa
  | security
  | mergeGate
  | audit
  | scoring
  | memory
  | feedback
  | closure
  deriving DecidableEq, Repr

def stageOrder : List EngineeringStage :=
  [.specificationAnalysis, .blockingQuestions, .architecture, .taskPlanning, .agentAssignment,
    .repositoryInspection, .codeChange, .testExecution, .independentReview, .qa,
    .security, .mergeGate, .audit, .scoring, .memory, .feedback, .closure]

inductive EngineeringV1Outcome
  | completed
  | blocked
  deriving DecidableEq, Repr

inductive EngineeringAuditStatus
  | started
  | passed
  | blocked
  | failed
  deriving DecidableEq, Repr

inductive EngineeringV1ErrorCode
  | invalidInput
  | invalidStageResult
  | stageFailure
  | auditFailure
  | timeout
  deriving DecidableEq, Repr

structure EngineeringV1Request where
  projectId : UUID
  taskId : UUID
  correlationId : UUID
  timeoutSeconds : ℚ
  timeout_valid : 0 < timeoutSeconds ∧ timeoutSeconds ≤ 3600

/-- The fields of an `EngineeringStageEvidence`, which need not have been validated. -/
structure EvidenceFields where
  stage : EngineeringStage
  passed : Bool
  evidenceIds : List PyStr
  deriving DecidableEq

def EvidenceFields.check (fields : EvidenceFields) : Bool :=
  decide (1 ≤ fields.evidenceIds.length ∧ fields.evidenceIds.length ≤ 32 ∧
    fields.evidenceIds.Nodup) && fields.evidenceIds.all (identifierText true)

structure EngineeringStageEvidence extends EvidenceFields where
  valid : toEvidenceFields.check = true
  deriving DecidableEq

structure EngineeringAuditEvent where
  projectId : UUID
  taskId : UUID
  correlationId : UUID
  stage : EngineeringStage
  status : EngineeringAuditStatus
  completedStageCount : Nat
  deriving DecidableEq

structure EngineeringV1Result where
  projectId : UUID
  taskId : UUID
  correlationId : UUID
  outcome : EngineeringV1Outcome
  completedStages : List EngineeringStage
  blockedStage : Option EngineeringStage
  evidence : List EngineeringStageEvidence
  sizes_valid : completedStages.length ≤ 17 ∧ evidence.length ≤ 17
  deriving DecidableEq

/-- What Python code raises, by the `except` clause that takes it. -/
inductive Failure
  /-- `EngineeringV1Error`. -/
  | engineering (code : EngineeringV1ErrorCode)
  | timeout
  /-- Any other `Exception`. -/
  | exception
  /-- `asyncio.CancelledError`. -/
  | cancelled
  /-- Any other `BaseException`. -/
  | fatal
  deriving DecidableEq

inductive Returned
  | evidence (fields : EvidenceFields)
  /-- An object of any other type. -/
  | other

/-- What comes of a call of a runner, and whether the deadline passes during it. -/
structure Reply where
  value : Except Failure Returned
  overran : Bool

structure EngineeringStageRunner where
  stage : EngineeringStage
  run : EngineeringV1Request → List EngineeringStageEvidence → Reply

/-- The orchestrator: its runners, and what the audit sink raises on the record of each place. -/
structure EngineeringV1Orchestrator where
  stages : List EngineeringStageRunner
  sink : Nat → Option Failure
  ordered : stages.map (fun runner => runner.stage) = stageOrder

structure Trace where
  calls : List (EngineeringStage × List EngineeringStageEvidence)
  records : List EngineeringAuditEvent

structure Progress extends Trace where
  evidence : List EngineeringStageEvidence
  activeStage : Option EngineeringStage
  overran : Bool

def Progress.initial : Progress := ⟨⟨[], []⟩, [], none, false⟩

section Run

variable (sink : Nat → Option Failure) (request : EngineeringV1Request)

def auditEvent (stage : EngineeringStage) (status : EngineeringAuditStatus)
    (completedStageCount : Nat) : EngineeringAuditEvent :=
  ⟨request.projectId, request.taskId, request.correlationId, stage, status, completedStageCount⟩

def auditFailure : Failure → Failure
  | .engineering code => .engineering code
  | .timeout | .exception => .engineering .auditFailure
  | .cancelled => .cancelled
  | .fatal => .fatal

def recordEvent (stage : EngineeringStage) (status : EngineeringAuditStatus) (progress : Progress) :
    Progress × Option Failure :=
  let event := auditEvent request stage status progress.evidence.length
  ({ progress with records := progress.records ++ [event] },
    (sink progress.records.length).map auditFailure)

def canonicalStageResult (expected : EngineeringStage) :
    Returned → Except Failure EngineeringStageEvidence
  | .other => .error (.engineering .invalidStageResult)
  | .evidence fields =>
      if valid : fields.check = true then
        if fields.stage = expected then .ok ⟨fields, valid⟩
        else .error (.engineering .invalidStageResult)
      else .error .exception

def makeResult (outcome : EngineeringV1Outcome) (evidence : List EngineeringStageEvidence)
    (blockedStage : Option EngineeringStage) (completedStages : List EngineeringStage) :
    Except Failure EngineeringV1Result :=
  if sizes : completedStages.length ≤ 17 ∧ evidence.length ≤ 17 then
    .ok ⟨request.projectId, request.taskId, request.correlationId, outcome,
      completedStages, blockedStage, evidence, sizes⟩
  else .error .exception

def stagesOf (evidence : List EngineeringStageEvidence) : List EngineeringStage :=
  evidence.map fun item => item.stage

def runStages : List EngineeringStageRunner → Progress →
    Progress × Except Failure (Option EngineeringV1Result)
  | [], progress => (progress, .ok none)
  | runner :: rest, progress =>
      match recordEvent sink request runner.stage .started
        { progress with activeStage := some runner.stage } with
      | (progress, some failure) => (progress, .error failure)
      | (progress, none) =>
          let reply := runner.run request progress.evidence
          let progress := { progress with
            calls := progress.calls ++ [(runner.stage, progress.evidence)]
            overran := progress.overran || reply.overran }
          match reply.value.bind (canonicalStageResult runner.stage) with
          | .error failure => (progress, .error failure)
          | .ok result =>
              if result.passed = true then
                match recordEvent sink request runner.stage .passed
                    { progress with evidence := progress.evidence ++ [result] } with
                | (progress, some failure) => (progress, .error failure)
                | (progress, none) => runStages rest progress
              else
                match recordEvent sink request runner.stage .blocked progress with
                | (progress, some failure) => (progress, .error failure)
                | (progress, none) =>
                    (progress,
                      (makeResult request .blocked (progress.evidence ++ [result])
                        (some runner.stage)
                      (stagesOf progress.evidence)).map some)

/-- `asyncio.timeout`: it turns the cancellation that leaves it into a timeout once it has
expired. -/
def leaveTimeout (overran : Bool) (failure : Failure) : Failure :=
  if failure = .cancelled ∧ overran = true then .timeout else failure

def recordFailure (progress : Progress) (failure : Failure) :
    Trace × Except Failure EngineeringV1Result :=
  match progress.activeStage with
  | none => (progress.toTrace, .error failure)
  | some stage =>
      let (progress, refused) := recordEvent sink request stage .failed progress
      (progress.toTrace, .error (refused.getD failure))

def handleFailure (progress : Progress) : Failure → Trace × Except Failure EngineeringV1Result
  | .cancelled => (progress.toTrace, .error .cancelled)
  | .timeout => recordFailure sink request progress (.engineering .timeout)
  | .engineering code =>
      if code = .auditFailure then (progress.toTrace, .error (.engineering code))
      else recordFailure sink request progress (.engineering code)
  | .exception => recordFailure sink request progress (.engineering .stageFailure)
  | .fatal => (progress.toTrace, .error .fatal)

def EngineeringV1Orchestrator.run (orchestrator : EngineeringV1Orchestrator) :
    Trace × Except Failure EngineeringV1Result :=
  match runStages orchestrator.sink request orchestrator.stages .initial with
  | (progress, .error failure) =>
      handleFailure orchestrator.sink request progress (leaveTimeout progress.overran failure)
  | (progress, .ok (some result)) => (progress.toTrace, .ok result)
  | (progress, .ok none) =>
      (progress.toTrace,
        makeResult request .completed progress.evidence none (stagesOf progress.evidence))

end Run

end SynapseOS.EngineeringV1
