import SynapseOS.Reviewer.Types
import SynapseOS.Workflows.Checkpoint

/-! The checkpoints of the developer and reviewer workflow (`core/workflows/audit.py`). -/

namespace SynapseOS.Workflows

open Execution Program Tasks Tools
open Reviewer (ReviewDecision)

structure WorkflowScope where
  task : UUID
  developerId : UUID
  developerSlug : String
  reviewerSlug : String
  maxReviewCycles : Nat
  correlationId : UUID
  /-- The head and the checksum of the pull request. -/
  evidence : Option (String × String)
  cycles_bounds : 1 ≤ maxReviewCycles ∧ maxReviewCycles ≤ 10

structure EventArguments where
  cycle : Option Nat := none
  decision : Option ReviewDecision := none
  reviewScore : Option ℚ := none
  findingCount : Option Nat := none
  maxReviewCycles : Option Nat := none

def WorkflowErrorCode.value : WorkflowErrorCode → String
  | .invalidInput => "INVALID_INPUT"
  | .invalidScope => "INVALID_SCOPE"
  | .invalidState => "INVALID_STATE"
  | .invalidRole => "INVALID_ROLE"
  | .invalidAgent => "INVALID_AGENT"
  | .unsafeHandoff => "UNSAFE_HANDOFF"
  | .timeout => "TIMEOUT"
  | .collaboratorFailure => "COLLABORATOR_FAILURE"
  | .persistenceFailure => "PERSISTENCE_FAILURE"
  | .internalFailure => "INTERNAL_FAILURE"

def reviewDecisionValue : ReviewDecision → String
  | .approved => "APPROVED"
  | .changesRequested => "CHANGES_REQUESTED"

section Requirements

variable (scope : WorkflowScope)

def required {α : Type} (check : α → Bool) : Option α → Except WorkflowErrorCode α
  | some value => if check value = true then .ok value else .error .invalidInput
  | none => .error .invalidInput

def requireCycle (cycle : Option Nat) : Except WorkflowErrorCode Nat :=
  required (fun cycle => decide (1 ≤ cycle ∧ cycle ≤ scope.maxReviewCycles)) cycle

def requireReviewDecision (decision : Option ReviewDecision) :
    Except WorkflowErrorCode ReviewDecision :=
  required (fun _ => true) decision

def requireReviewScore (score : Option ℚ) : Except WorkflowErrorCode ℚ :=
  required (fun score => decide (0 ≤ score ∧ score ≤ 1)) score

def requireFindingCount (count : Option Nat) : Except WorkflowErrorCode Nat :=
  required (fun count => decide (count ≤ 128)) count

def requireMaxReviewCycles (value : Option Nat) : Except WorkflowErrorCode Nat :=
  required (fun value => decide (value = scope.maxReviewCycles)) value

/-- `_require_absent`, with whether each value is there. -/
def requireAbsent (present : List Bool) : Except WorkflowErrorCode Unit :=
  if present.any id = true then .error .invalidInput else .ok ()

def safeFailureCode (code : WorkflowErrorCode) : Bool :=
  [WorkflowErrorCode.unsafeHandoff, .timeout, .collaboratorFailure, .persistenceFailure,
    .internalFailure].contains code

def eventData (type : EventType) (given : EventArguments) : Except WorkflowErrorCode Metadata :=
  match type with
  | .workflowStarted => do
      requireAbsent [given.cycle.isSome, given.decision.isSome, given.reviewScore.isSome,
        given.findingCount.isSome, given.maxReviewCycles.isSome]
      pure [("developer_agent_id", .string scope.developerSlug),
        ("reviewer_agent_id", .string scope.reviewerSlug),
        ("max_review_cycles", .integer scope.maxReviewCycles)]
  | .developerHandoffCreated => do
      requireAbsent [given.decision.isSome, given.reviewScore.isSome, given.findingCount.isSome,
        given.maxReviewCycles.isSome]
      let cycle ← requireCycle scope given.cycle
      pure [("cycle", .integer cycle)]
  | .reviewCompleted => do
      requireAbsent [given.maxReviewCycles.isSome]
      let cycle ← requireCycle scope given.cycle
      let decision ← requireReviewDecision given.decision
      let score ← requireReviewScore given.reviewScore
      let count ← requireFindingCount given.findingCount
      pure ([("cycle", .integer cycle), ("decision", .string (reviewDecisionValue decision)),
        ("review_score", .number (.finite score)), ("finding_count", .integer count)] ++
          match scope.evidence with
          | none => []
          | some (head, checksum) =>
              [("head_sha", .string head), ("preparation_checksum", .string checksum)])
  | .reviewCycleExhausted => do
      requireAbsent [given.decision.isSome, given.reviewScore.isSome, given.findingCount.isSome]
      let cycle ← requireCycle scope given.cycle
      let most ← requireMaxReviewCycles scope given.maxReviewCycles
      if cycle ≠ most then .error .invalidInput
      else pure [("cycle", .integer cycle), ("max_review_cycles", .integer most)]
  | _ => do
      requireAbsent [given.decision.isSome, given.reviewScore.isSome, given.findingCount.isSome,
        given.maxReviewCycles.isSome]
      let cycle ← requireCycle scope given.cycle
      pure [("cycle", .integer cycle)]

end Requirements

section Stages

variable (calls : Calls) (scope : WorkflowScope)

def demand {α : Type} : Except WorkflowErrorCode α → Program Session Exn α
  | .ok value => pure value
  | .error code => raise (.workflow code)

def stageWorkflowEvent (type : EventType) (given : EventArguments) : Program Session Exn Unit := do
  let data ← demand (eventData scope type given)
  let row ← readTask scope.task
  call calls (.add type)
  addEvent {
    actorType := some .agent
    actorId :=
      some (.ofString (if [EventType.workflowStarted, .developerHandoffCreated].contains type = true
      then scope.developerSlug else scope.reviewerSlug))
    projectId := row.projectId
    taskId := scope.task
    eventType := type
    action := .recordWorkflowCheckpoint
    resourceType := some .developerReviewerWorkflow
    result := .succeeded
    data := .fields data
    correlationId := some scope.correlationId }

def agentContext (slug reason : String) : TransitionContext where
  actorType := .agent
  actorId := some (.ofString slug)
  reason := .ofString reason
  correlationId := some scope.correlationId

def stageAssignment : Program Session Exn Unit := do
  writeAssignedAgentId scope.task (some scope.developerId)
  transition calls scope.task .assigned
    (agentContext scope scope.developerSlug "Workflow developer assignment accepted.")
  stageWorkflowEvent calls scope .workflowStarted {}

def stageDeveloperStarted (cycle : Nat) : Program Session Exn Unit := do
  let _ ← demand (requireCycle scope (some cycle))
  transition calls scope.task .inProgress
    (agentContext scope scope.developerSlug "Workflow developer cycle started.")

def stageDeveloperHandoff (cycle : Nat) : Program Session Exn Unit := do
  let _ ← demand (requireCycle scope (some cycle))
  stageWorkflowEvent calls scope .developerHandoffCreated { cycle := some cycle }

def stageDeveloperCompleted (cycle : Nat) : Program Session Exn Unit := do
  let _ ← demand (requireCycle scope (some cycle))
  transition calls scope.task .waitingReview
    (agentContext scope scope.developerSlug "Workflow developer cycle completed.")

def reviewTarget : ReviewDecision → TaskStatus
  | .approved => .waitingQa
  | .changesRequested => .changesRequested

def reviewReason : ReviewDecision → String
  | .approved => "Workflow review approved."
  | .changesRequested => "Workflow review requested changes."

def stageReviewCompleted (cycle : Nat) (decision : ReviewDecision) (score : ℚ) (count : Nat) :
    Program Session Exn Unit := do
  let _ ← demand (requireCycle scope (some cycle))
  let _ ← demand (requireReviewDecision (some decision))
  let _ ← demand (requireReviewScore (some score))
  let _ ← demand (requireFindingCount (some count))
  transition calls scope.task (reviewTarget decision)
    (agentContext scope scope.reviewerSlug (reviewReason decision))
  stageWorkflowEvent calls scope .reviewCompleted
    { cycle := some cycle, decision := some decision, reviewScore := some score,
      findingCount := some count }
  if decision = .approved
    then stageWorkflowEvent calls scope .workflowCompleted { cycle := some cycle }
  else pure ()

def stageReviewCycleExhausted (cycle most : Nat) : Program Session Exn Unit := do
  let _ ← demand (requireCycle scope (some cycle))
  let _ ← demand (requireMaxReviewCycles scope (some most))
  if cycle ≠ most then raise (.workflow .invalidInput)
  else do
    transition calls scope.task .waitingHuman
      (agentContext scope scope.reviewerSlug "Workflow review cycles exhausted.")
    stageWorkflowEvent calls scope .reviewCycleExhausted
      { cycle := some cycle, maxReviewCycles := some most }

def stageNextReviewCycle (cycle : Nat) : Program Session Exn Unit := do
  let _ ← demand (requireCycle scope (some cycle))
  transition calls scope.task .inProgress
    (agentContext scope scope.developerSlug "Workflow correction cycle started.")

def stageSafeFailure (code : WorkflowErrorCode) : Program Session Exn Unit :=
  if safeFailureCode code = false then raise (.workflow .invalidInput)
  else
    transition calls scope.task .waitingHuman {
      actorType := .system
      actorId := none
      reason := .ofString "Workflow safely escalated for human attention."
      metadata := [("workflow_error_code", .string code.value)]
      correlationId := some scope.correlationId }

def workflowCode : Exn → WorkflowErrorCode
  | .workflow code => code
  | .invalidTransition _ _ => .invalidState
  | .sqlalchemy true => .timeout
  | .sqlalchemy false => .persistenceFailure
  | _ => .internalFailure

def workflowHandling : Handling where
  missing := .workflow .invalidScope
  mismatch := .workflow .invalidState
  normalize := fun e => .workflow (workflowCode e)
  persistence := .workflow .persistenceFailure
  keepsAgent := true

def commitWorkflowCheckpoint (status : TaskStatus) (agent : Option UUID)
    (staged : Program Session Exn Unit) : Program Session Exn Unit :=
  commitCheckpoint workflowHandling calls scope.task status agent staged

def commitAssignmentCheckpoint : Program Session Exn Unit :=
  commitWorkflowCheckpoint calls scope .ready none (stageAssignment calls scope)

def commitDeveloperStartedCheckpoint (cycle : Nat) : Program Session Exn Unit :=
  commitWorkflowCheckpoint calls scope .assigned (some scope.developerId)
    (stageDeveloperStarted calls scope cycle)

def commitDeveloperHandoffCheckpoint (cycle : Nat) : Program Session Exn Unit :=
  commitWorkflowCheckpoint calls scope .waitingReview (some scope.developerId)
    (stageDeveloperHandoff calls scope cycle)

def commitDeveloperCompletedCheckpoint (cycle : Nat) : Program Session Exn Unit :=
  commitWorkflowCheckpoint calls scope .inProgress (some scope.developerId)
    (stageDeveloperCompleted calls scope cycle)

def commitReviewCompletedCheckpoint (cycle : Nat) (decision : ReviewDecision) (score : ℚ)
    (count : Nat) : Program Session Exn Unit :=
  commitWorkflowCheckpoint calls scope .waitingReview (some scope.developerId)
    (stageReviewCompleted calls scope cycle decision score count)

def commitReviewCycleExhaustedCheckpoint (cycle most : Nat) : Program Session Exn Unit :=
  commitWorkflowCheckpoint calls scope .changesRequested (some scope.developerId)
    (stageReviewCycleExhausted calls scope cycle most)

def commitNextReviewCycleCheckpoint (cycle : Nat) : Program Session Exn Unit :=
  commitWorkflowCheckpoint calls scope .changesRequested (some scope.developerId)
    (stageNextReviewCycle calls scope cycle)

def commitSafeFailureCheckpoint (code : WorkflowErrorCode) (status : TaskStatus) :
    Program Session Exn Unit :=
  commitWorkflowCheckpoint calls scope status (some scope.developerId)
    (stageSafeFailure calls scope code)

end Stages

end SynapseOS.Workflows
