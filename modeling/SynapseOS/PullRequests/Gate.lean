import SynapseOS.Lib.Dict
import SynapseOS.Lib.Ranked
import SynapseOS.PullRequests.Types
import Mathlib.Data.Prod.Lex

/-! The merge gate (`core/pull_requests/gate.py`) and the evidence it is given
(`infrastructure/pull_requests/gate.py`). -/

namespace SynapseOS.PullRequests

open Execution Tools

def resultOf (reasons : List MergeGateReason) : MergeGateResult :=
  let ordered := allReasons.filter fun reason => reasons.contains reason
  if empty : ordered = [] then ⟨.pass, [], by simp⟩ else ⟨.block, ordered, by simp [empty]⟩

def staleResult : MergeGateResult := ⟨.block, [.staleEvidence], by simp⟩

def reasonsIf (condition : Bool) (reasons : List MergeGateReason) : List MergeGateReason :=
  if condition = true then reasons else []

/-- `expected_roles`. -/
def ApprovalKind.role : ApprovalKind → PyStr
  | .reviewer => .ofString "Reviewer"
  | .qa => .ofString "QA"
  | .security => .ofString "Security"

section Gate

variable (request : MergeGateRequest)

/-- The approval of a kind; kinds are unique. -/
def MergeGateRequest.approvalOf (kind : ApprovalKind) : Option ApprovalEvidence :=
  request.approvals.find? fun approval => decide (approval.kind = kind)

def MergeGateRequest.approved (kind : ApprovalKind) : Bool :=
  (request.approvalOf kind).any fun approval => decide (approval.decision = .approved)

def MergeGateRequest.reviewerApproved : Bool :=
  (request.approvalOf .reviewer).any fun approval => decide (approval.decision = .approved) &&
    request.review.any fun review => decide (approval.approverAgentId = review.reviewerAgentId)

def MergeGateRequest.stale : Bool :=
  let candidate := request.candidate
  request.approvals.any (fun approval => decide (approval.headSha ≠ candidate.headSha ∨
      approval.correlationId ≠ candidate.correlationId)) ||
    request.tests.any (fun test => decide (test.headSha ≠ candidate.headSha)) ||
    request.review.any fun review => decide (review.headSha ≠ candidate.headSha ∨
      review.correlationId ≠ candidate.correlationId)

def MergeGateRequest.approvers : List UUID :=
  request.approvals.map fun approval => approval.approverAgentId

def gateReasons : List MergeGateReason :=
  let candidate := request.candidate
  reasonsIf (decide (request.expectedTaskId ≠ candidate.taskId)) [.taskMismatch] ++
    reasonsIf request.review.isNone [.reviewNotApproved] ++
    reasonsIf (request.review.any fun review =>
      decide (review.reviewerAgentId = candidate.authorAgentId)) [.authorIsReviewer] ++
    reasonsIf (request.review.any fun review =>
      decide (review.reviewerRole ≠ .ofString "Reviewer")) [.reviewerRoleMismatch] ++
    reasonsIf (request.review.any fun review => decide (review.decision ≠ .approved))
      [.reviewNotApproved] ++
    reasonsIf (!request.branchMergeable) [.branchNotMergeable] ++
    reasonsIf (decide (request.tests = []) || request.tests.any fun test =>
      !test.passed || test.truncated) [.testsNotPassed] ++
    reasonsIf (!request.reviewerApproved) [.reviewerApprovalMissing] ++
    reasonsIf (!request.approved .qa) [.qaNotPassed] ++
    reasonsIf (!request.approved .security) [.securityBlocked] ++
    reasonsIf (request.approvals.any fun approval =>
      decide (approval.approverRole ≠ approval.kind.role)) [.approverRoleMismatch] ++
    reasonsIf request.stale [.staleEvidence] ++
    reasonsIf (request.approvers.contains candidate.authorAgentId ||
      decide (¬ request.approvers.Nodup)) [.approverIdentityConflict]

def mergeGate : MergeGateResult :=
  if request.check = false then staleResult else resultOf (gateReasons request)

end Gate

inductive GateSite
  | pullRequest
  | task
  | reviews
  | reviewer
  | approvals
  | gitEvent
  | author
  | approvalEvent (kind : ApprovalKind)
  | approver (kind : ApprovalKind)
  deriving DecidableEq, Repr

/-- The tables behind the session, where a load fails, and `uuid.UUID`. -/
structure GateStore where
  pullRequests : List PullRequestRow
  task : UUID → TaskRow
  agent : UUID → AgentRow
  reviews : List ReviewRow
  approvals : List ApprovalRow
  events : List AuditEventRow
  fails : GateSite → Bool
  parseUuid : PyStr → Option UUID

section Loading

variable (store : GateStore)

def GateStore.load {α : Type} (site : GateSite) (value : α) : Except Unit α :=
  if store.fails site = true then .error () else .ok value

def ReviewRow.rank (row : ReviewRow) : Nat ×ₗ Nat := toLex (row.createdAt, row.id)

def ApprovalRow.rank (row : ApprovalRow) : Nat ×ₗ Nat := toLex (row.createdAt, row.id)

def GateStore.latestReview (pullRequestId : UUID) : Option ReviewRow :=
  ((ranked ReviewRow.rank
    (store.reviews.filter fun row => decide (row.pullRequestId = pullRequestId))).take 1).head?

def GateStore.listApprovals (pullRequestId : UUID) : List ApprovalRow :=
  (ranked ApprovalRow.rank
    (store.approvals.filter fun row => decide (row.pullRequestId = pullRequestId))).take 100

def GateStore.latestApprovals (pullRequestId : UUID) : Dict ApprovalKind ApprovalRow :=
  Dict.indexFirst ApprovalRow.kind (store.listApprovals pullRequestId)

def GateStore.event (eventId : UUID) : Option AuditEventRow :=
  store.events.find? fun row => decide (row.id = eventId)

def GateStore.eventFor (kind : ApprovalKind) (approval : Option ApprovalRow) :
    Except Unit (Option AuditEventRow) :=
  match approval with
  | none => .ok none
  | some approval =>
      if ¬ PyStr.ofString "audit:" <+: approval.evidenceRef then .ok none
      else
        match store.parseUuid (approval.evidenceRef.drop 6) with
        | none => .ok none
        | some eventId => store.load (.approvalEvent kind) (store.event eventId)

def commonEventScope (pull : PullRequestRow) (event : AuditEventRow) : Bool :=
  decide (event.actorType = some .agent ∧ event.result = .succeeded ∧
    event.projectId = some pull.projectId ∧ event.taskId = some pull.taskId ∧
    event.correlationId = some pull.correlationId)

def hasText (data : JsonObject) (key : String) (text : PyStr) : Bool :=
  decide ((data.get key).bind textOf = some text)

def GateStore.validGitEvent (pull : PullRequestRow) (event : Option AuditEventRow) :
    Except Unit Bool :=
  match event with
  | none => .ok false
  | some event =>
      if commonEventScope pull event = false then .ok false
      else do
        let author ← store.load .author (store.agent pull.authorAgentId)
        return decide (event.actorId = some author.slug ∧
            event.eventType = .ofString "GIT_OPERATION_COMPLETED" ∧
            event.action = .ofString "validate_merge_requirements") &&
          hasText event.data "merge_decision" (.ofString "PASS") &&
          hasText event.data "preparation_checksum" pull.preparationChecksum &&
          hasText event.data "commit_sha" pull.headSha && hasText event.data "base_sha" pull.baseSha

structure StageEvent where
  eventType : PyStr
  action : PyStr
  decision : PyStr

def ApprovalKind.stage : ApprovalKind → StageEvent
  | .reviewer => ⟨.ofString "REVIEW_COMPLETED", .ofString "record_workflow_checkpoint",
      .ofString "APPROVED"⟩
  | .qa => ⟨.ofString "QA_COMPLETED", .ofString "record_qa_checkpoint", .ofString "PASSED"⟩
  | .security => ⟨.ofString "SECURITY_COMPLETED", .ofString "record_security_checkpoint",
      .ofString "PASS"⟩

def GateStore.validApprovalEvent (pull : PullRequestRow) (kind : ApprovalKind)
    (approval : Option ApprovalRow) (event : Option AuditEventRow) : Except Unit Bool :=
  match approval, event with
  | some approval, some event =>
      if commonEventScope pull event = false then .ok false
      else do
        let approver ← store.load (.approver kind) (store.agent approval.approverAgentId)
        return decide (event.actorId = some approver.slug ∧ event.eventType = kind.stage.eventType ∧
            event.action = kind.stage.action) &&
          hasText event.data "decision" kind.stage.decision &&
          hasText event.data "head_sha" pull.headSha &&
          hasText event.data "preparation_checksum" pull.preparationChecksum
  | _, _ => .ok false

/-- The item is zero, as `==` compares it: a false one is. -/
def equalsZero : JsonValue → Bool
  | .integer value => decide (value = 0)
  | .boolean value => !value
  | .number (.finite value) => decide (value = 0)
  | _ => false

def validSecurityScan (event : Option AuditEventRow) : Bool :=
  event.any fun event =>
    (match event.data.get "scanner_complete" with | some (.boolean value) => value | _ => false) &&
      (match event.data.get "scanner_truncated"
        with | some (.boolean value) => !value | _ => false) &&
      (event.data.get "confirmed_blocker_count").any equalsZero

def eventTest : JsonValue → Option (PyStr × PyStr)
  | .dict data => do
      let profile ← (JsonObject.get data "profile_id").bind textOf
      let status ← (JsonObject.get data "status").bind textOf
      return (profile, status)
  | _ => none

/-- `_tests_match_qa_event`: sorted lists are equal when they are permutations. -/
def testsMatchQaEvent (tests : List PullRequestTestEvidence) (event : Option AuditEventRow) :
    Bool :=
  match event with
  | none => false
  | some event =>
      if tests = [] ∨ (tests.any fun test => !test.passed || test.truncated) = true then false
      else
        match event.data.get "tests" with
        | some (.list items) =>
            match items.mapM eventTest with
            | none => false
            | some actual =>
                decide (actual.Perm (tests.map fun test => (test.name, PyStr.ofString "SUCCEEDED")))
        | _ => false

def GateStore.reviewEvidence (row : Option ReviewRow) :
    Except Unit (Option PullRequestReviewEvidence) :=
  match row with
  | none => .ok none
  | some row => do
      let reviewer ← store.load .reviewer (store.agent row.reviewerAgentId)
      let evidence : PullRequestReviewEvidence :=
        ⟨row.reviewerAgentId, reviewer.role, row.decision, row.headSha, row.correlationId⟩
      if evidence.check = true then .ok (some evidence) else .error ()

def GateStore.approvalEvidence (row : ApprovalRow) : Except Unit ApprovalEvidence := do
  let approver ← store.load (.approver row.kind) (store.agent row.approverAgentId)
  return ⟨row.kind, row.approverAgentId, approver.role, row.decision, row.headSha,
    row.correlationId⟩

def PullRequestRow.candidate (pull : PullRequestRow) : PullRequestCandidate :=
  ⟨pull.id, pull.projectId, pull.taskId, pull.authorAgentId, pull.headSha, pull.confidence,
    pull.correlationId⟩

def PullRequestRow.testEvidence (pull : PullRequestRow) :
    Except Unit (List PullRequestTestEvidence) :=
  match pull.tests.mapM PullRequests.testEvidence with
  | some tests => .ok tests
  | none => .error ()

/-- `SQLAlchemyMergeGate._evaluate`, of a pull request that exists. -/
def GateStore.evaluatePull (pull : PullRequestRow) (expectedTaskId gitEvidenceEventId : UUID) :
    Except Unit MergeGateResult := do
  let task ← store.load .task (store.task pull.taskId)
  let reviewRow ← store.load .reviews (store.latestReview pull.id)
  let review ← store.reviewEvidence reviewRow
  let latest ← store.load .approvals (store.latestApprovals pull.id)
  let tests ← pull.testEvidence
  let gitEvent ← store.load .gitEvent (store.event gitEvidenceEventId)
  let branchMergeable ← store.validGitEvent pull gitEvent
  let reviewEvent ← store.eventFor .reviewer (latest.get .reviewer)
  let reviewed ← store.validApprovalEvent pull .reviewer (latest.get .reviewer) reviewEvent
  let qaEvent ← store.eventFor .qa (latest.get .qa)
  let tested ← store.validApprovalEvent pull .qa (latest.get .qa) qaEvent
  let securityEvent ← store.eventFor .security (latest.get .security)
  let secured ← store.validApprovalEvent pull .security (latest.get .security) securityEvent
  let approvals ← (latest.entries.map Prod.snd).mapM store.approvalEvidence
  let request : MergeGateRequest :=
    ⟨expectedTaskId, pull.candidate, review, approvals, tests, branchMergeable⟩
  if request.check = false then .error ()
  else
    return resultOf ((mergeGate request).reasons ++
      reasonsIf (decide (task.projectId ≠ pull.projectId)) [.projectTaskMismatch] ++
      reasonsIf (decide (task.assignedAgentId ≠ some pull.authorAgentId)) [.authorTaskMismatch] ++
      reasonsIf (!branchMergeable) [.branchNotMergeable, .staleEvidence] ++
      reasonsIf (!reviewed) [.reviewNotApproved, .reviewerApprovalMissing] ++
      reasonsIf (!tested) [.qaNotPassed] ++
      reasonsIf (!testsMatchQaEvent tests qaEvent) [.testsNotPassed] ++
      reasonsIf (!secured || !validSecurityScan securityEvent) [.securityBlocked])

/-- `SQLAlchemyMergeGate.evaluate`: what raises blocks. -/
def GateStore.evaluate (pullRequestId expectedTaskId gitEvidenceEventId : UUID) : MergeGateResult :=
  match store.load .pullRequest (store.pullRequests.find? fun row =>
    decide (row.id = pullRequestId)) with
  | .error _ | .ok none => staleResult
  | .ok (some pull) =>
      match store.evaluatePull pull expectedTaskId gitEvidenceEventId with
      | .ok result => result
      | .error _ => staleResult

end Loading

end SynapseOS.PullRequests
