import SynapseOS.Core.Enums
import SynapseOS.Core.Fields

/-! Values of the merge gate (`core/pull_requests/types.py`) and the rows it reads
(`infrastructure/database/models/pull_requests.py`). -/

namespace SynapseOS.PullRequests

open Execution Tools

inductive PullRequestReviewDecision
  | approved
  | changesRequested
  deriving DecidableEq, Repr

inductive ApprovalKind
  | reviewer
  | qa
  | security
  deriving DecidableEq, Repr

inductive ApprovalDecision
  | approved
  | rejected
  | blocked
  deriving DecidableEq, Repr

inductive MergeGateDecision
  | pass
  | block
  deriving DecidableEq, Repr

inductive MergeGateReason
  | taskMismatch
  | projectTaskMismatch
  | authorTaskMismatch
  | authorIsReviewer
  | reviewerRoleMismatch
  | approverIdentityConflict
  | approverRoleMismatch
  | reviewNotApproved
  | reviewerApprovalMissing
  | qaNotPassed
  | securityBlocked
  | testsNotPassed
  | branchNotMergeable
  | staleEvidence
  deriving DecidableEq, Repr

def allReasons : List MergeGateReason :=
  [.taskMismatch, .projectTaskMismatch, .authorTaskMismatch, .authorIsReviewer,
    .reviewerRoleMismatch, .approverIdentityConflict, .approverRoleMismatch, .reviewNotApproved,
    .reviewerApprovalMissing, .qaNotPassed, .securityBlocked, .testsNotPassed, .branchNotMergeable,
    .staleEvidence]

theorem mem_allReasons (reason : MergeGateReason) : reason ∈ allReasons := by
  cases reason <;> decide

structure PullRequestCandidate where
  pullRequestId : UUID
  projectId : UUID
  taskId : UUID
  authorAgentId : UUID
  headSha : PyStr
  confidence : ℚ
  correlationId : UUID

structure PullRequestReviewEvidence where
  reviewerAgentId : UUID
  reviewerRole : PyStr
  decision : PullRequestReviewDecision
  headSha : PyStr
  correlationId : UUID

structure ApprovalEvidence where
  kind : ApprovalKind
  approverAgentId : UUID
  approverRole : PyStr
  decision : ApprovalDecision
  headSha : PyStr
  correlationId : UUID

structure PullRequestTestEvidence where
  name : PyStr
  passed : Bool
  truncated : Bool
  headSha : PyStr
  deriving DecidableEq

structure MergeGateRequest where
  expectedTaskId : UUID
  candidate : PullRequestCandidate
  review : Option PullRequestReviewEvidence
  approvals : List ApprovalEvidence
  tests : List PullRequestTestEvidence
  branchMergeable : Bool

structure MergeGateResult where
  decision : MergeGateDecision
  reasons : List MergeGateReason
  consistent : decision = .block ↔ reasons ≠ []

section Validation

def roleText (text : PyStr) : Bool := decide (1 ≤ text.length ∧ text.length ≤ 64)

def PullRequestCandidate.check (candidate : PullRequestCandidate) : Bool :=
  shaText candidate.headSha && decide (0 ≤ candidate.confidence ∧ candidate.confidence ≤ 1)

def PullRequestReviewEvidence.check (review : PullRequestReviewEvidence) : Bool :=
  roleText review.reviewerRole && shaText review.headSha

def ApprovalEvidence.check (approval : ApprovalEvidence) : Bool :=
  roleText approval.approverRole && shaText approval.headSha

def PullRequestTestEvidence.check (test : PullRequestTestEvidence) : Bool :=
  identifierText true test.name && shaText test.headSha

def MergeGateRequest.check (request : MergeGateRequest) : Bool :=
  request.candidate.check && request.review.all PullRequestReviewEvidence.check &&
    request.approvals.all ApprovalEvidence.check && decide (request.approvals.length ≤ 3) &&
    request.tests.all PullRequestTestEvidence.check && decide (request.tests.length ≤ 32) &&
    decide ((request.approvals.map fun approval => approval.kind).Nodup)

/-- A boolean of a model that is not strict. -/
def laxBoolean : JsonValue → Option Bool
  | .boolean value => some value
  | .integer value => if value = 0 then some false else if value = 1 then some true else none
  | .number (.finite value) =>
      if value = 0 then some false else if value = 1 then some true else none
  | .string text =>
      let lower := (PyStr.ofString text).map fun point =>
        if upperLetter point = true then point + 0x20 else point
      if lower ∈ ["0", "off", "f", "false", "n", "no"].map PyStr.ofString then some false
      else if lower ∈ ["1", "on", "t", "true", "y", "yes"].map PyStr.ofString then some true
      else none
  | _ => none

def textOf : JsonValue → Option PyStr
  | .string text => some (.ofString text)
  | _ => none

def testKeys : List String := ["name", "passed", "truncated", "head_sha"]

def testEvidence : JsonValue → Option PullRequestTestEvidence
  | .dict data => do
      let name ← (JsonObject.get data "name").bind textOf
      let passed ← (JsonObject.get data "passed").bind laxBoolean
      let truncated ← (JsonObject.get data "truncated").bind laxBoolean
      let headSha ← (JsonObject.get data "head_sha").bind textOf
      let test : PullRequestTestEvidence := ⟨name, passed, truncated, headSha⟩
      if test.check = true ∧ ∀ entry ∈ data, entry.1 ∈ testKeys then some test else none
  | _ => none

end Validation

section Rows

structure AgentRow where
  slug : PyStr
  role : PyStr

structure TaskRow where
  projectId : UUID
  assignedAgentId : Option UUID

structure PullRequestRow where
  id : UUID
  projectId : UUID
  taskId : UUID
  authorAgentId : UUID
  baseSha : PyStr
  headSha : PyStr
  preparationChecksum : PyStr
  tests : List JsonValue
  confidence : ℚ
  correlationId : UUID

structure ReviewRow where
  id : UUID
  createdAt : Nat
  pullRequestId : UUID
  reviewerAgentId : UUID
  decision : PullRequestReviewDecision
  headSha : PyStr
  correlationId : UUID

structure ApprovalRow where
  id : UUID
  createdAt : Nat
  pullRequestId : UUID
  kind : ApprovalKind
  approverAgentId : UUID
  decision : ApprovalDecision
  headSha : PyStr
  evidenceRef : PyStr
  correlationId : UUID

structure AuditEventRow where
  id : UUID
  actorType : Option AuditActorType
  actorId : Option PyStr
  projectId : Option UUID
  taskId : Option UUID
  eventType : PyStr
  action : PyStr
  result : AuditResult
  data : JsonObject
  correlationId : Option UUID

end Rows

end SynapseOS.PullRequests
