import SynapseOS.Agents.Types
import SynapseOS.LocalGit.Preparation

/-! Audit records of Git operations (`core/git_workflow/audit.py`) and their data
(`core/git_workflow/workflow.py`). -/

namespace SynapseOS.LocalGit

open Execution

inductive GitOperation
  | createTaskBranch
  | commitChanges
  | getStatus
  | getDiff
  | getHistory
  | preparePullRequest
  | validateMergeRequirements
  deriving DecidableEq, Repr

inductive GitAuditStage
  | started
  | completed
  | failed
  deriving DecidableEq, Repr

inductive GitAuditDataKey
  | branchKind
  | branchName
  | baseBranch
  | baseSha
  | commitSha
  | selectedPathCount
  | changedPathCount
  | commitCount
  | insertions
  | deletions
  | status
  | errorCode
  | outputBytes
  | truncated
  | durationMs
  | preparationChecksum
  | mergeDecision
  | reasonCodes
  deriving DecidableEq, Repr

/-- `_NUMERIC_KEYS`. -/
def GitAuditDataKey.numeric (key : GitAuditDataKey) : Bool :=
  [GitAuditDataKey.selectedPathCount, .changedPathCount, .commitCount, .insertions, .deletions,
    .outputBytes, .durationMs].contains key

/-- A value of audit data; of a float that is not finite nothing is kept. -/
inductive GitAuditDataValue
  | text (value : PyStr)
  | integer (value : Int)
  | float (value : Option ℚ)
  | flag (value : Bool)
  deriving DecidableEq

abbrev GitAuditData := List (GitAuditDataKey × GitAuditDataValue)

/-- What `freeze_data` wants of an item. -/
def freezable : GitAuditDataKey × GitAuditDataValue → Bool
  | (key, .text value) => decide (value.length ≤ 255) && !key.numeric
  | (key, .integer value) => !key.numeric || decide (0 ≤ value)
  | (_, .float none) => false
  | (key, .float (some value)) => !key.numeric || decide (0 ≤ value)
  | (key, .flag _) => !key.numeric

/-- `require_consistent_stage`. -/
def GitAuditStage.admits : GitAuditStage → AuditResult → Bool
  | .started, result | .completed, result => decide (result = .succeeded)
  | .failed, result => decide (result = .failed ∨ result = .denied)

structure GitAuthority where
  agentId : UUID
  profile : Agents.AgentProfile
  permissionIds : Permissions.FrozenSet Permissions.Permission
  permissions_few : 1 ≤ permissionIds.members.length ∧ permissionIds.members.length ≤ 16
  active : profile.status ≠ .offline
  granted : ∀ identifier, identifier ∈ profile.permissionIds ↔
    ∃ permission ∈ permissionIds.members, permission.identifier = identifier

structure AuditContext extends GitWorkflowContext where
  actor : GitAuthority
  agentRunId : Option UUID
  timeoutSeconds : ℚ
  logical : actorLogicalId = PyStr.ofString actor.profile.id.text
  timeout_valid : 0 < timeoutSeconds ∧ timeoutSeconds ≤ 3600

structure GitAuditRecord where
  context : AuditContext
  operation : GitOperation
  stage : GitAuditStage
  result : AuditResult
  data : GitAuditData
  few : data.length ≤ 18
  frozen : data.all freezable = true
  consistent : stage.admits result = true

/-- What an `await` of the workflow can raise: `other` is any other `Exception`, `exit` an exception
that is none, such as `KeyboardInterrupt`. -/
inductive Thrown
  | git (code : GitWorkflowErrorCode)
  | cancelled
  | timeout
  | other
  | exit
  deriving DecidableEq, Repr

def gitAuditRecord (context : AuditContext) (operation : GitOperation) (stage : GitAuditStage)
    (result : AuditResult) (data : GitAuditData) : Except Thrown GitAuditRecord :=
  if valid : data.length ≤ 18 ∧ data.all freezable = true ∧ stage.admits result = true then
    .ok ⟨context, operation, stage, result, data, valid.1, valid.2.1, valid.2.2⟩
  else .error .other

theorem gitAuditRecord_ok {context : AuditContext} {operation : GitOperation}
    {stage : GitAuditStage} {result : AuditResult} {data : GitAuditData} (few : data.length ≤ 18)
    (frozen : data.all freezable = true) (consistent : stage.admits result = true) :
    gitAuditRecord context operation stage result data =
      .ok ⟨context, operation, stage, result, data, few, frozen, consistent⟩ :=
  dif_pos ⟨few, frozen, consistent⟩

theorem gitAuditRecord_fields {context : AuditContext} {operation : GitOperation}
    {stage : GitAuditStage} {result : AuditResult} {data : GitAuditData} {record : GitAuditRecord}
    (built : gitAuditRecord context operation stage result data = .ok record) :
    record.context = context ∧ record.operation = operation ∧ record.stage = stage ∧
      record.result = result ∧ record.data = data := by
  unfold gitAuditRecord at built
  split at built
  · cases built
    exact ⟨rfl, rfl, rfl, rfl, rfl⟩
  · cases built

section Requests

structure CreateTaskBranchRequest where
  taskId : UUID
  kind : TaskBranchKind
  slug : PyStr
  baseBranch : BaseBranch
  slug_valid : slugText slug = true

def CreateTaskBranchRequest.branch (request : CreateTaskBranchRequest) : PyStr :=
  taskBranch request.taskId request.kind request.slug

structure GitDiffRequest where
  mode : GitDiffMode
  paths : List PyStr
  paths_few : paths.length ≤ 128
  paths_safe : paths.all safeRelativePath = true
  paths_unique : paths.Nodup

structure GitHistoryRequest where
  offset : Nat
  limit : Nat
  offset_valid : offset ≤ 10000
  limit_valid : 1 ≤ limit ∧ limit ≤ 100

/-- `^[0-9a-f]{64}$`. -/
def digestText (text : PyStr) : Bool := decide (text.length = 64) && text.all lowerHexPoint

def PullRequestPreparation.check (preparation : PullRequestPreparation) : Bool :=
  preparation.payload.check && digestText preparation.checksum

inductive GitRequest
  | getStatus
  | getDiff (request : GitDiffRequest)
  | getHistory (request : GitHistoryRequest)
  | createTaskBranch (request : CreateTaskBranchRequest)
  | commitChanges (request : CommitRequest)
  | preparePullRequest (request : PreparePullRequestRequest)
  | validateMergeRequirements (request : ValidateMergeRequirementsRequest)
      (checked : request.preparation.check = true)

def GitRequest.operation : GitRequest → GitOperation
  | .getStatus => .getStatus
  | .getDiff _ => .getDiff
  | .getHistory _ => .getHistory
  | .createTaskBranch _ => .createTaskBranch
  | .commitChanges _ => .commitChanges
  | .preparePullRequest _ => .preparePullRequest
  | .validateMergeRequirements _ _ => .validateMergeRequirements

/-- A status with `truncated`, which the local provider never sets. -/
structure StatusResult extends GitRepositoryStatus where
  truncated : Bool

structure GitHistoryResult where
  commits : List GitCommitSummary
  offset : Nat
  hasMore : Bool
  truncated : Bool
  outputBytes : Nat

def GitHistoryResult.check (result : GitHistoryResult) : Bool :=
  result.commits.all GitCommitSummary.check && decide (result.commits.length ≤ 100 ∧
    result.offset ≤ 10000 ∧ result.outputBytes ≤ 1048576)

structure TaskBranchResult where
  branch : PyStr
  baseBranch : BaseBranch
  headSha : PyStr

def TaskBranchResult.check (result : TaskBranchResult) : Bool :=
  branchText result.branch && shaText result.headSha

/-- What the provider's method for a request is declared to return. -/
def GitRequest.Declared : GitRequest → Type
  | .getStatus => {status : StatusResult // status.toGitRepositoryStatus.check = true}
  | .getDiff _ => {result : GitDiffResult // result.check = true}
  | .getHistory _ => {result : GitHistoryResult // result.check = true}
  | .createTaskBranch _ => {result : TaskBranchResult // result.check = true}
  | .commitChanges _ => {result : GitCommitResult // result.check = true}
  | .preparePullRequest _ => {preparation : PullRequestPreparation // preparation.check = true}
  | .validateMergeRequirements _ _ => List MergeReasonCode

def mergeValidation (reasons : List MergeReasonCode) : MergeValidationResult :=
  ⟨if ordered reasons = [] then .pass else .block, ordered reasons⟩

def GitRequest.Result : GitRequest → Type
  | .getStatus => {status : StatusResult // status.toGitRepositoryStatus.check = true}
  | .getDiff _ => {result : GitDiffResult // result.check = true}
  | .getHistory _ => {result : GitHistoryResult // result.check = true}
  | .createTaskBranch _ => {result : TaskBranchResult // result.check = true}
  | .commitChanges _ => {result : GitCommitResult // result.check = true}
  | .preparePullRequest _ => {preparation : PullRequestPreparation // preparation.check = true}
  | .validateMergeRequirements _ _ => {result : MergeValidationResult // ∃ reasons,
      result = mergeValidation reasons}

end Requests

section Data

def GitWorkflowErrorCode.text : GitWorkflowErrorCode → PyStr
  | .invalidRequest => .ofString "INVALID_REQUEST"
  | .unauthorized => .ofString "UNAUTHORIZED"
  | .unsafePath => .ofString "UNSAFE_PATH"
  | .invalidRepository => .ofString "INVALID_REPOSITORY"
  | .invalidState => .ofString "INVALID_STATE"
  | .protectedBranch => .ofString "PROTECTED_BRANCH"
  | .branchExists => .ofString "BRANCH_EXISTS"
  | .emptyChange => .ofString "EMPTY_CHANGE"
  | .secretDetected => .ofString "SECRET_DETECTED"
  | .staleState => .ofString "STALE_STATE"
  | .resourceLimit => .ofString "RESOURCE_LIMIT"
  | .timedOut => .ofString "TIMED_OUT"
  | .gitFailed => .ofString "GIT_FAILED"
  | .compensationFailed => .ofString "COMPENSATION_FAILED"
  | .auditFailed => .ofString "AUDIT_FAILED"

def MergeReasonCode.text : MergeReasonCode → PyStr
  | .invalidScope => .ofString "INVALID_SCOPE"
  | .stalePreparation => .ofString "STALE_PREPARATION"
  | .protectedHead => .ofString "PROTECTED_HEAD"
  | .unprotectedBase => .ofString "UNPROTECTED_BASE"
  | .dirtyRepository => .ofString "DIRTY_REPOSITORY"
  | .operationInProgress => .ofString "OPERATION_IN_PROGRESS"
  | .baseNotAncestor => .ofString "BASE_NOT_ANCESTOR"
  | .mergeCommitPresent => .ofString "MERGE_COMMIT_PRESENT"
  | .authorIsReviewer => .ofString "AUTHOR_IS_REVIEWER"
  | .reviewNotApproved => .ofString "REVIEW_NOT_APPROVED"
  | .qaNotPassed => .ofString "QA_NOT_PASSED"
  | .securityNotPassed => .ofString "SECURITY_NOT_PASSED"
  | .checksNotPassed => .ofString "CHECKS_NOT_PASSED"

def MergeDecision.text : MergeDecision → PyStr
  | .pass => .ofString "PASS"
  | .block => .ofString "BLOCK"

def GitRequest.startedData : GitRequest → Except Thrown GitAuditData
  | .getStatus | .getDiff _ | .getHistory _ => .ok []
  | .createTaskBranch request => .ok
      [(.branchKind, .text request.kind.text), (.branchName, .text request.branch),
        (.baseBranch, .text request.baseBranch.text)]
  | .commitChanges request => .ok
      [(.branchKind, .text request.branchKind.text), (.branchName, .text request.expectedBranch),
        (.selectedPathCount, .integer request.paths.length)]
  | .preparePullRequest request =>
      match request.expectedBranch with
      | .ok branch => .ok [(.baseBranch, .text request.baseBranch.text),
          (.branchName, .text branch)]
      | .error _ => .error .other
  | .validateMergeRequirements request _ => .ok
      [(.preparationChecksum, .text request.preparation.checksum)]

def mergeValidationAuditData (result : MergeValidationResult) : GitAuditData :=
  let joined := [0x7C].intercalate (result.reasonCodes.map MergeReasonCode.text)
  let reasonCodes := if 255 < joined.length then PyStr.ofString "MULTIPLE_BLOCKING_REASONS"
    else joined
  [(.mergeDecision, .text result.decision.text), (.reasonCodes, .text reasonCodes)]

def GitRequest.completedData : (request : GitRequest) → request.Result → GitAuditData
  | .getStatus, ⟨status, _⟩ =>
      [(.outputBytes, .integer status.outputBytes),
        (.status, .text (.ofString (if status.clean then "CLEAN" else "DIRTY"))),
        (.truncated, .flag status.truncated)]
  | .getDiff _, ⟨result, _⟩ =>
      [(.changedPathCount, .integer result.changedPaths.length),
        (.insertions, .integer result.insertions),
        (.deletions, .integer result.deletions), (.outputBytes, .integer result.outputBytes),
        (.truncated, .flag result.truncated)]
  | .getHistory _, ⟨result, _⟩ =>
      [(.commitCount, .integer result.commits.length), (.outputBytes, .integer result.outputBytes),
        (.truncated, .flag result.truncated)]
  | .createTaskBranch _, ⟨result, _⟩ =>
      [(.branchName, .text result.branch), (.baseBranch, .text result.baseBranch.text),
        (.commitSha, .text result.headSha)]
  | .commitChanges _, ⟨result, _⟩ =>
      [(.branchName, .text result.branch), (.commitSha, .text result.commitSha),
        (.changedPathCount, .integer result.changedPathCount)]
  | .preparePullRequest _, ⟨preparation, _⟩ =>
      let payload := preparation.payload
      [(.baseBranch, .text payload.baseBranch.text), (.branchName, .text payload.headBranch),
        (.commitSha, .text (payload.headSha.getD [])),
        (.changedPathCount, .integer payload.changedPaths.length),
        (.commitCount, .integer payload.commitCount), (.insertions, .integer payload.insertions),
        (.deletions, .integer payload.deletions),
        (.preparationChecksum, .text preparation.checksum)]
  | .validateMergeRequirements request _, ⟨result, _⟩ =>
      let payload := request.preparation.payload
      mergeValidationAuditData result ++
        [(.preparationChecksum, .text request.preparation.checksum),
          (.commitSha, .text (payload.headSha.getD [])), (.baseSha, .text payload.baseSha)]

theorem branch_bounded {branch : PyStr} (valid : branchText branch = true) : branch.length ≤ 255 :=
  (of_decide_eq_true valid).2

theorem sha_bounded {sha : PyStr} (valid : shaText sha = true) : sha.length ≤ 255 := by
  have bounds := of_decide_eq_true (Bool.and_eq_true_iff.mp valid).1
  omega

theorem digest_bounded {digest : PyStr} (valid : digestText digest = true) :
    digest.length ≤ 255 := by
  have exact_ := of_decide_eq_true (Bool.and_eq_true_iff.mp valid).1
  omega

theorem kind_bounded (kind : TaskBranchKind) : kind.text.length ≤ 7 := by
  cases kind <;> decide

theorem base_bounded (base : BaseBranch) : base.text.length ≤ 255 := by
  cases base <;> decide

theorem uuidText_length (id : UUID) : (uuidText id).length = 36 := by
  simp [uuidText]

theorem taskBranch_bounded {taskId : UUID} {kind : TaskBranchKind} {slug : PyStr}
    (valid : slugText slug = true) : (taskBranch taskId kind slug).length ≤ 255 := by
  have short : slug.length ≤ 63 := by
    unfold slugText at valid
    simp only [Bool.and_eq_true, decide_eq_true_eq] at valid
    exact valid.1.1.2
  have prefix_ := kind_bounded kind
  unfold taskBranch
  simp only [List.length_append, List.length_cons, uuidText_length]
  omega

theorem error_bounded (code : GitWorkflowErrorCode) : code.text.length ≤ 255 := by
  cases code <;>
  · dsimp only [GitWorkflowErrorCode.text]
    rw [PyStr.ofString_ofList]
    decide

theorem decision_bounded (decision : MergeDecision) : decision.text.length ≤ 255 := by
  cases decision <;>
  · dsimp only [MergeDecision.text]
    rw [PyStr.ofString_ofList]
    decide

theorem freezable_text {key : GitAuditDataKey} {value : PyStr} (short : value.length ≤ 255)
    (textual : key.numeric = false) : freezable (key, .text value) = true := by
  change (decide (value.length ≤ 255) && !key.numeric) = true
  rw [textual, decide_eq_true short]
  rfl

theorem freezable_count {key : GitAuditDataKey} {value : Int} (counts : 0 ≤ value) :
    freezable (key, .integer value) = true := by
  change (!key.numeric || decide (0 ≤ value)) = true
  rw [decide_eq_true counts, Bool.or_true]

theorem freezable_flag {key : GitAuditDataKey} {value : Bool} (textual : key.numeric = false) :
    freezable (key, .flag value) = true := by
  change (!key.numeric) = true
  rw [textual]
  rfl

theorem prepared_bounded {request : PreparePullRequestRequest} {branch : PyStr}
    (derived : request.expectedBranch = .ok branch) : branch.length ≤ 255 := by
  unfold PreparePullRequestRequest.expectedBranch deriveTaskBranch at derived
  split at derived
  · next valid =>
      cases derived
      exact taskBranch_bounded valid
  · cases derived

theorem started_frozen {request : GitRequest} {data : GitAuditData}
    (started : request.startedData = .ok data) : data.length ≤ 18 ∧ data.all freezable = true := by
  cases request with
  | getStatus => cases started; exact ⟨by decide, rfl⟩
  | getDiff request => cases started; exact ⟨by decide, rfl⟩
  | getHistory request => cases started; exact ⟨by decide, rfl⟩
  | createTaskBranch request =>
      cases started
      have kind := (kind_bounded request.kind).trans (by omega : 7 ≤ 255)
      have branch : request.branch.length ≤ 255 := taskBranch_bounded request.slug_valid
      refine ⟨by simp, ?_⟩
      simp only [List.all_cons, List.all_nil, Bool.and_true, Bool.and_eq_true]
      exact ⟨freezable_text kind rfl, freezable_text branch rfl,
        freezable_text (base_bounded _) rfl⟩
  | commitChanges request =>
      cases started
      have kind := (kind_bounded request.branchKind).trans (by omega : 7 ≤ 255)
      have branch : request.expectedBranch.length ≤ 255 := taskBranch_bounded request.slug_valid
      refine ⟨by simp, ?_⟩
      simp only [List.all_cons, List.all_nil, Bool.and_true, Bool.and_eq_true]
      exact ⟨freezable_text kind rfl, freezable_text branch rfl, freezable_count (by omega)⟩
  | preparePullRequest request =>
      simp only [GitRequest.startedData] at started
      split at started
      · next branch derived =>
          cases started
          refine ⟨by simp, ?_⟩
          simp only [List.all_cons, List.all_nil, Bool.and_true, Bool.and_eq_true]
          exact ⟨freezable_text (base_bounded _) rfl, freezable_text (prepared_bounded derived) rfl⟩
      · cases started
  | validateMergeRequirements request checked =>
      cases started
      have digest := digest_bounded (Bool.and_eq_true_iff.mp checked).2
      refine ⟨by simp, ?_⟩
      simp only [List.all_cons, List.all_nil, Bool.and_true]
      exact freezable_text digest rfl

theorem preparation_bounded {preparation : PullRequestPreparation}
    (checked : preparation.check = true) : preparation.payload.headBranch.length ≤ 255 ∧
      (preparation.payload.headSha.getD []).length ≤ 255 ∧
      preparation.payload.baseSha.length ≤ 255 ∧ preparation.checksum.length ≤ 255 ∧
      0 ≤ preparation.payload.commitCount := by
  obtain ⟨payload, digest⟩ := Bool.and_eq_true_iff.mp checked
  unfold PreparationPayload.check at payload
  simp only [Bool.and_eq_true, decide_eq_true_eq] at payload
  obtain ⟨⟨⟨⟨base, branch⟩, head⟩, bounds⟩, _⟩ := payload
  have short : (preparation.payload.headSha.getD []).length ≤ 255 := by
    cases sha : preparation.payload.headSha with
    | none => exact Nat.zero_le _
    | some text =>
        rw [sha] at head
        exact sha_bounded head
  exact ⟨branch_bounded branch, short, sha_bounded base, digest_bounded digest, by omega⟩

theorem mergeValidation_frozen (result : MergeValidationResult) :
    (mergeValidationAuditData result).all freezable = true := by
  unfold mergeValidationAuditData
  simp only [List.all_cons, List.all_nil, Bool.and_true, Bool.and_eq_true]
  refine ⟨freezable_text (decision_bounded _) rfl, freezable_text ?_ rfl⟩
  split
  · decide
  · next short => exact Nat.le_of_not_lt short

theorem completed_frozen (request : GitRequest) (result : request.Result) :
    (request.completedData result).length ≤ 18 ∧
    (request.completedData result).all freezable = true := by
  cases request with
  | getStatus =>
      obtain ⟨status, checked⟩ := result
      refine ⟨by simp [GitRequest.completedData], ?_⟩
      simp only [GitRequest.completedData, List.all_cons, List.all_nil, Bool.and_true,
        Bool.and_eq_true]
      refine ⟨freezable_count (by omega), freezable_text ?_ rfl, freezable_flag rfl⟩
      cases status.clean <;> decide
  | getDiff request =>
      obtain ⟨diff, checked⟩ := result
      refine ⟨by simp [GitRequest.completedData], ?_⟩
      simp only [GitRequest.completedData, List.all_cons, List.all_nil, Bool.and_true,
        Bool.and_eq_true]
      exact ⟨freezable_count (by omega), freezable_count (by omega), freezable_count (by omega),
        freezable_count (by omega), freezable_flag rfl⟩
  | getHistory request =>
      obtain ⟨history, checked⟩ := result
      refine ⟨by simp [GitRequest.completedData], ?_⟩
      simp only [GitRequest.completedData, List.all_cons, List.all_nil, Bool.and_true,
        Bool.and_eq_true]
      exact ⟨freezable_count (by omega), freezable_count (by omega), freezable_flag rfl⟩
  | createTaskBranch request =>
      obtain ⟨branch, checked⟩ := result
      obtain ⟨name, head⟩ := Bool.and_eq_true_iff.mp checked
      refine ⟨by simp [GitRequest.completedData], ?_⟩
      simp only [GitRequest.completedData, List.all_cons, List.all_nil, Bool.and_true,
        Bool.and_eq_true]
      exact ⟨freezable_text (branch_bounded name) rfl, freezable_text (base_bounded _) rfl,
        freezable_text (sha_bounded head) rfl⟩
  | commitChanges request =>
      obtain ⟨commit, checked⟩ := result
      unfold GitCommitResult.check at checked
      simp only [Bool.and_eq_true] at checked
      refine ⟨by simp [GitRequest.completedData], ?_⟩
      simp only [GitRequest.completedData, List.all_cons, List.all_nil, Bool.and_true,
        Bool.and_eq_true]
      exact ⟨freezable_text (branch_bounded checked.1.1.1) rfl,
        freezable_text (sha_bounded checked.1.1.2) rfl, freezable_count (by omega)⟩
  | preparePullRequest request =>
      obtain ⟨preparation, checked⟩ := result
      obtain ⟨branch, head, _, digest, count⟩ := preparation_bounded checked
      refine ⟨by simp [GitRequest.completedData], ?_⟩
      simp only [GitRequest.completedData, List.all_cons, List.all_nil, Bool.and_true,
        Bool.and_eq_true]
      exact ⟨freezable_text (base_bounded _) rfl, freezable_text branch rfl,
        freezable_text head rfl,
        freezable_count (by omega), freezable_count count, freezable_count (by omega),
        freezable_count (by omega), freezable_text digest rfl⟩
  | validateMergeRequirements request checked =>
      obtain ⟨validation, _⟩ := result
      obtain ⟨_, head, base, digest, _⟩ := preparation_bounded checked
      refine ⟨by simp [GitRequest.completedData, mergeValidationAuditData], ?_⟩
      simp only [GitRequest.completedData, List.all_append, mergeValidation_frozen, List.all_cons,
        List.all_nil, Bool.true_and, Bool.and_true, Bool.and_eq_true]
      exact ⟨freezable_text digest rfl, freezable_text head rfl, freezable_text base rfl⟩

end Data

end SynapseOS.LocalGit
