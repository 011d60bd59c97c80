import SynapseOS.Core.Fields
import SynapseOS.Workspaces.Paths

/-! Values of the local Git workflow (`core/git_workflow/types.py`). -/

namespace SynapseOS.LocalGit

open Execution
open Workspaces (pathParts asPosix)

inductive GitWorkflowErrorCode
  | invalidRequest
  | unauthorized
  | unsafePath
  | invalidRepository
  | invalidState
  | protectedBranch
  | branchExists
  | emptyChange
  | secretDetected
  | staleState
  | resourceLimit
  | timedOut
  | gitFailed
  | compensationFailed
  | auditFailed
  deriving DecidableEq, Repr

/-- A `GitWorkflowError`, a cancellation, or a value that a model or a conversion refuses. -/
inductive Raised
  | git (code : GitWorkflowErrorCode)
  | cancelled
  | invalid
  deriving DecidableEq, Repr

inductive TaskBranchKind
  | feature
  | fix
  | chore
  deriving DecidableEq, Repr

inductive CommitKind
  | feat
  | fix
  | test
  | docs
  | refactor
  | perf
  | build
  | ci
  | chore
  deriving DecidableEq, Repr

inductive BaseBranch
  | main
  | production
  deriving DecidableEq, Repr

inductive GitDiffMode
  | worktree
  | staged
  | base (branch : BaseBranch)
  deriving DecidableEq, Repr

inductive GitCheckStatus
  | pass
  | fail
  | missing
  | truncated
  deriving DecidableEq, Repr

inductive MergeReasonCode
  | invalidScope
  | stalePreparation
  | protectedHead
  | unprotectedBase
  | dirtyRepository
  | operationInProgress
  | baseNotAncestor
  | mergeCommitPresent
  | authorIsReviewer
  | reviewNotApproved
  | qaNotPassed
  | securityNotPassed
  | checksNotPassed
  deriving DecidableEq, Repr

def TaskBranchKind.text : TaskBranchKind → PyStr
  | .feature => .ofString "feature"
  | .fix => .ofString "fix"
  | .chore => .ofString "chore"

def CommitKind.text : CommitKind → PyStr
  | .feat => .ofString "feat"
  | .fix => .ofString "fix"
  | .test => .ofString "test"
  | .docs => .ofString "docs"
  | .refactor => .ofString "refactor"
  | .perf => .ofString "perf"
  | .build => .ofString "build"
  | .ci => .ofString "ci"
  | .chore => .ofString "chore"

def BaseBranch.text : BaseBranch → PyStr
  | .main => .ofString "main"
  | .production => .ofString "production"

def isProtectedBranch (branch : PyStr) : Bool :=
  [PyStr.ofString "main", PyStr.ofString "production"].contains branch

section Text

def lowerAlphanumeric (point : Nat) : Bool := lowerLetter point || digit point

def slugText (text : PyStr) : Bool :=
  decide (1 ≤ text.length ∧ text.length ≤ 63) &&
    text.all (fun point => lowerAlphanumeric point || decide (point = 0x2D)) &&
    decide (text.head? ≠ some 0x2D ∧ text.getLast? ≠ some 0x2D ∧ ¬ [0x2D, 0x2D] <:+: text)

def scopeText (text : PyStr) : Bool :=
  decide (1 ≤ text.length ∧ text.length ≤ 32) &&
    text.all (fun point => lowerAlphanumeric point || decide (point = 0x2D)) &&
    decide (text.head? ≠ some 0x2D ∧ text.getLast? ≠ some 0x2D)

/-- `require_safe_summary`. -/
def summaryText (text : PyStr) : Bool :=
  decide (1 ≤ text.length ∧ text.length ≤ 100 ∧ text = strip text) &&
    text.all fun point => decide (32 ≤ point)

/-- `_validate_relative_path`. -/
def safeRelativePath (text : PyStr) : Bool :=
  decide (1 ≤ text.length ∧ text.length ≤ 512 ∧ text.head? ≠ some 0x2F) && !text.contains 0x5C &&
    text.all (fun point => decide (32 ≤ point)) && decide (text = asPosix (pathParts text)) &&
    (pathParts text).all fun part => part ≠ .ofString ".." && part ≠ .ofString ".git"

def hexDigit (value : Nat) : Nat := if value < 10 then 0x30 + value else 0x57 + value

/-- `str(uuid)`. -/
def uuidText (id : UUID) : PyStr :=
  let digits := (List.range 32).map fun place => hexDigit (id / 16 ^ (31 - place) % 16)
  digits.take 8 ++ 0x2D :: (digits.drop 8).take 4 ++ 0x2D :: (digits.drop 12).take 4 ++
    0x2D :: (digits.drop 16).take 4 ++ 0x2D :: digits.drop 20

def taskBranch (taskId : UUID) (kind : TaskBranchKind) (slug : PyStr) : PyStr :=
  kind.text ++ 0x2F :: uuidText taskId ++ 0x2D :: slug

def deriveTaskBranch (taskId : UUID) (kind : TaskBranchKind) (slug : PyStr) : Except Raised PyStr :=
  if slugText slug = true then .ok (taskBranch taskId kind slug) else .error .invalid

end Text

structure GitIdentity where
  displayName : PyStr
  email : PyStr

structure CommitRequest where
  taskId : UUID
  branchKind : TaskBranchKind
  branchSlug : PyStr
  kind : CommitKind
  scope : Option PyStr
  summary : PyStr
  paths : List PyStr
  identity : GitIdentity
  slug_valid : slugText branchSlug = true
  scope_valid : scope.all scopeText = true
  summary_valid : summaryText summary = true
  paths_few : 1 ≤ paths.length ∧ paths.length ≤ 128
  paths_safe : paths.all safeRelativePath = true
  paths_unique : paths.Nodup

def CommitRequest.expectedBranch (request : CommitRequest) : PyStr :=
  taskBranch request.taskId request.branchKind request.branchSlug

def CommitRequest.subject (request : CommitRequest) : PyStr :=
  match request.scope with
  | none => request.kind.text ++ .ofString ": " ++ request.summary
  | some scope => request.kind.text ++ 0x28 :: scope ++ .ofString "): " ++ request.summary

structure GitProcessLimits where
  statusBytes : Nat
  diffBytes : Nat
  historyBytes : Nat
  stderrBytes : Nat
  maximumPaths : Nat
  bytes_valid : ∀ limit ∈ [statusBytes, diffBytes, historyBytes, stderrBytes], 1024 ≤ limit
  paths_valid : 1 ≤ maximumPaths ∧ maximumPaths ≤ 128

/-- The files of `.git` that say that an operation is in progress. -/
structure OperationMarks where
  merge : Bool := false
  rebase : Bool := false
  cherryPick : Bool := false
  revert : Bool := false
  bisect : Bool := false
  deriving DecidableEq

structure GitRepositoryStatus where
  branch : Option PyStr
  headSha : Option PyStr
  detached : Bool
  clean : Bool
  stagedCount : Nat
  unstagedCount : Nat
  untrackedCount : Nat
  marks : OperationMarks
  outputBytes : Nat

def GitRepositoryStatus.operationInProgress (status : GitRepositoryStatus) : Bool :=
  status.marks.merge || status.marks.rebase || status.marks.cherryPick || status.marks.revert ||
    status.marks.bisect

def branchText (text : PyStr) : Bool := decide (1 ≤ text.length ∧ text.length ≤ 255)

def GitRepositoryStatus.check (status : GitRepositoryStatus) : Bool :=
  status.branch.all branchText && status.headSha.all shaText &&
    decide (status.stagedCount ≤ 100000 ∧ status.unstagedCount ≤ 100000 ∧
      status.untrackedCount ≤ 100000 ∧ status.outputBytes ≤ 1048576)

structure GitDiffResult where
  mode : GitDiffMode
  patch : PyStr
  changedPaths : List PyStr
  insertions : Nat
  deletions : Nat
  truncated : Bool
  outputBytes : Nat

def GitDiffResult.check (result : GitDiffResult) : Bool :=
  decide (result.patch.length ≤ 4194304 ∧ result.changedPaths.length ≤ 128 ∧
    result.insertions ≤ 10000000 ∧ result.deletions ≤ 10000000 ∧ result.outputBytes ≤ 4194304)

/-- What is kept of a commit of a history; its time was aware. -/
structure GitCommitSummary where
  sha : PyStr
  parentShas : List PyStr
  subject : PyStr
  authorName : PyStr

def GitCommitSummary.check (commit : GitCommitSummary) : Bool :=
  shaText commit.sha && decide (commit.parentShas.length ≤ 16 ∧ 1 ≤ commit.subject.length ∧
    commit.subject.length ≤ 200 ∧ 1 ≤ commit.authorName.length ∧ commit.authorName.length ≤ 128)

structure GitCommitResult where
  branch : PyStr
  commitSha : PyStr
  parentSha : PyStr
  subject : PyStr
  changedPathCount : Nat
  deriving DecidableEq

def GitCommitResult.check (result : GitCommitResult) : Bool :=
  branchText result.branch && shaText result.commitSha && shaText result.parentSha &&
    decide (1 ≤ result.subject.length ∧ result.subject.length ≤ 200 ∧ 1 ≤ result.changedPathCount ∧
      result.changedPathCount ≤ 128)

/-- What `inspect` of a policy does: it allows, denies for a reason, returns something else or
raises. -/
inductive PolicyAnswer
  | allow
  | deny (reason : PyStr)
  | other
  | raises
  deriving DecidableEq

structure GitWorkflowContext where
  workspaceRoot : PyStr
  projectId : UUID
  taskId : UUID
  actorLogicalId : PyStr
  correlationId : UUID

structure PreparePullRequestRequest where
  taskId : UUID
  branchKind : TaskBranchKind
  branchSlug : PyStr
  baseBranch : BaseBranch
  title : PyStr
  summary : PyStr

def PreparePullRequestRequest.expectedBranch (request : PreparePullRequestRequest) :
    Except Raised PyStr :=
  deriveTaskBranch request.taskId request.branchKind request.branchSlug

structure PreparationPayload where
  projectId : UUID
  taskId : UUID
  correlationId : UUID
  baseBranch : BaseBranch
  baseSha : PyStr
  headBranch : PyStr
  headSha : Option PyStr
  title : PyStr
  summary : PyStr
  changedPaths : List PyStr
  insertions : Nat
  deletions : Nat
  commitCount : Int
  authorLogicalId : PyStr
  deriving DecidableEq

structure PullRequestPreparation where
  payload : PreparationPayload
  checksum : PyStr

def PreparationPayload.check (payload : PreparationPayload) : Bool :=
  shaText payload.baseSha && branchText payload.headBranch && payload.headSha.any shaText &&
    decide (1 ≤ payload.title.length ∧ payload.title.length ≤ 200 ∧ 1 ≤ payload.summary.length ∧
      payload.summary.length ≤ 4096 ∧ 1 ≤ payload.changedPaths.length ∧
      payload.changedPaths.length ≤ 128 ∧ payload.insertions ≤ 10000000 ∧
      payload.deletions ≤ 10000000 ∧ 1 ≤ payload.commitCount ∧ payload.commitCount ≤ 10000) &&
    identifierText true payload.authorLogicalId

structure GitEvidenceReference where
  projectId : UUID
  taskId : UUID
  correlationId : UUID
  headSha : PyStr
  actorLogicalId : PyStr
  status : GitCheckStatus
  truncated : Bool

structure ValidateMergeRequirementsRequest where
  preparation : PullRequestPreparation
  reviewer : GitEvidenceReference
  qa : GitEvidenceReference
  security : GitEvidenceReference
  checks : List GitEvidenceReference

end SynapseOS.LocalGit
