import SynapseOS.LocalGit.Output

/-! The local Git provider (`infrastructure/git/local.py`) over the processes that it starts. -/

namespace SynapseOS.LocalGit

open Execution Program
open Workspaces (pathParts asPosix)

inductive Ending
  | exits (code : Int) (stdout : ByteArray)
  | timedOut
  | cancelled
  | failed

/-- What the provider is run on: git, of which each process has a number, the workspace, and what
the checks of a repository and of its paths say. -/
structure Machine (R : Type) where
  git : Nat → List PyStr → R → R × Ending
  managed : R → Bool
  allowed : R → PyStr → Bool
  marks : R → OperationMarks
  aware : PyStr → Bool

structure GitWorld (R : Type) where
  repository : R
  processes : Nat

abbrev GitProgram (R α : Type) : Type := Program (GitWorld R) Raised α

structure ProcessResult where
  exitCode : Int
  stdout : BoundedOutput

section Arguments

def statusArguments : List PyStr :=
  ["status", "--porcelain=v2", "--branch", "-z", "--untracked-files=all"].map .ofString

def diffBase : List PyStr :=
  ["diff", "--no-ext-diff", "--no-textconv", "--no-color", "--no-renames", "--src-prefix=a/",
    "--dst-prefix=b/", "--patch", "--numstat", "-z"].map .ofString

def BaseBranch.threeDots (branch : BaseBranch) : PyStr := branch.text ++ .ofString "...HEAD"

def BaseBranch.range (branch : BaseBranch) : PyStr := branch.text ++ .ofString "..HEAD"

def diffArguments (mode : GitDiffMode) (paths : List PyStr) : List PyStr :=
  diffBase ++
    (match mode with
      | .worktree => []
      | .staged => [.ofString "--cached"]
      | .base branch => [branch.threeDots]) ++
    if paths = [] then [] else .ofString "--" :: paths

def addArguments (paths : List PyStr) : List PyStr := ["add", "--all", "--"].map .ofString ++ paths

def resetArguments (paths : List PyStr) : List PyStr :=
  ["reset", "--quiet", "HEAD", "--"].map .ofString ++ paths

def commitArguments (request : CommitRequest) (paths : List PyStr) : List PyStr :=
  [.ofString "-c", .ofString "user.name=" ++ request.identity.displayName, .ofString "-c",
    .ofString "user.email=" ++ request.identity.email] ++
    ["-c", "commit.gpgSign=false", "commit", "--only", "--no-gpg-sign", "-m"].map .ofString ++
    [request.subject, .ofString "--"] ++ paths

def headArguments : List PyStr := ["rev-parse", "HEAD"].map .ofString

def parentArguments : List PyStr := ["rev-list", "--parents", "-n", "1", "HEAD"].map .ofString

def subjectArguments : List PyStr := ["show", "-s", "--format=%s", "HEAD"].map .ofString

def ancestorArguments (branch : BaseBranch) : List PyStr :=
  [.ofString "merge-base", .ofString "--is-ancestor", branch.text, .ofString "HEAD"]

def baseArguments (branch : BaseBranch) : List PyStr := [.ofString "rev-parse", branch.text]

def countArguments (branch : BaseBranch) : List PyStr :=
  [.ofString "rev-list", .ofString "--count", branch.range]

def mergesArguments (branch : BaseBranch) : List PyStr :=
  [.ofString "rev-list", .ofString "--merges", branch.range]

def integerText (value : Int) : PyStr := .ofString (toString value)

def logArguments (branch : BaseBranch) (count : Int) : List PyStr :=
  let format := [0x1F].intercalate (["--format=%H", "%P", "%s", "%an", "%aI"].map PyStr.ofString) ++
    [0x1E]
  [.ofString "log", .ofString "--first-parent", .ofString "--max-count=" ++ integerText (count + 1),
    format, branch.range]

def namesArguments (branch : BaseBranch) : List PyStr :=
  ["diff", "--name-only", "-z", "--no-renames"].map .ofString ++ [branch.threeDots]

def numstatArguments (branch : BaseBranch) : List PyStr :=
  ["diff", "--numstat", "-z", "--no-renames"].map .ofString ++ [branch.threeDots]

end Arguments

section Provider

variable {R : Type} (machine : Machine R) (limits : GitProcessLimits) (timeout : ℚ)

def failure (code : GitWorkflowErrorCode) : Raised := .git code

/-- `_run`, which accepts the given exit codes. -/
def run (arguments : List PyStr) (limit : Nat) (accepted : List Int) : GitProgram R ProcessResult :=
  do
  if timeout ≤ 0 then raise (failure .invalidRequest)
  else do
    let world ← look
    let step := machine.git world.processes arguments world.repository
    update fun world => { world with repository := step.1, processes := world.processes + 1 }
    match step.2 with
    | .cancelled => raise .cancelled
    | .timedOut => raise (failure .timedOut)
    | .failed => raise (failure .gitFailed)
    | .exits code stdout =>
        if code ∈ accepted then pure ⟨code, bounded limit stdout⟩ else raise (failure .gitFailed)

def readScalar (arguments : List PyStr) : GitProgram R PyStr := do
  let result ← run machine timeout arguments limits.stderrBytes [0]
  resume (parseScalar result.stdout)

def requireRepository : GitProgram R Unit := do
  let world ← look
  if machine.managed world.repository = true then pure () else raise (failure .invalidRepository)

/-- `_resolve_paths`: a path that is allowed is the same, in its canonical spelling. -/
def resolvePaths (paths : List PyStr) : GitProgram R (List PyStr) := do
  let world ← look
  resume (paths.mapM fun path =>
    if machine.allowed world.repository path = true then .ok (asPosix (pathParts path))
    else .error (failure .unsafePath))

def status : GitProgram R GitRepositoryStatus := do
  requireRepository machine
  let result ← run machine timeout statusArguments limits.statusBytes [0]
  if result.stdout.truncated = true then raise (failure .resourceLimit)
  else do
    let world ← look
    resume (parseStatus (machine.marks world.repository) result.stdout)

def diff (mode : GitDiffMode) (paths : List PyStr) : GitProgram R GitDiffResult := do
  requireRepository machine
  let selected ← resolvePaths machine paths
  let result ← run machine timeout (diffArguments mode selected) limits.diffBytes [0]
  let (patch, changedPaths, insertions, deletions) ← resume (parseDiffOutput result.stdout.content)
  let resolved ← resolvePaths machine changedPaths
  if resolved ≠ changedPaths then raise (failure .unsafePath)
  else do
    let difference : GitDiffResult := ⟨mode, patch, changedPaths, insertions, deletions,
      result.stdout.truncated, result.stdout.totalBytes⟩
    if difference.check = true then pure difference else raise .invalid

end Provider

section Commit

variable {R : Type} (machine : Machine R) (limits : GitProcessLimits) (timeout : ℚ)
  (request : CommitRequest)

def commitAllowed (initial : GitRepositoryStatus) : Except Raised Unit :=
  if initial.branch ≠ some request.expectedBranch then
    .error (failure (if initial.branch.any isProtectedBranch = true then .protectedBranch
      else .invalidState))
  else if initial.detached = true ∨ initial.headSha = none ∨ initial.stagedCount ≠ 0 ∨
      initial.operationInProgress = true then .error (failure .invalidState)
  else .ok ()

/-- `commit_changes` up to the staging. -/
def openCommit : GitProgram R (GitRepositoryStatus × List PyStr) := do
  requireRepository machine
  let initial ← status machine limits timeout
  resume (commitAllowed request initial)
  let paths ← resolvePaths machine request.paths
  pure (initial, paths)

def policyAllows : PolicyAnswer → Except Raised Unit
  | .allow => .ok ()
  | .deny reason => .error (failure (if reason = .ofString "SECRET_DETECTED" then .secretDetected
      else .invalidState))
  | .other | .raises => .error (failure .invalidRequest)

def unchangedSince (initial rechecked : GitRepositoryStatus) : Bool :=
  decide (rechecked.branch = initial.branch ∧ rechecked.headSha = initial.headSha ∧
    rechecked.stagedCount ≠ 0) && !rechecked.operationInProgress

/-- `commit_changes` from the staging to the commit; what is committed must be shown to the
policy. -/
def inspectStaged (policy : PyStr → PolicyAnswer) (initial : GitRepositoryStatus)
    (paths : List PyStr) : GitProgram R GitDiffResult := do
  if paths.all safeRelativePath = false ∨ ¬ paths.Nodup ∨ 128 < paths.length then raise .invalid
  else do
    let staged ← diff machine limits timeout .staged paths
    if staged.truncated = true then raise (failure .resourceLimit)
    else if staged.patch = [] then raise (failure .emptyChange)
    else do
      resume (policyAllows (policy staged.patch))
      let rechecked ← status machine limits timeout
      if unchangedSince initial rechecked = true then pure staged else raise (failure .staleState)

def runCommit (paths : List PyStr) : GitProgram R ProcessResult :=
  run machine timeout (commitArguments request paths) limits.statusBytes [0]

def restoreIndex (paths : List PyStr) : GitProgram R Unit := do
  match ← attempt (run machine timeout (resetArguments paths) limits.stderrBytes [0]) with
  | .ok _ => pure ()
  | .error .invalid => raise .invalid
  | .error _ => raise (failure .compensationFailed)

def handled : Raised → Raised
  | .invalid => failure .gitFailed
  | raised => raised

/-- The result of a commit, whose only parent must be the head that was read first. -/
def commitResult (initial : GitRepositoryStatus) (paths : List PyStr)
    (commitSha parentLine subject : PyStr) : Except Raised GitCommitResult :=
  match words parentLine with
  | [itself, parent] =>
      if itself ≠ commitSha ∨ some parent ≠ initial.headSha ∨ subject ≠ request.subject then
        .error (failure .staleState)
      else
        let result : GitCommitResult :=
          ⟨request.expectedBranch, commitSha, parent, subject, paths.length⟩
        if result.check = true then .ok result else .error .invalid
  | _ => .error (failure .staleState)

/-- `commit_changes` after the commit. -/
def verifyCommit (initial : GitRepositoryStatus)
    (paths : List PyStr) : GitProgram R GitCommitResult := do
  let commitSha ← readScalar machine limits timeout headArguments
  let parentLine ← readScalar machine limits timeout parentArguments
  let subject ← readScalar machine limits timeout subjectArguments
  resume (commitResult request initial paths commitSha parentLine subject)

/-- `commit_changes`. Nothing is restored of a staging that raises. -/
def commitChanges (policy : PyStr → PolicyAnswer) : GitProgram R GitCommitResult := do
  let (initial, paths) ← openCommit machine limits timeout request
  match ← attempt (run machine timeout (addArguments paths) limits.stderrBytes [0]) with
  | .error raised => raise (handled raised)
  | .ok _ =>
      match ← attempt (do
        let _ ← inspectStaged machine limits timeout policy initial paths
        runCommit machine limits timeout request paths) with
      | .error raised => do
          restoreIndex machine limits timeout paths
          raise (handled raised)
      | .ok _ => verifyCommit machine limits timeout request initial paths

end Commit

end SynapseOS.LocalGit
