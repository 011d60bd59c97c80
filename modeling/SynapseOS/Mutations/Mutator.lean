import Mathlib
import SynapseOS.Workspaces.Paths

/-! Compensatable text mutations (`infrastructure/tools/mutations.py`). Every call at a file
system is named by its place in the source, where it is made at most once in an operation. -/

namespace SynapseOS.Mutations

open Tools Execution Workspaces Program

structure MutationLimits where
  maxInputBytes : Nat
  maxExistingBytes : Nat
  maxPatchOperations : Nat
  maxPatchTextBytes : Nat
  maxDiffBytes : Nat
  input_bounds : 1 ≤ maxInputBytes ∧ maxInputBytes ≤ 16777216
  existing_bounds : 1 ≤ maxExistingBytes ∧ maxExistingBytes ≤ 16777216
  operation_bounds : 1 ≤ maxPatchOperations ∧ maxPatchOperations ≤ 1024
  text_bounds : 1 ≤ maxPatchTextBytes ∧ maxPatchTextBytes ≤ 1048576
  diff_bounds : 1 ≤ maxDiffBytes ∧ maxDiffBytes ≤ 1048576

structure TextReplacement where
  oldText : PyStr
  newText : PyStr

inductive MutationOperation
  | write
  | create
  | patch
  | delete
  deriving DecidableEq, Repr

inductive Artifact
  | backup
  | temporary
  deriving DecidableEq, Repr

inductive Resolution
  | target
  | parent
  deriving DecidableEq, Repr

/-- Where in the source a call is made. -/
inductive Site
  | acquireLock
  | releaseLock
  | projectRoot
  | path (which : Resolution) (component : Nat)
  | existing
  | sameTarget (again : Bool)
  | transactionArea
  | artifact (which : Artifact) (turn : Nat)
  /-- The call that changes the target. -/
  | target
  /-- The `unlink` of the temporary file after the link. -/
  | linked
  | discard (which : Artifact)
  | removeArea (path : List Name)
  | summary
  deriving DecidableEq

/-- What one operation meets: which calls fail, the random tokens, and the library's digest and
diff. -/
structure Host where
  limits : MutationLimits
  faults : Site → Faults
  areaToken : String
  token : Artifact → Nat → String
  sha256 : ByteArray → String
  unifiedDiff : String → String → List String

structure MutationSummary where
  path : PyStr
  operation : MutationOperation
  beforeBytes : Nat
  afterBytes : Nat
  beforeSha256 : String
  afterSha256 : String
  addedLines : Nat
  removedLines : Nat
  diff : String
  diffTruncated : Bool
  truncated : Bool

structure LocalMutationTransaction where
  project : UUID
  area : Place Slot Name
  target : Place Slot Name
  backup : Option (Place Slot Name)
  created : Bool
  originalMode : Option Nat
  finished : Bool := false

structure TransactionalToolOutput where
  output : MutationSummary
  transaction : LocalMutationTransaction

def failure (code : ToolErrorCode) (message : String) : Raised := .tool .base code message

def mutationFailed : Raised := failure .mutationFailed "File mutation failed."

def compensationFailed : Raised := failure .compensationFailed "File mutation failed."

def fileChanged : Raised := failure .targetConflict "Requested file changed."

def fileExists : Raised := failure .targetConflict "Requested file already exists."

def fileMissing : Raised := failure .targetNotFound "Requested file does not exist."

def notText : Raised := failure .unsupportedFile "Requested file is not UTF-8 text."

def invalidPatch : Raised := failure .invalidInput "Patch request is invalid."

/-- `except WorkspaceError` with a handler that raises `e`. -/
def orWorkspace {α : Type} (body : Program Files Raised α) (e : Raised) :
    Program Files Raised α := do
  match ← attempt body with
  | .ok a => pure a
  | .error (.workspace _ _) => raise e
  | .error other => raise other

section Texts

def encode (text : PyStr) : Except Raised ByteArray :=
  if text.any surrogate = true then .error .valueError
  else .ok (String.ofList (text.map Char.ofNat)).toUTF8

def decode (data : ByteArray) : Except Raised String :=
  match String.fromUTF8? data with
  | some text => .ok text
  | none => .error .valueError

/-- `text.count(old)`: occurrences that do not overlap, of which `skip` code points are passed. -/
def count (old : PyStr) : Nat → PyStr → Nat
  | _, [] => 0
  | skip + 1, _ :: rest => count old skip rest
  | 0, point :: rest =>
      if old.isPrefixOf (point :: rest) = true then 1 + count old (old.length - 1) rest
      else count old 0 rest

/-- `text.replace(old, new, 1)`. -/
def replaceOnce (old new : PyStr) : PyStr → PyStr
  | [] => []
  | point :: rest =>
      if old.isPrefixOf (point :: rest) = true then new ++ (point :: rest).drop old.length
      else point :: replaceOnce old new rest

def encodeInput (limits : MutationLimits) (content : PyStr) : Except Raised ByteArray := do
  let encoded ← encode content
  if limits.maxInputBytes < encoded.size then
    .error (failure .outputLimit "File content exceeds its limit.")
  else .ok encoded

def patchMismatch : Raised :=
  failure .patchMismatch "Requested patch does not match exactly once."

def applyReplacements (limits : MutationLimits) : PyStr → List TextReplacement → Except Raised PyStr
  | current, [] => .ok current
  | current, replacement :: rest => do
      if replacement.oldText.isEmpty then .error invalidPatch
      else
        let old ← encode replacement.oldText
        if limits.maxPatchTextBytes < old.size then .error patchMismatch
        else
          let new ← encode replacement.newText
          if limits.maxPatchTextBytes < new.size ∨ count replacement.oldText 0 current ≠ 1 then
            .error patchMismatch
          else
            applyReplacements limits
              (replaceOnce replacement.oldText replacement.newText current) rest

structure Diff where
  chunks : List String := []
  size : Nat := 0
  truncated : Bool := false
  added : Nat := 0
  removed : Nat := 0

/-- The loop of `_bounded_diff` over the lines of the diff. -/
def boundedDiff (limits : MutationLimits) (diff : Diff) : List String → Diff
  | [] => diff
  | line :: rest =>
      let counted :=
        if line.startsWith "+" && !line.startsWith "+++" then { diff with added := diff.added + 1 }
        else if line.startsWith "-" && !line.startsWith "---" then
          { diff with removed := diff.removed + 1 }
        else diff
      if limits.maxDiffBytes < counted.size + line.utf8ByteSize then
        { counted with truncated := true }
      else
        boundedDiff limits
          { counted with
            chunks := counted.chunks ++ [line]
            size := counted.size + line.utf8ByteSize } rest

end Texts

section Target

structure StatResult where
  regular : Bool
  inode : Nat
  mode : Nat
  links : Nat
  size : Nat

/-- `os.lstat`, of which only a regular file shows more than its kind. -/
def lstat (place : Place Slot Name) (disk : Files) : Except OSError StatResult := do
  match ← disk.find place with
  | .file inode =>
      let held := disk.inodes inode
      .ok ⟨true, inode, held.mode, held.links, held.content.size⟩
  | _ => .ok ⟨false, 0, 0, 0, 0⟩

def readBytes (place : Place Slot Name) (disk : Files) : Except OSError ByteArray := do
  match ← disk.find place with
  | .file inode => .ok (disk.inodes inode).content
  | _ => .error .invalid

def requireSameTarget (faults : Faults) (target : Place Slot Name) (expected : StatResult) :
    Program Files Raised Unit := do
  let current ← orRaise (ask (faults .lstat) (lstat target)) fileChanged
  if current.inode ≠ expected.inode ∨ current.regular = false ∨ current.links ≠ 1 then
    raise fileChanged
  else pure ()

def managedRoot (host : Host) (project : UUID) (root : RootPath) : Program Files Raised Unit := do
  let _ ← orWorkspace (validateProjectRoot (host.faults .projectRoot) project root)
    (failure .workspaceViolation "Requested workspace resource is not allowed.")

def readingFailure : Raised → Raised
  | .os .missing => fileMissing
  | .valueError => notText
  | .tool kind code message => .tool kind code message
  | .os _ | .workspace _ _ | .otherError =>
      failure .workspaceViolation "Requested file is not allowed."
  | .cancelled => .cancelled
  | .fatal => .fatal

def readTarget (host : Host) (project : UUID) (relative : PyStr) :
    Program Files Raised (ByteArray × List PyStr × StatResult) := do
  let faults := host.faults .existing
  let target ← resolveWorkspacePath (fun n => host.faults (.path .target n)) project relative
    false .file
  let place := below project target
  if (← ask (faults .stat) (present place)).isNone then raise fileMissing
  else
    let stat ← ask (faults .lstat) (lstat place)
    if stat.regular = false ∨ stat.links ≠ 1 ∨ host.limits.maxExistingBytes < stat.size then
      raise (failure
        (if host.limits.maxExistingBytes < stat.size then .outputLimit else .workspaceViolation)
        "Requested file is not allowed.")
    else
      let original ← ask (faults .read) (readBytes place)
      if original.size ≠ stat.size then raise fileChanged
      else
        let _ ← resume (decode original)
        requireSameTarget (host.faults (.sameTarget false)) place stat
        pure (original, target, stat)

def readExisting (host : Host) (project : UUID) (root : RootPath) (relative : PyStr) :
    Program Files Raised (ByteArray × List PyStr × StatResult) := do
  managedRoot host project root
  match ← attempt (readTarget host project relative) with
  | .ok found => pure found
  | .error e => raise (readingFailure e)

end Target

section Areas

def transactionArea (host : Host) (project : UUID) : Program Files Raised (Place Slot Name) :=
  orWorkspace
    (createOperationDirectory (host.faults .transactionArea) .transactions project host.areaToken)
    mutationFailed

def removeArea (host : Host) (project : UUID) (area : Place Slot Name) :
    Program Files Raised Unit :=
  orWorkspace (removeTransactionArea (fun path => host.faults (.removeArea path)) project area)
    compensationFailed

/-- `path.unlink(missing_ok=True)`. -/
def unlinkMissingOk (fails : Bool) (place : Place Slot Name) : Program Files Raised Unit := do
  match ← attempt (change fails fun disk => disk.unlink place) with
  | .ok _ => pure ()
  | .error (.os .missing) => pure ()
  | .error e => raise e

def artifactName (token : String) : Name :=
  .entry (PyStr.ofString ".synapseos-write-" ++ PyStr.ofString token)

def artifactPlace (area : Place Slot Name) (token : String) : Place Slot Name :=
  ⟨area.slot, area.path ++ [area.name], artifactName token⟩

def fillArtifact (faults : Faults) (candidate : Place Slot Name) (content : ByteArray)
    (mode : Nat) : Program Files Raised Unit := do
  change (faults .write) fun disk => disk.write candidate content
  quiet (faults .flush)
  quiet (faults .fsync)
  quiet (faults .close)
  change (faults .chmod) fun disk => disk.chmod candidate mode

/-- `_write_artifact`, with the number of attempts that are left. -/
def writeArtifact (host : Host) (which : Artifact) (area : Place Slot Name) (content : ByteArray)
    (mode : Nat) : Nat → Nat → Program Files Raised (Place Slot Name)
  | 0, _ => raise mutationFailed
  | remaining + 1, turn => do
      let candidate := artifactPlace area (host.token which turn)
      let faults := host.faults (.artifact which turn)
      match ← attempt (change (faults .open_) fun disk => disk.create candidate 0o600) with
      | .error (.os .exists_) => writeArtifact host which area content mode remaining (turn + 1)
      | .error (.os _) => raise mutationFailed
      | .error e => raise e
      | .ok _ =>
          match ← attempt (fillArtifact faults candidate content mode) with
          | .ok _ => pure candidate
          | .error (.os _) => do
              unlinkMissingOk (faults .unlink) candidate
              raise mutationFailed
          | .error e => raise e

end Areas

def summary (host : Host) (project : UUID) (target : List PyStr) (before after : ByteArray)
    (operation : MutationOperation) : Program Files Raised MutationSummary := do
  let beforeText ← resume (decode before)
  let afterText ← resume (decode after)
  let diff := boundedDiff host.limits {} (host.unifiedDiff beforeText afterText)
  let path ← relativeWorkspacePath (host.faults .summary) project target
  pure
    { path := path
      operation := operation
      beforeBytes := before.size
      afterBytes := after.size
      beforeSha256 := host.sha256 before
      afterSha256 := host.sha256 after
      addedLines := diff.added
      removedLines := diff.removed
      diff := String.join diff.chunks
      diffTruncated := diff.truncated
      truncated := diff.truncated }

/-- `except (OSError, ToolError)` catches it. -/
def Raised.undone : Raised → Bool
  | .os _ | .tool _ _ _ => true
  | .workspace _ _ | .valueError | .otherError | .cancelled | .fatal => false

section Operations

variable (host : Host) (project : UUID) (root : RootPath) (relative : PyStr)

def locked {α : Type} (operation : Program Files Raised α) : Program Files Raised α := do
  orWorkspace (acquireLock (host.faults .acquireLock) project) mutationFailed
  match ← attempt operation with
  | .ok output => pure output
  | .error e => do
      orWorkspace (releaseLock (host.faults .releaseLock) project) compensationFailed
      raise e

def replaceBytes (target : List PyStr) (stat : StatResult) (original replacement : ByteArray)
    (operation : MutationOperation) : Program Files Raised TransactionalToolOutput := do
  let place := below project target
  let area ← transactionArea host project
  let backup ← writeArtifact host .backup area original 0o600 8 0
  let temporary ← writeArtifact host .temporary area replacement stat.mode 8 0
  let changed ← attempt (do
    requireSameTarget (host.faults (.sameTarget true)) place stat
    change (host.faults .target .rename) fun disk => disk.rename temporary place)
  match changed with
  | .error e =>
      if Raised.undone e = true then do
        unlinkMissingOk (host.faults (.discard .backup) .unlink) backup
        unlinkMissingOk (host.faults (.discard .temporary) .unlink) temporary
        removeArea host project area
        raise e
      else raise e
  | .ok _ => do
      let output ← summary host project target original replacement operation
      pure ⟨output, ⟨project, area, place, some backup, false, some stat.mode, false⟩⟩

def replaceUnlocked (content : PyStr) : Program Files Raised TransactionalToolOutput := do
  let (original, target, stat) ← readExisting host project root relative
  let replacement ← resume (encodeInput host.limits content)
  replaceBytes host project target stat original replacement .write

def resolveNew (content : PyStr) : Program Files Raised (List PyStr × ByteArray) := do
  managedRoot host project root
  let target ← resolveWorkspacePath (fun n => host.faults (.path .target n)) project relative
    false .file
  let parent ← resolveWorkspacePath (fun n => host.faults (.path .parent n)) project
    (asPosix target.dropLast) true .directory
  if target.dropLast ≠ parent then raise fileExists
  else if (← ask (host.faults .existing .stat) (present (below project target))).isSome then
    raise fileExists
  else
    let replacement ← resume (encodeInput host.limits content)
    pure (target, replacement)

def createFile (target : List PyStr) (replacement : ByteArray) :
    Program Files Raised TransactionalToolOutput := do
  let place := below project target
  let area ← transactionArea host project
  let temporary ← writeArtifact host .temporary area replacement 0o600 8 0
  let linked ← attempt (do
    change (host.faults .target .link) fun disk => disk.link temporary place
    change (host.faults .linked .unlink) fun disk => disk.unlink temporary)
  match linked with
  | .error (.os error) => do
      unlinkMissingOk (host.faults (.discard .temporary) .unlink) temporary
      removeArea host project area
      raise (if error = .exists_ then fileExists else mutationFailed)
  | .error e => raise e
  | .ok _ => do
      let output ← summary host project target .empty replacement .create
      pure ⟨output, ⟨project, area, place, none, true, none, false⟩⟩

def createUnlocked (content : PyStr) : Program Files Raised TransactionalToolOutput := do
  let (target, replacement) ← resolveNew host project root relative content
  createFile host project target replacement

def patchUnlocked (replacements : List TextReplacement) :
    Program Files Raised TransactionalToolOutput := do
  if replacements.length = 0 ∨ host.limits.maxPatchOperations < replacements.length then
    raise invalidPatch
  else
    let (original, target, stat) ← readExisting host project root relative
    match decode original with
    | .error _ => raise notText
    | .ok text => do
        let current ← resume (applyReplacements host.limits (.ofString text) replacements)
        let updated ← resume (encodeInput host.limits current)
        if updated = original then
          raise (failure .patchMismatch "Requested patch makes no change.")
        else
          replaceBytes host project target stat original updated .patch

def deleteFile (target : List PyStr) (stat : StatResult) (original : ByteArray) :
    Program Files Raised TransactionalToolOutput := do
  let place := below project target
  let area ← transactionArea host project
  let backup ← writeArtifact host .backup area original 0o600 8 0
  let changed ← attempt (do
    requireSameTarget (host.faults (.sameTarget true)) place stat
    change (host.faults .target .unlink) fun disk => disk.unlink place)
  match changed with
  | .error e =>
      if Raised.undone e = true then do
        unlinkMissingOk (host.faults (.discard .backup) .unlink) backup
        removeArea host project area
        raise e
      else raise e
  | .ok _ => do
      let output ← summary host project target original .empty .delete
      pure ⟨output, ⟨project, area, place, some backup, false, some stat.mode, false⟩⟩

def deleteUnlocked : Program Files Raised TransactionalToolOutput := do
  let (original, target, stat) ← readExisting host project root relative
  deleteFile host project target stat original

end Operations

inductive Mutation
  | replace (relative content : PyStr)
  | create (relative content : PyStr)
  | patch (relative : PyStr) (replacements : List TextReplacement)
  | delete (relative : PyStr)

def unlocked (host : Host) (project : UUID) (root : RootPath) :
    Mutation → Program Files Raised TransactionalToolOutput
  | .replace relative content => replaceUnlocked host project root relative content
  | .create relative content => createUnlocked host project root relative content
  | .patch relative replacements => patchUnlocked host project root relative replacements
  | .delete relative => deleteUnlocked host project root relative

/-- `replace`, `create`, `patch` and `delete`. -/
def mutate (host : Host) (project : UUID) (root : RootPath) (mutation : Mutation) :
    Program Files Raised TransactionalToolOutput :=
  locked host project (unlocked host project root mutation)

def Mutation.relative : Mutation → PyStr
  | .replace relative _ | .create relative _ | .patch relative _ | .delete relative => relative

section Finish

inductive FinishSite
  | backup
  | target
  | area (path : List Name)
  | lock
  deriving DecidableEq

structure Held where
  disk : Files
  transaction : LocalMutationTransaction

def onDisk {α : Type} (body : Program Files Raised α) : Program Held Raised α :=
  within Held.disk (fun disk held => { held with disk := disk }) body

/-- `except (OSError, WorkspaceError)` and then `except WorkspaceError`: whether one caught. -/
def noted (body : Program Held Raised Unit) (catches : Raised → Bool) :
    Program Held Raised Bool := do
  match ← attempt body with
  | .ok _ => pure false
  | .error e => if catches e = true then pure true else raise e

def Raised.filesystem : Raised → Bool
  | .os _ | .workspace _ _ => true
  | .tool _ _ _ | .valueError | .otherError | .cancelled | .fatal => false

def Raised.managed : Raised → Bool
  | .workspace _ _ => true
  | .os _ | .tool _ _ _ | .valueError | .otherError | .cancelled | .fatal => false

variable (faults : FinishSite → Faults)

/-- What `commit` and `rollback` share: the body, the lock release and the flag. -/
def settle (body : LocalMutationTransaction → Program Files Raised Unit) :
    Program Held Raised Unit := do
  let transaction := (← look).transaction
  if transaction.finished = true then pure ()
  else
    let first ← noted (onDisk (do
      body transaction
      removeTransactionArea (fun path => faults (.area path)) transaction.project
        transaction.area)) Raised.filesystem
    let second ← noted (onDisk (releaseLock (faults .lock) transaction.project)) Raised.managed
    update fun held => { held with transaction := { held.transaction with finished := true } }
    if first = true ∨ second = true then raise compensationFailed else pure ()

def commit : Program Held Raised Unit :=
  settle faults fun transaction =>
    match transaction.backup with
    | some backup => unlinkMissingOk (faults .backup .unlink) backup
    | none => pure ()

def rollback : Program Held Raised Unit :=
  settle faults fun transaction =>
    if transaction.created = true then
      unlinkMissingOk (faults .target .unlink) transaction.target
    else
      match transaction.backup with
      | some backup => do
          match transaction.originalMode with
          | some mode => change (faults .backup .chmod) fun disk => disk.chmod backup mode
          | none => pure ()
          change (faults .target .rename) fun disk => disk.rename backup transaction.target
      | none => pure ()

end Finish

end SynapseOS.Mutations
