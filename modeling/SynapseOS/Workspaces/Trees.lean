import SynapseOS.Lib.Walk
import SynapseOS.Workspaces.Filesystem

/-! Whole trees of the managed filesystem boundary: how they are measured, promoted, hidden and
removed (`infrastructure/workspaces/filesystem.py`). -/

namespace SynapseOS.Workspaces

open Tools Execution Program

def maxCompensationEntries : Nat := 1000000

def maxCompensationDepth : Nat := 256

def workspaceNotFound : Raised := .workspace .workspaceNotFound "Workspace does not exist."

inductive WorkspaceProvenance
  | empty
  | localImport
  | remoteClone
  deriving DecidableEq, Repr

/-- A workspace; its root is the project directory. -/
structure Workspace where
  projectId : UUID
  root : Place Slot Name
  provenance : WorkspaceProvenance

structure WorkspaceResourceUsage where
  entryCount : Nat := 0
  totalBytes : Nat := 0
  maxDepth : Nat := 0
  deriving DecidableEq, Repr

section Walks

def usageVisitor (limits : WorkspaceLimits) (faults : TreeFaults) (disk : Files) :
    Visitor WorkspaceResourceUsage Raised Name where
  opens usage frame := if faults frame.path .scandir = true then .error (.os .fault) else .ok usage
  visits usage frame name node :=
    let counted := { usage with
      entryCount := usage.entryCount + 1
      maxDepth := max usage.maxDepth (frame.depth + 1) }
    if limits.maxEntries < counted.entryCount ∨ limits.maxDepth < frame.depth + 1 then
      .error resourceLimit
    else if faults (frame.path ++ [name]) .lstat = true then .error (.os .fault)
    else
      match node with
      | .link | .directory _ => .ok counted
      | .file inode =>
          let total := counted.totalBytes + (disk.inodes inode).content.size
          if limits.maxTotalBytes < total then .error resourceLimit
          else .ok { counted with totalBytes := total }
      | .special => .error unsafe_

def compensationVisitor (faults : TreeFaults) : Visitor Nat Raised Name where
  opens entries frame :=
    if maxCompensationDepth < frame.depth then .error resourceLimit
    else if faults frame.path .scandir = true then .error (.os .fault)
    else .ok entries
  visits entries frame name _ :=
    if maxCompensationEntries < entries + 1 then .error resourceLimit
    else if faults (frame.path ++ [name]) .lstat = true then .error (.os .fault)
    else .ok (entries + 1)

def walk {σ : Type} (visitor : Files → Visitor σ Raised Name) (state : σ)
    (place : Place Slot Name) : Program Files Raised σ := fun disk =>
  match disk.find place with
  | .error error => (.error (.os error), disk)
  | .ok (.directory entries) => ((visitor disk).run state [⟨[], 0, entries⟩], disk)
  | .ok _ => (.error (.os .notDirectory), disk)

def requireAnyOwnedDirectory (faults : Faults) (target : Place Slot Name) :
    Program Files Raised (Place Slot Name) := do
  if target.slot ∈ [.staging, .trash, .projects] ∧ target.path = [] then
    requireDirectDirectory faults target target.slot
  else raise unsafe_

def scanUsage (limits : WorkspaceLimits) (faults : TreeFaults) (root : Place Slot Name) :
    Program Files Raised WorkspaceResourceUsage := do
  let canonical ← requireAnyOwnedDirectory (faults []) root
  orRaise (walk (usageVisitor limits faults) {} canonical) unsafe_

def validateCompensationTree (faults : TreeFaults) (root : Place Slot Name) :
    Program Files Raised Unit := do
  let _ ← walk (fun _ => compensationVisitor faults) 0 root

end Walks

section Operations

def newWorkspace (faults : Faults) (project : UUID) (root : Place Slot Name)
    (provenance : WorkspaceProvenance) : Program Files Raised Workspace :=
  orRaise (do
    ask (faults .resolve) (strictly root)
    match ← ask (faults .isDir) fun disk => disk.find root with
    | .directory _ => pure ⟨project, root, provenance⟩
    | _ => raise .valueError) .valueError

inductive TreeSite
  /-- The lookup of a project root, and the construction of its workspace. -/
  | root
  | resolved
  | workspace
  /-- The presence of a target, and its check. -/
  | present
  | source
  | owned
  /-- The call that moves a tree. -/
  | moved
  | measured (path : List Name)
  | removed (path : List Name)
  deriving DecidableEq

abbrev TreeCalls := TreeSite → Faults

variable (limits : WorkspaceLimits) (faults : TreeCalls) (project : UUID)

def loadWorkspace (provenance : WorkspaceProvenance) : Program Files Raised Workspace := do
  let root := projectChild .projects project
  match ← attempt (requireDirectDirectory (faults .root) root .projects) with
  | .error (.workspace _ _) => raise workspaceNotFound
  | .error e => raise e
  | .ok _ => do
      ask (faults .resolved .resolve) (strictly root)
      newWorkspace (faults .workspace) project root provenance

def promote (staging : Place Slot Name) : Program Files Raised (Place Slot Name) := do
  let source ← requireOperationDirectory (faults .source) staging .staging project
  let target := projectChild .projects project
  match ← attempt (ask (faults .present .lstat) fun disk => disk.find target) with
  | .error (.os .missing) =>
      match ← attempt (do
        change (faults .moved .rename) fun disk => disk.rename source target
        ask (faults .moved .resolve) (strictly target)) with
      | .ok _ => pure target
      | .error (.os .exists_) => raise workspaceExists
      | .error (.os _) => raise unsafe_
      | .error e => raise e
  | .error _ => raise unsafe_
  | .ok _ => raise workspaceExists

def moveToTrash (token : String) : Program Files Raised (Place Slot Name) := do
  let source := projectChild .projects project
  let _ ← requireDirectDirectory (faults .source) source .projects
  let target := operationDirectory .trash project token
  orRaise (do
    change (faults .moved .rename) fun disk => disk.rename source target
    ask (faults .moved .resolve) (strictly target)
    pure target) cleanupFailed

def operationName : Name → Bool
  | .operation _ _ => true
  | .project _ | .entry _ => false

/-- `_require_removable_tree` and, for one slot, `_require_staging_tree`. -/
def requireRemovableTree (slots : List Slot) (target : Place Slot Name) :
    Program Files Raised (Place Slot Name) := do
  if target.slot ∈ slots ∧ target.path = [] ∧ operationName target.name = true then
    requireDirectDirectory (faults .owned) target target.slot
  else raise unsafe_

def removeOwnedTree (target : Place Slot Name) : Program Files Raised Unit := do
  let owned ← requireRemovableTree faults [.staging, .trash] target
  orRaise (do
    let _ ← scanUsage limits (fun path => faults (.measured path)) owned
    removeAt (fun path => faults (.removed path)) limits.maxDepth owned) cleanupFailed

def removeWithinCeilings (owned : Place Slot Name) : Program Files Raised Unit :=
  orRaise (do
    validateCompensationTree (fun path => faults (.measured path)) owned
    removeAt (fun path => faults (.removed path)) maxCompensationDepth owned) cleanupFailed

def discardStagingTree (target : Place Slot Name) : Program Files Raised Unit := do
  let owned ← requireRemovableTree faults [.staging] target
  removeWithinCeilings faults owned

def removeManagedGitDirectory : Program Files Raised Unit := do
  let target := projectChild .gitMetadata project
  match ← attempt (ask (faults .present .lstat) fun disk => disk.find target) with
  | .error (.os .missing) => pure ()
  | .error _ => raise unsafe_
  | .ok _ => do
      let owned ← requireDirectDirectory (faults .owned) target .gitMetadata
      removeWithinCeilings faults owned

end Operations

end SynapseOS.Workspaces
