import SynapseOS.Workspaces.Types

/-! The managed filesystem boundary (`infrastructure/workspaces/filesystem.py`). -/

namespace SynapseOS.Workspaces

open Tools Execution Program

def unsafe_ : Raised := .workspace .unsafePath "Workspace path is not allowed."

def resourceLimit : Raised := .workspace .resourceLimit "Workspace exceeds a resource limit."

def cleanupFailed : Raised := .workspace .cleanupFailed "Workspace cleanup failed."

def workspaceExists : Raised := .workspace .workspaceExists "Workspace already exists."

def operationInProgress : Raised :=
  .workspace .operationInProgress "A workspace operation is already in progress."

def projectChild (slot : Slot) (project : UUID) : Place Slot Name := ⟨slot, [], .project project⟩

def operationDirectory (slot : Slot) (project : UUID) (token : String) : Place Slot Name :=
  ⟨slot, [], .operation project token⟩

/-- `Path.resolve(strict=True)`. -/
def strictly (place : Place Slot Name) (disk : Files) : Except OSError Unit :=
  (disk.find place).map fun _ => ()

def requireDirectDirectory (faults : Faults) (target : Place Slot Name) (slot : Slot) :
    Program Files Raised (Place Slot Name) := do
  if target.slot ≠ slot ∨ target.path ≠ [] then
    raise unsafe_
  else
    let node ← orRaise (ask (faults .lstat) fun disk => disk.find target) unsafe_
    orRaise (ask (faults .resolve) (strictly target)) unsafe_
    match node with
    | .directory _ => pure target
    | _ => raise unsafe_

def acquireLock (faults : Faults) (project : UUID) : Program Files Raised Unit := do
  match ← attempt (change (faults .mkdir) fun disk => disk.mkdir (projectChild .locks project)) with
  | .ok _ => pure ()
  | .error (.os .exists_) => raise operationInProgress
  | .error _ => raise unsafe_

def releaseLock (faults : Faults) (project : UUID) : Program Files Raised Unit := do
  let target ← requireDirectDirectory faults (projectChild .locks project) .locks
  orRaise (change (faults .rmdir) fun disk => disk.rmdir target) unsafe_

/-- `create_staging` and `create_transaction_area`. -/
def createOperationDirectory (faults : Faults) (slot : Slot) (project : UUID) (token : String) :
    Program Files Raised (Place Slot Name) :=
  orRaise (do
    let target := operationDirectory slot project token
    change (faults .mkdir) fun disk => disk.mkdir target
    ask (faults .resolve) (strictly target)
    pure target) unsafe_

/-- How a recursive removal ended: what it raised, the entries it left, and the inode numbers of
the files it unlinked. -/
structure Removal where
  raised : Option Raised
  left : Entries Name
  gone : List Nat

abbrev TreeFaults := List Name → Faults

mutual

/-- `_remove_tree` on a directory; a node that is none is unlinked by the loop over its parent. -/
def removeTree (faults : TreeFaults) (limit depth : Nat) (path : List Name) :
    Node Name → Removal
  | .directory entries =>
      if limit < depth then ⟨some resourceLimit, entries, []⟩
      else if faults path .scandir = true then ⟨some (.os .fault), entries, []⟩
      else
        let inside := removeEntries faults limit depth path entries
        if inside.raised.isNone && faults path .rmdir
          then { inside with raised := some (.os .fault) }
        else inside
  | .file inode => ⟨none, [], [inode]⟩
  | .link | .special => ⟨none, [], []⟩

def removeEntries (faults : TreeFaults) (limit depth : Nat) (path : List Name) :
    List (Name × Node Name) → Removal
  | [] => ⟨none, [], []⟩
  | (name, node) :: rest =>
      let below := path ++ [name]
      if faults below .lstat = true then ⟨some (.os .fault), (name, node) :: rest, []⟩
      else
        match node with
        | .directory inner =>
            let first := removeTree faults limit (depth + 1) below (.directory inner)
            if first.raised.isSome then
              { first with left := (name, .directory first.left) :: rest }
            else
              let others := removeEntries faults limit depth path rest
              { others with gone := first.gone ++ others.gone }
        | leaf =>
            if faults below .unlink = true then ⟨some (.os .fault), (name, leaf) :: rest, []⟩
            else
              let first := removeTree faults limit (depth + 1) below leaf
              let others := removeEntries faults limit depth path rest
              { others with gone := first.gone ++ others.gone }

end

def removeAt (faults : TreeFaults) (limit : Nat) (place : Place Slot Name) :
    Program Files Raised Unit := fun disk =>
  match disk.find place with
  | .error error => (.error (.os error), disk)
  | .ok (.directory entries) =>
      let removal := removeTree faults limit 0 [] (.directory entries)
      let counted := (removal.gone.map fun inode => some (.file inode)).foldl Disk.unlinked disk
      match removal.raised with
      | none => (.ok (), counted.unbind place)
      | some e => (.error e, counted.bind place (.directory removal.left))
  | .ok _ => (.error (.os .notDirectory), disk)

def requireOperationDirectory (faults : Faults) (target : Place Slot Name) (slot : Slot)
    (project : UUID) : Program Files Raised (Place Slot Name) := do
  let resolved ← requireDirectDirectory faults target slot
  match resolved.name with
  | .operation id _ => if id = project then pure resolved else raise unsafe_
  | _ => raise unsafe_

def removeTransactionArea (faults : TreeFaults) (project : UUID) (target : Place Slot Name) :
    Program Files Raised Unit := do
  let owned ← requireOperationDirectory (faults []) target .transactions project
  orRaise (removeAt faults 2 owned) cleanupFailed

inductive RootPath
  | project (id : UUID)
  | elsewhere
  deriving DecidableEq, Repr

def validateProjectRoot (faults : Faults) (project : UUID) (root : RootPath) :
    Program Files Raised (Place Slot Name) := do
  if root ≠ .project project then
    raise unsafe_
  else
    requireDirectDirectory faults (projectChild .projects project) .projects

end SynapseOS.Workspaces
