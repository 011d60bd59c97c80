import SynapseOS.Core.Text
import SynapseOS.Workspaces.Filesystem

/-! Resolution of relative paths in a workspace (`infrastructure/workspaces/paths.py`). -/

namespace SynapseOS.Workspaces

open Tools Execution Program

inductive ExpectedPathKind
  | file
  | directory
  | any
  deriving DecidableEq, Repr

def violation : Raised :=
  .tool .workspace .workspaceViolation "The requested path is not allowed."

/-- `Path(text).parts` of a relative path. -/
def pathParts (text : PyStr) : List PyStr :=
  (text.splitOn 0x2F).filter fun part => !part.isEmpty && decide (part ≠ [0x2E])

def asPosix (parts : List PyStr) : PyStr :=
  if parts.isEmpty then [0x2E] else [0x2F].intercalate parts

/-- `os.fsencode` accepts the text: its lone surrogates escape bytes. -/
def fsEncodable (part : PyStr) : Bool :=
  part.all fun point => !surrogate point || decide (0xDC80 ≤ point ∧ point ≤ 0xDCFF)

def below (project : UUID) (parts : List PyStr) : Place Slot Name :=
  match parts.reverse with
  | [] => projectChild .projects project
  | last :: front => ⟨.projects, .project project :: front.reverse.map .entry, .entry last⟩

abbrev PathFaults := Nat → Faults

def canonicalRoot (faults : Faults) (project : UUID) : Program Files Raised Unit :=
  orRaise (do
    let root := projectChild .projects project
    ask (faults .resolve) (strictly root)
    match ← ask (faults .isDir) fun disk => disk.find root with
    | .directory _ => pure ()
    | _ => raise violation) violation

/-- `_reject_symlink_components`; `passed` is the path walked so far. -/
def rejectSymlinkComponents (faults : PathFaults) (project : UUID) (passed : List PyStr) :
    List PyStr → Program Files Raised Unit
  | [] => pure ()
  | component :: rest => do
      let current := passed ++ [component]
      let place := below project current
      match ← attempt (ask (faults current.length .lstat) fun disk => disk.find place) with
      | .error (.os .missing) => pure ()
      | .error _ => raise violation
      | .ok .link => raise violation
      | .ok _ => rejectSymlinkComponents faults project current rest

/-- What stands at a path; an error that says that nothing does is no failure. -/
def present (place : Place Slot Name) (disk : Files) : Except OSError (Option (Node Name)) :=
  .ok (disk.find place).toOption

def ofKind : ExpectedPathKind → Node Name → Bool
  | .file, .file _ | .any, .file _ => true
  | .directory, .directory _ | .any, .directory _ => true
  | _, _ => false

/-- `resolve_workspace_path`; the answer is the path below the root. -/
def resolveWorkspacePath (faults : PathFaults) (project : UUID) (text : PyStr) (mustExist : Bool)
    (kind : ExpectedPathKind) : Program Files Raised (List PyStr) := do
  let parts := pathParts text
  if text.all space = true ∨ 0 ∈ text then raise violation
  else if text.head? = some 0x2F ∨ [0x2E, 0x2E] ∈ parts then raise violation
  else
    canonicalRoot (faults 0) project
    -- A text that names no file is a `ValueError` of the first call that takes it.
    if parts.all fsEncodable = false then raise violation
    else
      rejectSymlinkComponents faults project [] parts
      let place := below project parts
      orRaise (do
        ask (faults 0 .lstat) fun disk => if mustExist = true then strictly place disk else .ok ()
        match ← ask (faults 0 .stat) (present place) with
        | some node =>
            quiet (faults 0 .isFile)
            if ofKind kind node = true then pure parts else raise violation
        | none => if mustExist = true then raise violation else pure parts) violation

def relativeWorkspacePath (faults : Faults) (project : UUID) (parts : List PyStr) :
    Program Files Raised PyStr := do
  canonicalRoot faults project
  orRaise (quiet (faults .lstat)) violation
  pure (asPosix parts)

end SynapseOS.Workspaces
