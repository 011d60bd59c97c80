import SynapseOS.Lib.Utf8
import SynapseOS.Workspaces.Containment

/-! Reading files and lines of them (`infrastructure/tools/filesystem.py`). -/

namespace SynapseOS.FilesystemTools

open Execution Tools LinkedTree Containment

open Workspaces (Raised asPosix pathParts)

def maxFileBytes : Nat := 8 * 1024 * 1024

def maxReadOutputBytes : Nat := 256 * 1024

/-- A workspace that does not change: its canonical root in the tree of the host, the bytes of its
regular files, and the calls that the host refuses. -/
structure Workspace where
  tree : HostTree
  depth : Nat
  root : HostPath
  bytes : HostPath → List UInt8
  /-- Opening or reading the file is an `OSError`. -/
  readRefuses : HostPath → Bool
  /-- Listing the directory is one. -/
  scanRefuses : HostPath → Bool
  /-- Asking a directory entry for its kind is one. -/
  kindRefuses : HostPath → Bool
  /-- What cannot be looked at cannot be opened. -/
  searched : ∀ path, tree.refuses path = true → readRefuses path = true ∧ scanRefuses path = true
  canonical : tree.Direct root
  unique : ∀ path entries, tree.stands path = .ok (.directory entries) →
    (entries.map Prod.fst).Nodup
  plain : ∀ path entries, tree.stands path = .ok (.directory entries) → Plain (entries.map Prod.fst)

def unreadable : Raised := .tool .input .unsupportedFile "Requested file could not be read safely."

def unsupportedType : Raised :=
  .tool .input .unsupportedFile "Requested file type is not supported."

def notText : Raised := .tool .input .unsupportedFile "Requested file is not valid UTF-8 text."

def tooLarge : Raised := .tool .input .outputLimit "Requested file exceeds the read limit."

/-- The loop over `os.read`. -/
def readChunks (remaining : Nat) (rest : List UInt8) : List UInt8 :=
  let chunk := rest.take (min 65536 remaining)
  if chunk = [] then [] else chunk ++ readChunks (remaining - chunk.length) (rest.drop chunk.length)
termination_by remaining
decreasing_by
  next some_ =>
    have positive : 0 < (rest.take (min 65536 remaining)).length := List.length_pos_of_ne_nil some_
    have read : (rest.take (min 65536 remaining)).length = min (min 65536 remaining) rest.length :=
      List.length_take
    show remaining - (rest.take (min 65536 remaining)).length < remaining
    omega

section Files

variable (ws : Workspace)

def readRegularBytes (path : HostPath) : Except Raised (List UInt8) :=
  match ws.tree.stands path with
  | .error _ | .ok (.link _) => .error unreadable
  | .ok .special | .ok (.directory _) => .error unsupportedType
  | .ok .file =>
      if ws.readRefuses path = true then .error unreadable
      else if maxFileBytes < (ws.bytes path).length then .error tooLarge
      else
        let data := readChunks (maxFileBytes + 1) (ws.bytes path)
        if maxFileBytes < data.length then .error tooLarge else .ok data

def decodeUtf8 (data : List UInt8) : Except Raised PyStr :=
  match String.fromUTF8? ⟨data.toArray⟩ with
  | some text => .ok (.ofString text)
  | none => .error notText

/-- The points whose bytes all stand among the first ones: what `errors="ignore"` decodes of a text
that is cut there. -/
def wholeWithin : Nat → PyStr → PyStr
  | _, [] => []
  | room, point :: rest =>
      if utf8Width point ≤ room then point :: wholeWithin (room - utf8Width point) rest else []

def boundedUtf8 (value : PyStr) (byteLimit : Nat) : Except Raised (PyStr × Bool) :=
  match encodedLength value with
  | .error _ => .error .valueError
  | .ok length => if length ≤ byteLimit then .ok (value, false)
      else .ok (wholeWithin byteLimit value, true)

/-- `str.splitlines(keepends=True)`, with the line that is read so far. -/
def keepLinesFrom (line : PyStr) : PyStr → List PyStr
  | [] => if line = [] then [] else [line]
  | [point] => [line ++ [point]]
  | 0x0D :: 0x0A :: rest => (line ++ [0x0D, 0x0A]) :: keepLinesFrom [] rest
  | point :: next :: rest =>
      if lineEnd point = true then (line ++ [point]) :: keepLinesFrom [] (next :: rest)
      else keepLinesFrom (line ++ [point]) (next :: rest)

def keepLines (text : PyStr) : List PyStr := keepLinesFrom [] text

/-- Texts that pydantic accepts have no lone surrogates. -/
structure ReadFileInput where
  path : PyStr
  startLine : Nat
  maxLines : Nat
  path_bounds : 1 ≤ path.length ∧ path.length ≤ 4096
  path_valid : path.any surrogate = false
  start_bounds : 1 ≤ startLine
  lines_bounds : 1 ≤ maxLines ∧ maxLines ≤ 2000

structure ReadFileOutput where
  path : PyStr
  content : PyStr
  startLine : Nat
  endLine : Nat
  totalLines : Nat
  truncated : Bool
  deriving DecidableEq

def resolvePath (path : PyStr) (kind : Workspaces.ExpectedPathKind) : Except Raised HostPath :=
  resolveWorkspacePath ws.tree ws.depth (ws.root.map .into) path true kind

def relativePath (path : HostPath) : Except Raised PyStr :=
  relativeWorkspacePath ws.tree ws.depth (ws.root.map .into) path

def readText (path : HostPath) : Except Raised PyStr := do
  decodeUtf8 (← readRegularBytes ws path)

def readFile (input : ReadFileInput) : Except Raised ReadFileOutput := do
  let path ← resolvePath ws input.path .file
  let text ← readText ws path
  let lines := keepLines text
  let startIndex := input.startLine - 1
  let selectedLines := (lines.drop startIndex).take input.maxLines
  let (content, byteTruncated) ← boundedUtf8 selectedLines.flatten maxReadOutputBytes
  let availableLines := lines.length - startIndex
  let truncated := byteTruncated || decide (selectedLines.length < availableLines)
  let endLine := if selectedLines = [] then 0 else input.startLine + selectedLines.length - 1
  return ⟨← relativePath ws path, content, input.startLine, endLine, lines.length, truncated⟩

end Files

end SynapseOS.FilesystemTools
