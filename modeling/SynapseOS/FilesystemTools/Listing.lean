import SynapseOS.Execution.AsciiJson
import SynapseOS.FilesystemTools.Reading
import SynapseOS.Lib.Budget
import SynapseOS.Lib.Ranked

/-! Listing directories and searching their files (`infrastructure/tools/filesystem.py`). -/

namespace SynapseOS.FilesystemTools

open Execution Tools LinkedTree Containment

open Workspaces (Raised asPosix pathParts)

def maxCollectionOutputBytes : Nat := 512 * 1024

def maxScanEntries : Nat := 10000

def maxLineLength : Nat := 4096

def unlisted : Raised := .tool .input .toolFailed "Directory could not be listed safely."

def outside : Raised := .tool .input .workspaceViolation "Directory entry is outside the workspace."

inductive EntryKind
  | symlink
  | directory
  | file
  deriving DecidableEq, Repr

def EntryKind.value : EntryKind → PyStr
  | .symlink => .ofString "symlink"
  | .directory => .ofString "directory"
  | .file => .ofString "file"

def entryKind : Item PyStr → Option EntryKind
  | .link _ => some .symlink
  | .directory _ => some .directory
  | .file => some .file
  | .special => none

abbrev Entry := HostPath × EntryKind

structure Scan where
  pending : List HostPath
  collected : List Entry
  limited : Bool

section Scanning

variable (ws : Workspace) (recursive : Bool) (current : HostPath)

/-- `sorted(os.scandir(current))`. -/
def scandir : Except Raised (List (PyStr × Item PyStr)) :=
  match ws.tree.stands current with
  | .ok (.directory entries) =>
      if ws.scanRefuses current = true then .error unlisted else .ok (sortedBy Prod.fst entries)
  | _ => .error unlisted

def Scan.collect (scan : Scan) (path : HostPath) (kind : EntryKind) : Scan :=
  { scan with
    collected := scan.collected ++ [(path, kind)]
    pending := if recursive = true ∧ kind = .directory then scan.pending ++ [path]
      else scan.pending }

def scanEntries : List (PyStr × Item PyStr) → Scan → Scan
  | [], scan => scan
  | (name, item) :: rest, scan =>
      if ws.kindRefuses (current ++ [name]) = true then scanEntries rest scan
      else
        match entryKind item with
        | none => scanEntries rest scan
        | some kind =>
            let scan := scan.collect recursive (current ++ [name]) kind
            if maxScanEntries < scan.collected.length then { scan with limited := true }
            else scanEntries rest scan

def Scan.room (scan : Scan) : Nat := 2 * (maxScanEntries + 1 - scan.collected.length) +
    scan.pending.length

theorem collect_room (scan : Scan) (path : HostPath) (kind : EntryKind)
    (open_ : scan.collected.length ≤ maxScanEntries) : (scan.collect recursive path kind).room ≤
      scan.room := by
  unfold Scan.room Scan.collect
  dsimp only
  rw [List.length_append, List.length_singleton]
  split
  · rw [List.length_append, List.length_singleton]
    omega
  · omega

theorem scanEntries_room (entries : List (PyStr × Item PyStr)) (scan : Scan)
    (open_ : scan.collected.length ≤ maxScanEntries) :
    (scanEntries ws recursive current entries scan).room ≤ scan.room := by
  induction entries generalizing scan with
  | nil => exact le_rfl
  | cons entry rest ih =>
      obtain ⟨name, item⟩ := entry
      rw [scanEntries]
      split
      · exact ih scan open_
      · cases entryKind item with
        | none => exact ih scan open_
        | some kind =>
            have step := collect_room recursive scan (current ++ [name]) kind open_
            dsimp only
            split
            · exact step
            · next more => exact (ih _ (not_lt.mp more)).trans step

def collectLoop (scan : Scan) : Except Raised Scan :=
  match _ : scan.pending with
  | [] => .ok scan
  | current :: pending =>
      if maxScanEntries < scan.collected.length then .ok scan
      else
        match scandir ws current with
        | .error raised => .error raised
        | .ok entries =>
            collectLoop (scanEntries ws recursive current entries { scan with pending := pending })
termination_by scan.room
decreasing_by
  next found more =>
    have below := scanEntries_room ws recursive current entries { scan with pending := pending }
      (not_lt.mp more)
    have step : Scan.room { scan with pending := pending } < scan.room := by
      unfold Scan.room
      rw [found]
      exact Nat.lt_succ_self _
    exact below.trans_lt step

def entryRelativePath (path : HostPath) : Except Raised PyStr :=
  if ws.root.isPrefixOf path = true then .ok (asPosix (path.drop ws.root.length))
  else .error outside

def collectEntries (directory : HostPath) : Except Raised (List Entry × Bool) := do
  let scan ← collectLoop ws recursive ⟨[directory], [], false⟩
  let keyed ← scan.collected.mapM fun entry => return (← entryRelativePath ws entry.1, entry)
  return ((sortedBy Prod.fst keyed).map Prod.snd, scan.limited || !scan.pending.isEmpty)

end Scanning

section ListFiles

structure ListFilesInput where
  path : PyStr
  recursive : Bool
  maxEntries : Nat
  path_bounds : 1 ≤ path.length ∧ path.length ≤ 4096
  path_valid : path.any surrogate = false
  entries_bounds : 1 ≤ maxEntries ∧ maxEntries ≤ 10000

structure ListedEntry where
  path : PyStr
  kind : EntryKind
  deriving DecidableEq

def ListedEntry.fields (entry : ListedEntry) : FlatDict :=
  [(.ofString "path", .text entry.path), (.ofString "kind", .text entry.kind.value)]

structure ListFilesOutput where
  path : PyStr
  entries : List ListedEntry
  truncated : Bool

def ListedEntry.size (entry : ListedEntry) : Nat := entry.fields.asciiText.length

variable (ws : Workspace)

/-- The loop over the entries of `list_files`. -/
def listLoop (budget : Budget) : List Entry → Filling ListedEntry →
    Except Raised (Filling ListedEntry)
  | [], filling => .ok filling
  | (path, kind) :: rest, filling => do
      let item : ListedEntry := ⟨← entryRelativePath ws path, kind⟩
      let filling := filling.add budget ListedEntry.size item
      if filling.stopped = true then .ok filling else listLoop budget rest filling

def listFiles (input : ListFilesInput) : Except Raised ListFilesOutput := do
  let directory ← resolvePath ws input.path .directory
  let (collected, scanLimited) ← collectEntries ws input.recursive directory
  let output ← listLoop ws ⟨input.maxEntries, maxCollectionOutputBytes⟩ collected .empty
  return ⟨← relativePath ws directory, output.items, scanLimited || output.stopped⟩

end ListFiles

section SearchText

/-- `reject_blank_query` included. -/
structure SearchTextInput where
  query : PyStr
  path : PyStr
  caseSensitive : Bool
  maxResults : Nat
  query_bounds : 1 ≤ query.length ∧ query.length ≤ 1024
  query_valid : query.any surrogate = false
  query_blank : strip query ≠ []
  path_bounds : 1 ≤ path.length ∧ path.length ≤ 4096
  path_valid : path.any surrogate = false
  results_bounds : 1 ≤ maxResults ∧ maxResults ≤ 1000

structure TextMatch where
  path : PyStr
  line : Nat
  text : PyStr
  deriving DecidableEq

def TextMatch.fields (found : TextMatch) : FlatDict :=
  [(.ofString "path", .text found.path), (.ofString "line", .number found.line),
    (.ofString "text", .text found.text)]

def TextMatch.size (found : TextMatch) : Nat := found.fields.asciiText.length

structure SearchTextOutput where
  query : PyStr
  found : List TextMatch
  truncated : Bool

variable (ws : Workspace) (casefold : PyStr → PyStr) (input : SearchTextInput)

/-- `query in comparable`. -/
def hit (line : PyStr) : Bool :=
  if input.caseSensitive = true then decide (input.query <:+: line)
  else decide (casefold input.query <:+: casefold line)

def searchLines (relative : PyStr) : Nat → List PyStr → Filling TextMatch → Filling TextMatch
  | _, [], filling => filling
  | number, line :: rest, filling =>
      if hit casefold input line = false then searchLines relative (number + 1) rest filling
      else
        let item : TextMatch := ⟨relative, number, line.take maxLineLength⟩
        let filling := filling.add ⟨input.maxResults, maxCollectionOutputBytes⟩ TextMatch.size item
        if filling.stopped = true then filling else searchLines relative (number + 1) rest filling

def searchFiles : List HostPath → Filling TextMatch → Except Raised (Filling TextMatch)
  | [], filling => .ok filling
  | candidate :: rest, filling =>
      match readText ws candidate with
      -- All that reading a file raises is a `ToolInputError`.
      | .error _ => searchFiles rest filling
      | .ok text => do
          let relative ← relativePath ws candidate
          let filling := searchLines casefold input relative 1 (splitLines text) filling
          if filling.stopped = true then .ok filling else searchFiles rest filling

def candidates (target : HostPath) : Except Raised (List HostPath × Bool) :=
  match statIs ws.tree regular target with
  | .error _ => .error .otherError
  | .ok true => .ok ([target], false)
  | .ok false => do
      let (entries, scanLimited) ← collectEntries ws true target
      return ((entries.filter fun entry => decide (entry.2 = .file)).map Prod.fst, scanLimited)

def searchText : Except Raised SearchTextOutput := do
  let target ← resolvePath ws input.path .any
  let (files, scanLimited) ← candidates ws target
  let filling ← searchFiles ws casefold input files .empty
  return ⟨input.query, filling.items, scanLimited || filling.stopped⟩

end SearchText

end SynapseOS.FilesystemTools
