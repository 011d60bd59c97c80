import SynapseOS.LocalGit.Types

/-! What the local provider reads of the output of git (`infrastructure/git/local.py`). -/

namespace SynapseOS.LocalGit

open Execution

structure BoundedOutput where
  content : ByteArray
  totalBytes : Nat
  truncated : Bool

def bounded (limit : Nat) (data : ByteArray) : BoundedOutput :=
  ⟨data.extract 0 limit, data.size, decide (limit < data.size)⟩

def decode (data : ByteArray) : Except Raised PyStr :=
  match String.fromUTF8? data with
  | some text => .ok (.ofString text)
  | none => .error (.git .gitFailed)

/-- `str.isdigit` and `int` of ASCII digits; `int` takes 4300 at most. -/
def digits (text : PyStr) : Option Nat :=
  if text ≠ [] ∧ text.length ≤ 4300 ∧ text.all digit = true then
    some (text.foldl (fun value point => 10 * value + (point - 0x30)) 0)
  else none

/-- `int(text)` of a stripped text, which may have a sign and single underscores between digits. -/
def integer (text : PyStr) : Option Int :=
  let number (rest : PyStr) : Option Nat :=
    if rest.head? = some 0x5F ∨ rest.getLast? = some 0x5F ∨ [0x5F, 0x5F] <:+: rest then none
    else digits (rest.filter fun point => decide (point ≠ 0x5F))
  match text with
  | 0x2D :: rest => (number rest).map fun value => -(value : Int)
  | 0x2B :: rest => (number rest).map fun value => (value : Int)
  | rest => (number rest).map fun value => (value : Int)

/-- `text.split(separator, 2)`. -/
def splitTwice (separator : Nat) (text : PyStr) : List PyStr :=
  match text.splitOn separator with
  | first :: second :: third :: rest => [first, second, [separator].intercalate (third :: rest)]
  | few => few

/-- `text.split()`. -/
def words (text : PyStr) : List PyStr := (text.splitOnP space).filter fun word => !word.isEmpty

section Status

structure StatusReading where
  branch : Option PyStr := none
  headSha : Option PyStr := none
  staged : Nat := 0
  unstaged : Nat := 0
  untracked : Nat := 0
  deriving DecidableEq

/-- `record.removeprefix(prefix)` of a record that starts with it. -/
def after (start : String) (record : PyStr) : Option PyStr :=
  if (PyStr.ofString start).isPrefixOf record = true then some (record.drop start.length) else none

def changedStates (record : PyStr) : Except Raised (Nat × Nat) :=
  match splitTwice 0x20 record with
  | _ :: [index, worktree] :: _ => .ok (index, worktree)
  | _ => .error (.git .gitFailed)

/-- The loop of `_parse_status`; the record after a renamed path is its source. -/
def readRecords (reading : StatusReading) (skip : Bool) : List PyStr → Except Raised StatusReading
  | [] => .ok reading
  | record :: rest =>
      if record = [] then readRecords reading skip rest
      else if skip = true then readRecords reading false rest
      else
        match after "# branch.oid " record with
        | some value =>
            readRecords { reading with
              headSha := if value = .ofString "(initial)" then none else some value } false rest
        | none =>
        match after "# branch.head " record with
        | some value =>
            readRecords { reading with
              branch := if value = .ofString "(detached)" then none else some value } false rest
        | none =>
        if (after "? " record).isSome = true then
          readRecords { reading with untracked := reading.untracked + 1 } false rest
        else if (after "! " record).isSome = true then readRecords reading false rest
        else if ((after "1 " record).isSome || (after "2 " record).isSome ||
            (after "u " record).isSome) = true then
          match changedStates record with
          | .error raised => .error raised
          | .ok (index, worktree) =>
              readRecords { reading with
                staged := reading.staged + if index = 0x2E then 0 else 1
                unstaged := reading.unstaged + if worktree = 0x2E then 0 else 1 }
                (after "2 " record).isSome rest
        else .error (.git .gitFailed)

theorem after_self (start : String) (value : PyStr) :
    after start (PyStr.ofString start ++ value) = some value := by
  have whole : (PyStr.ofString start).length = start.length := by
    unfold PyStr.ofString
    rw [List.length_map, String.length_toList]
  unfold after
  rw [if_pos (List.isPrefixOf_iff_prefix.mpr (List.prefix_append _ _)), ← whole, List.drop_left]

section Records

variable (reading : StatusReading) (rest : List PyStr) {value : PyStr}

theorem readRecords_oid (named : value ≠ .ofString "(initial)") :
    readRecords reading false ((.ofString "# branch.oid " ++ value) :: rest) =
      readRecords { reading with headSha := some value } false rest := by
  rw [readRecords, after_self]
  dsimp only
  rw [if_neg named, if_neg (by rw [PyStr.ofString_ofList]; exact List.cons_ne_nil _ _),
    if_neg (by decide)]

theorem readRecords_head (attached : value ≠ .ofString "(detached)") :
    readRecords reading false ((.ofString "# branch.head " ++ value) :: rest) =
      readRecords { reading with branch := some value } false rest := by
  have other : after "# branch.oid " (.ofString "# branch.head " ++ value) = none := by
    unfold after
    repeat rw [PyStr.ofString_ofList]
    rfl
  rw [readRecords, after_self, other]
  dsimp only
  rw [if_neg attached, if_neg (by rw [PyStr.ofString_ofList]; exact List.cons_ne_nil _ _),
    if_neg (by decide)]

theorem readRecords_untracked :
    readRecords reading false ((.ofString "? " ++ value) :: rest) =
      readRecords { reading with untracked := reading.untracked + 1 } false rest := by
  have oid : after "# branch.oid " (.ofString "? " ++ value) = none := by
    unfold after
    repeat rw [PyStr.ofString_ofList]
    rfl
  have head : after "# branch.head " (.ofString "? " ++ value) = none := by
    unfold after
    repeat rw [PyStr.ofString_ofList]
    rfl
  rw [readRecords, after_self, oid, head]
  dsimp only
  rw [if_neg (by rw [PyStr.ofString_ofList]; exact List.cons_ne_nil _ _), if_neg (by decide),
    if_pos (by rfl)]

end Records

/-- `_parse_status`, with the marks that stand in `.git`. -/
def parseStatus (marks : OperationMarks) (output : BoundedOutput) :
    Except Raised GitRepositoryStatus := do
  let text ← decode output.content
  let reading ← readRecords {} false (text.splitOn 0)
  let status : GitRepositoryStatus :=
    ⟨reading.branch, reading.headSha, reading.branch.isNone,
      decide (reading.staged + reading.unstaged + reading.untracked = 0), reading.staged,
      reading.unstaged, reading.untracked, marks, output.totalBytes⟩
  if status.check = true then .ok status else .error .invalid

def StatusReading.report (reading : StatusReading) (marks : OperationMarks) (size : Nat) :
    GitRepositoryStatus :=
  ⟨reading.branch, reading.headSha, reading.branch.isNone,
    decide (reading.staged + reading.unstaged + reading.untracked = 0), reading.staged,
    reading.unstaged, reading.untracked, marks, size⟩

theorem parseStatus_read (marks : OperationMarks) (output : BoundedOutput) {text : PyStr}
    {reading : StatusReading}
    (decoded : decode output.content = .ok text)
    (read : readRecords {} false (text.splitOn 0) = .ok reading) :
    parseStatus marks output =
      if (reading.report marks output.totalBytes).check = true
        then .ok (reading.report marks output.totalBytes)
      else .error .invalid := by
  unfold parseStatus
  rw [decoded]
  show (readRecords {} false (text.splitOn 0) >>= _) = _
  rw [read]
  rfl

theorem parseStatus_ok {marks : OperationMarks} {output : BoundedOutput}
    {report : GitRepositoryStatus} (ok : parseStatus marks output = .ok report) :
    ∃ text reading, decode output.content = .ok text ∧
      readRecords {} false (text.splitOn 0) = .ok reading ∧
      report = ⟨reading.branch, reading.headSha, reading.branch.isNone,
        decide (reading.staged + reading.unstaged + reading.untracked = 0), reading.staged,
        reading.unstaged, reading.untracked, marks, output.totalBytes⟩ := by
  obtain ⟨text, decoded, rest⟩ := bind_ok ok
  obtain ⟨reading, read, rest⟩ := bind_ok rest
  refine ⟨text, reading, decoded, read, ?_⟩
  dsimp only at rest
  split at rest
  · cases rest
    rfl
  · cases rest

end Status

section Diff

/-- `value.partition(b"\x00\x00")`, of which the separator was found. -/
def partitionZeros : List UInt8 → Option (List UInt8 × List UInt8)
  | [] => none
  | [_] => none
  | first :: second :: rest =>
      if first = 0 ∧ second = 0 then some ([], rest)
      else (partitionZeros (second :: rest)).map fun parts => (first :: parts.1, parts.2)

def numstatRecord (record : PyStr) : Option (PyStr × Nat × Nat) :=
  match splitTwice 0x09 record with
  | [added, removed, path] =>
      if path = [] then none
      else if added = .ofString "-" ∧ removed = .ofString "-" then some (path, 0, 0)
      else
        match digits added, digits removed with
        | some added, some removed => some (path, added, removed)
        | _, _ => none
  | _ => none

def parseDiffOutput (value : ByteArray) : Except Raised (PyStr × List PyStr × Nat × Nat) :=
  if value.size = 0 then .ok ([], [], 0, 0)
  else
    match partitionZeros value.data.toList with
    | none => .error (.git .gitFailed)
    | some (metadata, patch) => do
        let records ← decode ⟨metadata.toArray⟩
        let patch ← decode ⟨patch.toArray⟩
        match ((records.splitOn 0).filter fun record => !record.isEmpty).mapM numstatRecord with
        | none => .error (.git .gitFailed)
        | some entries =>
            return (patch, entries.map fun entry => entry.1,
              (entries.map fun entry => entry.2.1).sum, (entries.map fun entry => entry.2.2).sum)

def countedRecord (record : PyStr) : Except Raised (PyStr × Nat × Nat) :=
  match splitTwice 0x09 record with
  | [added, removed, path] =>
      match digits added, digits removed with
      | some added, some removed => .ok (path, added, removed)
      | _, _ => .error (.git .gitFailed)
  | _ => .error (.git .gitFailed)

def parseNumstat (raw : ByteArray) (expected : List PyStr) : Except Raised (Nat × Nat) := do
  let text ← decode raw
  let entries ← ((text.splitOn 0).filter fun record => !record.isEmpty).mapM countedRecord
  if (entries.map fun entry => entry.1) = expected then
    return ((entries.map fun entry => entry.2.1).sum, (entries.map fun entry => entry.2.2).sum)
  else .error (.git .staleState)

def parsePaths (raw : ByteArray) : Except Raised (List PyStr) := do
  let text ← decode raw
  return (text.splitOn 0).filter fun path => !path.isEmpty

end Diff

section History

/-- `record.strip("\n")`. -/
def stripNewlines (text : PyStr) : PyStr :=
  (text.dropWhile fun point => decide (point = 0x0A)).rdropWhile fun point => decide (point = 0x0A)

/-- A commit of a record; `aware` says which texts `datetime.fromisoformat` reads as an aware
time. -/
def commitSummary (aware : PyStr → Bool) (record : PyStr) : Except Raised GitCommitSummary :=
  match record.splitOn 0x1F with
  | [sha, parents, subject, author, timestamp] =>
      let commit : GitCommitSummary := ⟨sha, words parents, subject, author⟩
      if aware timestamp = true ∧ commit.check = true then .ok commit else .error (.git .gitFailed)
  | _ => .error (.git .gitFailed)

def parseHistory (aware : PyStr → Bool) (value : PyStr) : Except Raised (List GitCommitSummary) :=
  (((value.splitOn 0x1E).map stripNewlines).filter fun record => !record.isEmpty).mapM
    (commitSummary aware)

end History

def parseScalar (output : BoundedOutput) : Except Raised PyStr := do
  if output.truncated = true then .error (.git .resourceLimit)
  else do
    let value := strip (← decode output.content)
    if value = [] ∨ 0 ∈ value ∨ 0x0A ∈ value then .error (.git .gitFailed) else return value

end SynapseOS.LocalGit
