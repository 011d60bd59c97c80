import SynapseOS.Core.Fields

/-! Values of the remote Git port and what the GitHub adapter reads of a reply
(`core/git_providers/types.py`, `infrastructure/git/github/provider.py`). -/

namespace SynapseOS.Git

open Execution Tools

inductive RemoteGitErrorCode
  | invalidRequest
  | authenticationFailed
  | forbidden
  | notFound
  | conflict
  | staleState
  | protectedBranch
  | resourceLimit
  | timedOut
  | connectionFailed
  | responseInvalid
  | providerFailed
  | gateBlocked
  | auditFailed
  deriving DecidableEq, Repr

/-- What a call raises: a `RemoteGitError`, one of `KeyError`, `TypeError`, `ValueError` and
`ValidationError`, or what no handler of the adapter names. -/
inductive Raised
  | remote (code : RemoteGitErrorCode)
  | invalid
  | other
  deriving DecidableEq, Repr

inductive RemotePullRequestState
  | open_
  | closed
  deriving DecidableEq, Repr

inductive RemoteCheckStatus
  | queued
  | inProgress
  | completed
  deriving DecidableEq, Repr

inductive RemoteCheckConclusion
  | success
  | failure
  | neutral
  | cancelled
  | skipped
  | timedOut
  | actionRequired
  | stale
  deriving DecidableEq, Repr

structure RemotePullRequest where
  number : Int
  state : RemotePullRequestState
  title : PyStr
  headBranch : PyStr
  baseBranch : PyStr
  headSha : PyStr
  mergeable : Option Bool
  deriving DecidableEq

structure RemoteCheck where
  name : PyStr
  status : RemoteCheckStatus
  conclusion : Option RemoteCheckConclusion
  headSha : PyStr
  deriving DecidableEq

structure RemoteMergeResult where
  number : Nat
  merged : Bool
  sha : Option PyStr
  message : PyStr
  deriving DecidableEq

section Constraints

def branchName (text : PyStr) : Bool :=
  decide (1 ≤ text.length ∧ text.length ≤ 255) &&
    !(text.head?.any (PyStr.ofString "/.-").contains) &&
    !(text.getLast?.any (PyStr.ofString "/.").contains) &&
    decide (¬ PyStr.ofString ".." <:+: text ∧ ¬ PyStr.ofString "//" <:+: text ∧
      ¬ PyStr.ofString "@\x7b" <:+: text ∧ 0x5C ∉ text) &&
    text.all (fun point => !((PyStr.ofString "~^:?*[").contains point) && !space point &&
      decide (32 ≤ point)) &&
    (slashParts text).all fun part =>
      decide (part ≠ [] ∧ part ≠ PyStr.ofString "." ∧ part ≠ PyStr.ofString ".." ∧
        ¬ PyStr.ofString ".lock" <:+ part)

def checkName : PyStr → Bool
  | [] => false
  | head :: tail =>
      asciiAlphanumeric head && decide (tail.length ≤ 127) &&
        tail.all fun point => asciiAlphanumeric point || (PyStr.ofString " ./_:-").contains point

end Constraints

section Reading

def mapping : JsonValue → Except Raised JsonObject
  | .dict entries => .ok entries
  | _ => .error (.remote .responseInvalid)

/-- `data[key]`. -/
def item (data : JsonObject) (key : String) : Except Raised JsonValue :=
  match data.get key with
  | some value => .ok value
  | none => .error .invalid

def stringItem (data : JsonObject) (key : String) : Except Raised PyStr := do
  match ← item data key with
  | .string text => .ok (.ofString text)
  | _ => .error .invalid

def optionalString (data : JsonObject) (key : String) : Except Raised (Option PyStr) := do
  match ← item data key with
  | .null => .ok none
  | .string text => .ok (some (.ofString text))
  | _ => .error .invalid

def boolItem (data : JsonObject) (key : String) : Except Raised Bool := do
  match ← item data key with
  | .boolean value => .ok value
  | _ => .error .invalid

def integerItem (data : JsonObject) (key : String) : Except Raised Int := do
  match ← item data key with
  | .integer value => .ok value
  | _ => .error .invalid

def nestedString (data : JsonObject) (parent key : String) : Except Raised PyStr := do
  stringItem (← mapping (← item data parent)) key

def require (condition : Bool) : Except Raised Unit :=
  if condition = true then .ok () else .error .invalid

/-- `except (KeyError, TypeError, ValueError, ValidationError)` with a failure of the response. -/
def readResponse {α : Type} (reading : Except Raised α) : Except Raised α :=
  match reading with
  | .error .invalid => .error (.remote .responseInvalid)
  | other => other

variable (upper : PyStr → PyStr)

/-- `value.upper().replace(" ", "_")`. -/
def normalizedState (text : PyStr) : PyStr :=
  (upper text).map fun point => if point = 0x20 then 0x5F else point

def pullRequestState (text : PyStr) : Except Raised RemotePullRequestState :=
  if upper text = .ofString "OPEN" then .ok .open_
  else if upper text = .ofString "CLOSED" then .ok .closed
  else .error .invalid

def mergeableItem (data : JsonObject) : Except Raised (Option Bool) :=
  match data.get "mergeable" with
  | none | some .null => .ok none
  | some (.boolean value) => .ok (some value)
  | some _ => .error .invalid

def pullRequest (data : JsonObject) : Except Raised RemotePullRequest := readResponse do
  let state ← pullRequestState upper (← stringItem data "state")
  let number ← integerItem data "number"
  let title ← stringItem data "title"
  let headBranch ← nestedString data "head" "ref"
  let baseBranch ← nestedString data "base" "ref"
  let headSha ← nestedString data "head" "sha"
  let mergeable ← mergeableItem data
  require (decide (1 ≤ number ∧ number ≤ 2147483647 ∧ 1 ≤ title.length ∧ title.length ≤ 256) &&
    branchName headBranch && branchName baseBranch && shaText headSha)
  return ⟨number, state, title, headBranch, baseBranch, headSha, mergeable⟩

def checkStatus (text : PyStr) : Except Raised RemoteCheckStatus :=
  match [(PyStr.ofString "QUEUED", RemoteCheckStatus.queued),
      (.ofString "IN_PROGRESS", .inProgress), (.ofString "COMPLETED", .completed)].find?
      fun entry => decide (entry.1 = normalizedState upper text) with
  | some entry => .ok entry.2
  | none => .error .invalid

def checkConclusion (text : PyStr) : Except Raised RemoteCheckConclusion :=
  match [(PyStr.ofString "SUCCESS", RemoteCheckConclusion.success), (.ofString "FAILURE", .failure),
      (.ofString "NEUTRAL", .neutral), (.ofString "CANCELLED", .cancelled),
      (.ofString "SKIPPED", .skipped), (.ofString "TIMED_OUT", .timedOut),
      (.ofString "ACTION_REQUIRED", .actionRequired), (.ofString "STALE", .stale)].find?
      fun entry => decide (entry.1 = normalizedState upper text) with
  | some entry => .ok entry.2
  | none => .error .invalid

def remoteCheck (value : JsonValue) : Except Raised RemoteCheck := do
  let data ← mapping value
  let conclusion ← match ← optionalString data "conclusion" with
    | none => .ok none
    | some text => (checkConclusion upper text).map some
  let name ← stringItem data "name"
  let status ← checkStatus upper (← stringItem data "status")
  let headSha ← stringItem data "head_sha"
  require (checkName name && shaText headSha)
  return ⟨name, status, conclusion, headSha⟩

def listChecks (value : JsonValue) : Except Raised (List RemoteCheck) := do
  let data ← mapping value
  match data.get "check_runs" with
  | some (.list checks) =>
      if 1000 < checks.length then .error (.remote .resourceLimit)
      else readResponse (checks.mapM (remoteCheck upper))
  | _ => .error (.remote .resourceLimit)

def shaItem (data : JsonObject) : Except Raised (Option PyStr) :=
  match data.get "sha" with
  | none | some .null => .ok none
  | some (.string text) => .ok (some (.ofString text))
  | some _ => .error .invalid

def mergeResult (number : Nat) (value : JsonValue) : Except Raised RemoteMergeResult := do
  let data ← mapping value
  let merged ← boolItem data "merged"
  let sha ← shaItem data
  let message ← stringItem data "message"
  require (sha.all shaText && decide (1 ≤ message.length ∧ message.length ≤ 255) &&
    decide (merged = sha.isSome))
  return ⟨number, merged, sha, message⟩

end Reading

end SynapseOS.Git
