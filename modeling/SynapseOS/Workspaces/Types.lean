import SynapseOS.Execution.Json
import SynapseOS.Lib.FileSystem
import SynapseOS.Lib.Program

/-! The managed base directory and what its code raises (`core/workspaces/types.py`,
`core/workspaces/errors.py`). -/

namespace SynapseOS.Workspaces

open Tools Execution

inductive WorkspaceErrorCode
  | invalidRequest
  | projectUnavailable
  | workspaceExists
  | workspaceNotFound
  | operationInProgress
  | unsafePath
  | sourceDenied
  | remoteDenied
  | gitFailed
  | timedOut
  | cancelled
  | resourceLimit
  | cleanupFailed
  | auditFailed
  deriving DecidableEq, Repr

inductive Raised
  /-- An `OSError` of one call. -/
  | os (error : OSError)
  | workspace (code : WorkspaceErrorCode) (message : String)
  | tool (kind : ToolErrorKind) (code : ToolErrorCode) (message : String)
  /-- `ValueError` with its subclasses. -/
  | valueError
  /-- Any other subclass of `Exception`. -/
  | otherError
  /-- `asyncio.CancelledError`. -/
  | cancelled
  /-- Any other `BaseException`. -/
  | fatal
  deriving DecidableEq, Repr

inductive Slot
  | staging
  | locks
  | trash
  | transactions
  | gitMetadata
  | projects
  deriving DecidableEq, Repr

instance : Fintype Slot where
  elems := {.staging, .locks, .trash, .transactions, .gitMetadata, .projects}
  complete slot := by cases slot <;> decide

inductive Name
  /-- `str(project_id)`. -/
  | project (id : UUID)
  /-- A project id and a random token. -/
  | operation (id : UUID) (token : String)
  | entry (text : PyStr)
  deriving DecidableEq, Repr

abbrev Files := Disk Slot Name

/-- Which of the calls at one place of the source fail though the disk allows them. -/
inductive SystemCall
  | mkdir
  | rmdir
  | lstat
  | stat
  | isFile
  | isDir
  | resolve
  | scandir
  | open_
  | read
  | write
  | flush
  | fsync
  | close
  | chmod
  | link
  | unlink
  | rename
  deriving DecidableEq, Repr

abbrev Faults := SystemCall → Bool

structure WorkspaceLimits where
  maxEntries : Nat
  maxTotalBytes : Nat
  maxDepth : Nat
  entry_bounds : 1 ≤ maxEntries ∧ maxEntries ≤ 1000000
  byte_bounds : 1 ≤ maxTotalBytes ∧ maxTotalBytes ≤ 1099511627776
  depth_bounds : 1 ≤ maxDepth ∧ maxDepth ≤ 256

open Program

def ask {α : Type} (fails : Bool) (answer : Files → Except OSError α) : Program Files Raised α :=
  fun disk =>
    if fails = true then (.error (.os .fault), disk)
    else
      match answer disk with
      | .ok a => (.ok a, disk)
      | .error error => (.error (.os error), disk)

def quiet (fails : Bool) : Program Files Raised Unit := ask fails fun _ => .ok ()

def change (fails : Bool) (effect : Files → Except OSError Files) : Program Files Raised Unit :=
  fun disk =>
    if fails = true then (.error (.os .fault), disk)
    else
      match effect disk with
      | .ok after => (.ok (), after)
      | .error error => (.error (.os error), disk)

/-- `except OSError` with a handler that raises `e`. -/
def orRaise {σ α : Type} (body : Program σ Raised α) (e : Raised) : Program σ Raised α := do
  match ← attempt body with
  | .ok a => pure a
  | .error (.os _) => raise e
  | .error other => raise other

section Runs

variable {α : Type} {disk after : Files}

theorem still_ask (fails : Bool) (answer : Files → Except OSError α) : Still
    (ask fails answer) := by
  intro disk
  unfold ask
  split
  · rfl
  · cases answer disk with
    | error error => rfl
    | ok a => rfl

theorem still_orRaise {body : Program Files Raised α} (still : Still body) (e : Raised) :
    Still (orRaise body e) := by
  apply still_bind (still_attempt still)
  intro outcome
  rcases outcome with raised | a
  · cases raised <;> exact still_raise _
  · exact still_pure a

theorem keeps_orRaise {σ : Type} {related : σ → σ → Prop} {body : Program σ Raised α}
    (reflexive : ∀ s, related s s) (transitive : ∀ s t u, related s t → related t u → related s u)
    (first : Keeps related body) (e : Raised) : Keeps related (orRaise body e) := by
  apply keeps_bind transitive (keeps_attempt first)
  intro outcome
  rcases outcome with raised | a
  · cases raised <;> exact keeps_still reflexive (still_raise _)
  · exact keeps_still reflexive (still_pure a)

theorem ask_ok {answer : Files → Except OSError α} {a : α} (answers : answer disk = .ok a) :
    ask false answer disk = (.ok a, disk) := by
  simp [ask, answers]

theorem ask_error {answer : Files → Except OSError α} {error : OSError}
    (refuses : answer disk = .error error) : ask false answer disk =
      (.error (.os error), disk) := by
  simp [ask, refuses]

theorem quiet_ok : quiet false disk = (.ok (), disk) := rfl

theorem quiet_fault : quiet true disk = (.error (.os .fault), disk) := rfl

@[simp] theorem ask_fault (answer : Files → Except OSError α) :
    ask true answer disk = (.error (.os .fault), disk) := rfl

theorem change_ok {effect : Files → Except OSError Files} (moves : effect disk = .ok after) :
    change false effect disk = (.ok (), after) := by
  simp [change, moves]

theorem change_error {effect : Files → Except OSError Files} {error : OSError}
    (refuses : effect disk = .error error) :
    change false effect disk = (.error (.os error), disk) := by
  simp [change, refuses]

@[simp] theorem change_fault (effect : Files → Except OSError Files) :
    change true effect disk = (.error (.os .fault), disk) := rfl

theorem ask_returned {fails : Bool} {answer : Files → Except OSError α} {a : α}
    (run : ask fails answer disk = (.ok a, after)) :
    fails = false ∧ answer disk = .ok a ∧ disk = after := by
  unfold ask at run
  cases fails with
  | true => cases run
  | false =>
      cases answers : answer disk with
      | error error =>
          simp only [answers] at run
          cases run
      | ok b =>
          simp only [answers] at run
          cases run
          exact ⟨rfl, rfl, rfl⟩

theorem change_returned {fails : Bool} {effect : Files → Except OSError Files}
    (run : change fails effect disk = (.ok (), after)) :
    fails = false ∧ effect disk = .ok after := by
  unfold change at run
  cases fails with
  | true => cases run
  | false =>
      cases moves : effect disk with
      | error error =>
          simp only [moves] at run
          cases run
      | ok moved =>
          simp only [moves] at run
          cases run
          exact ⟨rfl, rfl⟩

theorem orRaise_returned {body : Program Files Raised α} {e : Raised} {a : α}
    (run : orRaise body e disk = (.ok a, after)) : body disk = (.ok a, after) := by
  unfold orRaise at run
  rw [attempt_run] at run
  rcases parts : body disk with ⟨raised | b, moved⟩
  · rw [parts] at run
    cases raised <;> cases run
  · rw [parts] at run
    exact run

theorem orRaise_ok {body : Program Files Raised α} {e : Raised} {a : α}
    (run : body disk = (.ok a, after)) : orRaise body e disk = (.ok a, after) := by
  unfold orRaise
  rw [run_attempt run]
  rfl

theorem orRaise_error {body : Program Files Raised α} {e : Raised} {error : OSError}
    (run : body disk = (.error (.os error), after)) : orRaise body e disk = (.error e, after) := by
  unfold orRaise
  rw [run_attempt run]
  rfl

theorem orRaise_raised {body : Program Files Raised α} {raised : Raised}
    (run : body disk = (.error raised, after)) (e : Raised) :
    ∃ other, orRaise body e disk = (.error other, after) := by
  unfold orRaise
  rw [run_attempt run]
  cases raised with
  | os | workspace | tool | valueError | otherError | cancelled | fatal => exact ⟨_, rfl⟩

end Runs

end SynapseOS.Workspaces
