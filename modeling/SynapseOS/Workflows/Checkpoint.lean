import SynapseOS.Tasks.Acceptance

/-! A durable checkpoint: the task is locked, changes are staged and committed, and a failure is
rolled back (`core/workflows/audit.py`, `qa_audit.py`, `security_audit.py`). -/

namespace SynapseOS.Workflows

open Execution Program Tasks Tools

structure Handling where
  /-- The locked task is gone. -/
  missing : Exn
  /-- The locked task is in another status, or assigned to another agent. -/
  mismatch : Exn
  normalize : Exn → Exn
  persistence : Exn
  /-- The snapshot keeps the assigned agent besides the status. -/
  keepsAgent : Bool

section Checkpoint

variable (handling : Handling) (calls : Calls) (task : UUID)

/-- `_locked_expected_task`. The query populates the task anew. -/
def lockedExpectedTask (status : TaskStatus) (agent : Option UUID) : Program Session Exn TaskRow :=
  do
  call calls .lock
  let session ← look
  match session.working.tasks.get task with
  | none => raise handling.missing
  | some row => do
      update fun session => edited session task (.load row)
      if row.status ≠ status ∨ row.assignedAgentId ≠ agent then raise handling.mismatch
      else pure row

def restoreSnapshot (snapshot : TaskRow) : Program Session Exn Unit := do
  call calls .restore
  update fun session => edited session task
    { session.object task with
      status := .committed snapshot.status
      assignedAgentId :=
        if handling.keepsAgent = true then .committed snapshot.assignedAgentId
        else (session.object task).assignedAgentId }

/-- `_recover_failed_checkpoint`: whether the rollback failed. -/
def recoverFailedCheckpoint (connected : Bool) (snapshot : Option TaskRow) :
    Program Session Exn Bool := do
  let rolledBack ← attempt (rollback calls)
  let failed : Bool := match rolledBack with
    | .ok _ => false
    | .error _ => true
  let _ ← attempt (if failed = true ∧ connected = true then call calls .invalidate else pure ())
  update fun session => { session with authorizations := .empty }
  match snapshot with
  | none => pure failed
  | some snapshot => do
      let _ ← attempt (restoreSnapshot handling calls task snapshot)
      pure failed

/-- The exception that ended a checkpoint; what is no `Exception` passes the handlers. -/
def failCheckpoint (connected : Bool) (snapshot : Option TaskRow) (e : Exn) :
    Program Session Exn Unit :=
  if e.isException = false then raise e
  else do
    let failed ← recoverFailedCheckpoint handling calls task connected snapshot
    raise (if failed = true then handling.persistence else handling.normalize e)

/-- The transaction starts and the task is locked. A configuration is skipped without a deadline. -/
def openCheckpoint (status : TaskStatus) (agent : Option UUID) : Program Session Exn TaskRow := do
  call calls .configure
  lockedExpectedTask handling calls task status agent

/-- `_commit_checkpoint`, with the exception that its caller raises. -/
def commitCheckpoint (status : TaskStatus) (agent : Option UUID)
    (stage : Program Session Exn Unit) : Program Session Exn Unit := do
  let connected ← attempt (call calls .connection)
  match connected with
  | .error e => failCheckpoint handling calls task false none e
  | .ok _ => do
      let opened ← attempt (openCheckpoint handling calls task status agent)
      match opened with
      | .error e => failCheckpoint handling calls task true none e
      | .ok row => do
          let committed ← attempt (do
            stage
            commit calls)
          match committed with
          | .error e => failCheckpoint handling calls task true (some row) e
          | .ok _ => pure ()

end Checkpoint

def SameCommitted (s t : Session) : Prop := t.committed = s.committed

section Committed

variable {handling : Handling} {calls : Calls} {task : UUID} {s t : Session}

theorem sameCommitted_trans (s t u : Session) (first : SameCommitted s t)
    (next : SameCommitted t u) : SameCommitted s u := Eq.trans next first

theorem still_call {site : Call} : Still (call calls site : Program Session Exn Unit) := by
  unfold call
  split
  · exact still_pure _
  · exact still_raise _

theorem keeps_call {site : Call} :
    Keeps SameCommitted (call calls site : Program Session Exn Unit) :=
  keeps_still (fun _ => rfl) still_call

theorem keeps_editTask (edit : TaskRow → TaskObject → TaskObject) :
    Keeps SameCommitted (editTask task edit) := by
  intro s
  cases held : s.working.tasks.get task with
  | none =>
      rw [editTask_absent edit held]
      rfl
  | some row =>
      rw [editTask_row edit held]
      rfl

theorem keeps_addEvent (event : AuditEvent) : Keeps SameCommitted (addEvent event) := fun _ => rfl

theorem keeps_authorize {current target : TaskStatus} {event : Nat} :
    Keeps SameCommitted (authorizeTaskStatusChange task current target event) := by
  intro s
  have ends : authorizeTaskStatusChange task current target event s = _ := authorize_cases _ _
  rw [ends]
  cases extended (s.authorizations.get task) current target event <;> rfl

theorem still_readTask : Still (readTask task) := by
  intro s
  cases held : s.working.tasks.get task with
  | none => rw [readTask_absent held]
  | some row => rw [readTask_row held]

theorem keeps_transition {target : TaskStatus} {context : TransitionContext} :
    Keeps SameCommitted (transition calls task target context) := by
  unfold transition
  refine keeps_bind sameCommitted_trans keeps_call fun _ => ?_
  split
  · exact keeps_still (fun _ => rfl) (still_raise _)
  · refine keeps_bind sameCommitted_trans (keeps_still (fun _ => rfl) still_readTask) fun row => ?_
    split
    · exact keeps_still (fun _ => rfl) (still_raise _)
    · refine keeps_bind sameCommitted_trans keeps_call fun _ => ?_
      intro s
      rw [look_run]
      revert s
      refine fun s => keeps_bind sameCommitted_trans keeps_authorize (fun _ => ?_) s
      refine keeps_bind sameCommitted_trans keeps_call fun _ => ?_
      exact keeps_bind sameCommitted_trans (keeps_addEvent _) fun _ => keeps_editTask _

end Committed

section Outcomes

variable (handling : Handling) (calls : Calls) (task : UUID) (status : TaskStatus)
  (agent : Option UUID)

def Recovered (snapshot : Option TaskRow) (s : Session) : Session :=
  match snapshot, calls .restore with
  | some row, none =>
      edited s.rolledBack task
        { s.rolledBack.object task with
          status := .committed row.status
          assignedAgentId :=
            if handling.keepsAgent = true then .committed row.assignedAgentId
            else (s.rolledBack.object task).assignedAgentId }
  | _, _ => s.rolledBack

def loadedRow (s : Session) : Option TaskRow :=
  if (calls .connection).isSome = true then none
  else
    match (openCheckpoint handling calls task status agent s).1 with
    | .ok row => some row
    | .error _ => none

def remembered (snapshot : Option TaskRow) (row : TaskRow) : TaskRow :=
  match snapshot, calls .restore with
  | some loaded, none =>
      { row with
        status := loaded.status
        assignedAgentId :=
          if handling.keepsAgent = true then loaded.assignedAgentId else row.assignedAgentId }
  | _, _ => row

variable {handling calls task status agent}

theorem rolledBack_object (s : Session) : s.rolledBack.object task = {} := by
  show ((s.objects.mapValues fun _ _ => {}).get task).getD {} = {}
  rw [Dict.get_mapValues]
  cases s.objects.get task <;> rfl

theorem recovered_view {snapshot : Option TaskRow} {row : TaskRow} {s : Session}
    (held : s.committed.tasks.get task = some row) :
    (Recovered handling calls task snapshot s).view task =
      some (remembered handling calls snapshot row) := by
  have expired : s.rolledBack.view task = some row := by
    rw [view_row held, rolledBack_object]
    rfl
  unfold Recovered remembered
  cases snapshot with
  | none => exact expired
  | some loaded =>
      cases calls .restore with
      | some e => exact expired
      | none =>
          dsimp only
          have there : (edited s.rolledBack task
              { s.rolledBack.object task with
                status := .committed loaded.status
                assignedAgentId :=
                  if handling.keepsAgent = true then .committed loaded.assignedAgentId
                  else (s.rolledBack.object task).assignedAgentId }).working.tasks.get task =
                some row := held
          rw [view_row there, object_set, if_pos rfl, rolledBack_object]
          cases handling.keepsAgent <;> rfl

theorem rollback_cases (s : Session) :
    (calls .rollback = none ∧ rollback calls s = (.ok (), s.rolledBack)) ∨
      ∃ e, calls .rollback = some e ∧ rollback calls s = (.error e, s.restored) := by
  unfold Tasks.rollback
  cases calls .rollback with
  | none => exact .inl ⟨rfl, rfl⟩
  | some e => exact .inr ⟨e, rfl, rfl⟩

theorem recover_run (connected : Bool) (snapshot : Option TaskRow) (s : Session) :
    recoverFailedCheckpoint handling calls task connected snapshot s =
      (.ok (calls .rollback).isSome, Recovered handling calls task snapshot s) := by
  have finish : ∀ (failed : Bool) (m : Session), { m with authorizations := .empty } =
    s.rolledBack →
      (do
        let _ ← attempt (if failed = true ∧ connected = true then call calls .invalidate
          else pure ())
        update fun session : Session => { session with authorizations := .empty }
        match snapshot with
        | none => pure failed
        | some snapshot => do
            let _ ← attempt (restoreSnapshot handling calls task snapshot)
            pure failed : Program Session Exn Bool) m =
          (.ok failed, Recovered handling calls task snapshot s) := by
    intro failed m cleared
    have invalidates : Still (if failed = true ∧ connected = true then call calls .invalidate
        else pure () : Program Session Exn Unit) := still_ite still_call (still_pure ())
    rw [attempt_run, invalidates m, update_run, cleared]
    unfold Recovered
    cases snapshot with
    | none => rfl
    | some row =>
        dsimp only
        rw [attempt_run]
        unfold restoreSnapshot
        cases restores : calls .restore with
        | none =>
            rw [call_passes restores]
            rfl
        | some e =>
            rw [call_raises restores]
            rfl
  unfold recoverFailedCheckpoint
  rcases rollback_cases s with ⟨works, run⟩ | ⟨e, fails, run⟩
  · rw [run_attempt run, works]
    exact finish false _ rfl
  · rw [run_attempt run, fails]
    exact finish true _ rfl

def Failed (handling : Handling) (calls : Calls) (task : UUID)
    (loaded : Option TaskRow) (s : Session) (run : Except Exn Unit × Session) : Prop :=
  (∃ e t, e.isException = false ∧ t.committed = s.committed ∧ run = (.error e, t)) ∨
    ∃ e code u, e.isException = true ∧ (code = handling.persistence ∨ code = handling.normalize e) ∧
      u.committed = s.committed ∧ run = (.error code, Recovered handling calls task loaded u)

theorem failed_run {connected : Bool} {snapshot : Option TaskRow} {e : Exn} {s u : Session}
    (same : u.committed = s.committed) :
    Failed handling calls task snapshot s
      (failCheckpoint handling calls task connected snapshot e u) := by
  unfold failCheckpoint
  cases caught : e.isException with
  | false => exact .inl ⟨e, u, caught, same, rfl⟩
  | true =>
      rw [if_neg (by simp)]
      rw [run_ok (recover_run connected snapshot u)]
      cases (calls .rollback).isSome with
      | false => exact .inr ⟨e, _, u, caught, .inr rfl, same, rfl⟩
      | true => exact .inr ⟨e, _, u, caught, .inl rfl, same, rfl⟩

theorem open_cases (s : Session) :
    (∃ e t, t.committed = s.committed ∧
        openCheckpoint handling calls task status agent s = (.error e, t)) ∨
      ∃ row, calls .configure = none ∧ calls .lock = none ∧
        s.working.tasks.get task = some row ∧ row.status = status ∧ row.assignedAgentId = agent ∧
        openCheckpoint handling calls task status agent s = (.ok row,
          edited s task (.load row)) := by
  unfold openCheckpoint lockedExpectedTask
  cases configured : calls .configure with
  | some e => exact .inl ⟨e, s, rfl, call_raises configured⟩
  | none =>
      rw [call_passes configured]
      cases locked : calls .lock with
      | some e => exact .inl ⟨e, s, rfl, call_raises locked⟩
      | none =>
          rw [call_passes locked, look_run]
          cases held : s.working.tasks.get task with
          | none => exact .inl ⟨handling.missing, s, rfl, rfl⟩
          | some row =>
              dsimp only
              rw [update_run]
              by_cases other : row.status ≠ status ∨ row.assignedAgentId ≠ agent
              · rw [if_pos other]
                exact .inl ⟨handling.mismatch, edited s task (.load row), rfl, rfl⟩
              · rw [if_neg other]
                simp only [not_or, not_not] at other
                exact .inr ⟨row, rfl, rfl, rfl, other.1, other.2, rfl⟩

/-- How a checkpoint ends: it fails, or it commits what it staged. -/
theorem checkpoint_cases {stage : Program Session Exn Unit} (keeps : Keeps SameCommitted stage)
    (s : Session) :
    Failed handling calls task (loadedRow handling calls task status agent s) s
        (commitCheckpoint handling calls task status agent stage s) ∨
      ∃ row u, loadedRow handling calls task status agent s = some row ∧
        s.working.tasks.get task = some row ∧ row.status = status ∧ row.assignedAgentId = agent ∧
        stage (edited s task (.load row)) = (.ok (), u) ∧
        rejectUnauthorizedTaskStatusChanges u = none ∧
        commitCheckpoint handling calls task status agent stage s = (.ok (), u.persisted) := by
  unfold loadedRow commitCheckpoint
  cases connects : calls .connection with
  | some e =>
      have run : (call calls .connection : Program Session Exn Unit) s = (.error e, s) := by
        unfold call
        rw [connects]
        rfl
      rw [run_attempt run]
      exact .inl (failed_run rfl)
  | none =>
      have run : (call calls .connection : Program Session Exn Unit) s = (.ok (), s) := by
        unfold call
        rw [connects]
        rfl
      rw [run_attempt run, if_neg nofun]
      have opens : (∃ e t, t.committed = s.committed ∧
        openCheckpoint handling calls task status agent s = (.error e, t)) ∨ _ := open_cases s
      rcases opens with ⟨e, t, same, opened⟩ | ⟨row, _, _, held, expected, assigned, opened⟩
      · dsimp only
        rw [run_attempt opened, opened]
        exact .inl (failed_run same)
      · dsimp only
        rw [run_attempt opened, opened]
        dsimp only
        have stays := keeps (edited s task (.load row))
        rcases staged : stage (edited s task (.load row)) with ⟨e | _, u⟩
        · rw [staged] at stays
          rw [run_attempt (run_error staged)]
          exact .inl (failed_run stays)
        · rw [staged] at stays
          rcases commit_cases calls with ⟨e, t, raised, same⟩ | ⟨accepted, returned⟩
          · rw [run_attempt ((run_ok staged).trans raised)]
            exact .inl (failed_run (same.trans stays))
          · rw [run_attempt ((run_ok staged).trans returned)]
            exact .inr ⟨row, u, rfl, held, expected, assigned, staged, accepted, rfl⟩

end Outcomes

end SynapseOS.Workflows
