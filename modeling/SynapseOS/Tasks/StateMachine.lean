import SynapseOS.Core.Text
import SynapseOS.Tasks.Session

/-! The task state machine (`core/tasks/state_machine.py`) and the guard of the flush
(`infrastructure/database/task_status_guard.py`). -/

namespace SynapseOS.Tasks

open Execution Program Tools Workflows

def allowedTaskTransitions : TaskStatus → List TaskStatus
  | .backlog => [.ready, .waitingHuman, .cancelled]
  | .ready => [.assigned, .waitingHuman, .cancelled]
  | .assigned => [.inProgress, .blocked, .waitingHuman, .cancelled]
  | .inProgress => [.waitingReview, .blocked, .failed, .waitingHuman, .cancelled]
  | .waitingReview => [.changesRequested, .waitingQa, .waitingHuman, .cancelled]
  | .changesRequested => [.inProgress, .blocked, .waitingHuman, .cancelled]
  | .waitingQa => [.changesRequested, .waitingSecurity, .failed, .waitingHuman, .cancelled]
  | .waitingSecurity => [.changesRequested, .completed, .failed, .waitingHuman, .cancelled]
  | .blocked => [.ready, .waitingHuman, .cancelled]
  | .waitingHuman => [.ready, .cancelled]
  | .completed => []
  | .failed => [.ready, .waitingHuman, .cancelled]
  | .cancelled => []

def canTransition (current target : TaskStatus) : Bool :=
  decide (target ∈ allowedTaskTransitions current)

theorem canTransition_ne {current target : TaskStatus}
    (allowed : canTransition current target = true) :
    current ≠ target := by
  rintro rfl
  cases current <;> cases allowed

def authorizeTaskStatusChange (task : UUID) (current target : TaskStatus) (event : Nat) :
    Program Session Exn Unit := do
  let session ← look
  match session.authorizations.get task with
  | none =>
      update fun session => { session with
        authorizations := session.authorizations.set task ⟨current, target, [event]⟩ }
  | some existing =>
      if existing.target ≠ current then raise .other
      else
        update fun session => { session with
          authorizations := session.authorizations.set task
            ⟨existing.current, target, existing.events ++ [event]⟩ }

structure TransitionContext where
  actorType : AuditActorType
  actorId : Option PyStr
  reason : PyStr
  metadata : Metadata := []
  correlationId : Option UUID := none

def TransitionContext.valid (context : TransitionContext) : Bool :=
  decide (strip context.reason ≠ []) &&
    (decide (context.actorType = .system) || decide (strip (context.actorId.getD []) ≠ []))

def transitionEvent (context : TransitionContext) (task project : UUID)
    (current target : TaskStatus) : AuditEvent where
  actorType := some context.actorType
  actorId := context.actorId.map strip
  projectId := project
  taskId := task
  eventType := .taskStatusChanged
  action := .transitionTaskStatus
  resourceType := none
  result := .succeeded
  data := .transition current target (strip context.reason) context.metadata
  correlationId := context.correlationId

def transition (calls : Calls) (task : UUID) (target : TaskStatus) (context : TransitionContext) :
    Program Session Exn Unit := do
  call calls .inspect
  if context.valid = false then raise .transitionValidation
  else do
    let row ← readTask task
    if canTransition row.status target = false then raise (.invalidTransition row.status target)
    else do
      call calls .metadata
      let session ← look
      authorizeTaskStatusChange task row.status target session.nextEvent
      call calls (.add .taskStatusChanged)
      addEvent (transitionEvent context task row.projectId row.status target)
      writeStatus task target

section Guard

variable (session : Session)

/-- The walk of `_has_matching_audit_chain`: the status at which the events arrive. -/
def auditChain (task : UUID) (project : Option UUID) : TaskStatus → List Nat → Option TaskStatus
  | expected, [] => some expected
  | expected, event :: rest =>
      match session.new.get event with
      | none => none
      | some event =>
          match event.data with
          | .fields _ => none
          | .transition current target reason _ =>
              if event.taskId = task ∧ some event.projectId = project ∧
                  event.eventType = .taskStatusChanged ∧ event.action = .transitionTaskStatus ∧
                  event.result = .succeeded ∧ event.actorType.isSome ∧
                  (event.actorType = some .system ∨ strip (event.actorId.getD []) ≠ []) ∧
                  current = expected ∧ strip reason ≠ [] then
                auditChain task project target rest
              else none

def hasMatchingAuditChain (task : UUID) (authorization : Authorization) : Bool :=
  decide (auditChain session task ((session.view task).map TaskRow.projectId) authorization.current
    authorization.events = some authorization.target)

/-- The first loop of the guard, for one dirty task. -/
def rejectChange (task : UUID) (object : TaskObject) : Option Exn :=
  match object.status.history with
  | none => none
  | some (current, target) =>
      match session.authorizations.get task with
      | none => some (.unauthorizedStatusChange current target)
      | some authorization =>
          if authorization.current ≠ current ∨ authorization.target ≠ target ∨
              hasMatchingAuditChain session task authorization = false then
            some (.unauthorizedStatusChange current target)
          else none

/-- The second loop of the guard, for one authorization. -/
def rejectLeftover (task : UUID) (authorization : Authorization) : Option Exn :=
  match (session.object task).status.history with
  | some _ => none
  | none => some (.unauthorizedStatusChange authorization.current authorization.target)

def rejectUnauthorizedTaskStatusChanges : Option Exn :=
  match session.objects.entries.findSome? fun entry => rejectChange session entry.1 entry.2 with
  | some e => some e
  | none => session.authorizations.entries.findSome? fun entry =>
      rejectLeftover session entry.1 entry.2

def Session.flushed : Session :=
  { session with
    working :=
      { tasks := session.working.tasks.mapValues fun task row => (session.object task).stored row
        audits := session.working.audits ++ session.new.entries.map Prod.snd }
    objects := session.objects.mapValues fun _ object => object.flushed
    new := .empty
    authorizations := .empty }

def Session.restored : Session :=
  { session with
    working := session.committed
    objects := session.objects.mapValues fun _ _ => {}
    new := .empty }

/-- The session after a rollback; the listeners of the guard clear its authorizations. -/
def Session.rolledBack : Session := { session.restored with authorizations := .empty }

end Guard

/-- `session.flush`. One that fails in the database rolls the transaction back. -/
def flush (calls : Calls) : Program Session Exn Unit := do
  call calls .beforeFlush
  let session ← look
  match rejectUnauthorizedTaskStatusChanges session with
  | some e => raise e
  | none =>
      match calls .flush with
      | none => update Session.flushed
      | some e => do
          update Session.rolledBack
          raise e

/-- `session.commit`: everything persists, or the call raises and nothing does. -/
def commit (calls : Calls) : Program Session Exn Unit := do
  flush calls
  call calls .commit
  update fun session => { session with committed := session.working }

/-- `session.rollback`. When the connection fails to roll back, the session restores its snapshot
all the same, but the listeners do not hear of it. -/
def rollback (calls : Calls) : Program Session Exn Unit :=
  match calls .rollback with
  | none => update Session.rolledBack
  | some e => do
      update Session.restored
      raise e

section Calls

variable {σ β : Type} {calls : Calls} {site : Call} {rest : Unit → Program σ Exn β} {s : σ}

theorem call_passes (passes : calls site = none) : (call calls site >>= rest) s = rest () s := by
  unfold call
  rw [passes]
  rfl

theorem call_raises {e : Exn} (raises : calls site = some e) :
    (call calls site >>= rest) s = (.error e, s) := by
  unfold call
  rw [raises]
  rfl

end Calls

section Views

variable {session : Session} {task : UUID} {row : TaskRow}

theorem view_row (held : session.working.tasks.get task = some row) :
    session.view task = some ((session.object task).stored row) := by
  unfold Session.view
  rw [held]
  rfl

theorem view_absent (absent : session.working.tasks.get task = none) :
    session.view task = none := by
  unfold Session.view
  rw [absent]
  rfl

theorem readTask_row (held : session.working.tasks.get task = some row) :
    readTask task session = (.ok ((session.object task).stored row), session) := by
  unfold readTask
  rw [look_run, view_row held]
  rfl

theorem readTask_absent (absent : session.working.tasks.get task = none) :
    readTask task session = (.error (.sqlalchemy false), session) := by
  unfold readTask
  rw [look_run, view_absent absent]
  rfl

def edited (session : Session) (task : UUID) (object : TaskObject) : Session :=
  { session with objects := session.objects.set task object }

theorem editTask_row (edit : TaskRow → TaskObject → TaskObject)
    (held : session.working.tasks.get task = some row) :
    editTask task edit session = (.ok (),
      edited session task (edit row (session.object task))) := by
  unfold editTask
  rw [look_run, held]
  rfl

theorem editTask_absent (edit : TaskRow → TaskObject → TaskObject)
    (absent : session.working.tasks.get task = none) :
    editTask task edit session = (.error (.sqlalchemy false), session) := by
  unfold editTask
  rw [look_run, absent]
  rfl

end Views

section Transition

variable {session : Session} {task : UUID} {row : TaskRow} {target : TaskStatus}
  {context : TransitionContext} {calls : Calls}

def extended (existing : Option Authorization) (current target : TaskStatus) (event : Nat) :
    Option Authorization :=
  match existing with
  | none => some ⟨current, target, [event]⟩
  | some existing =>
      if existing.target = current then some ⟨existing.current, target, existing.events ++ [event]⟩
      else none

def transitioned (session : Session) (task : UUID) (target : TaskStatus)
    (context : TransitionContext) (row : TaskRow) (authorization : Authorization) : Session :=
  let object := session.object task
  let shown := object.stored row
  { session with
    authorizations := session.authorizations.set task authorization
    new := session.new.set session.nextEvent
      (transitionEvent context task shown.projectId shown.status target)
    nextEvent := session.nextEvent + 1
    objects := session.objects.set task
      { object with status := object.status.set row.status target } }

theorem authorize_cases (current : TaskStatus) (event : Nat) :
    authorizeTaskStatusChange task current target event session =
      match extended (session.authorizations.get task) current target event with
      | none => (.error .other, session)
      | some authorization =>
          (.ok (), { session with
            authorizations := session.authorizations.set task authorization }) := by
  unfold authorizeTaskStatusChange extended
  rw [look_run]
  cases session.authorizations.get task with
  | none => rfl
  | some existing =>
      by_cases same : existing.target = current
      · simp only [same, ne_eq, not_true_eq_false, if_false, if_true]
        rfl
      · simp only [same, ne_eq, not_false_eq_true, if_true, if_false]
        rfl

/-- Until it is authorized a transition changes nothing, and then nothing but `add` can stop it. -/
theorem transition_cases (adds : calls (.add .taskStatusChanged) = none) :
    (∃ e, transition calls task target context session = (.error e, session)) ∨
      ∃ row authorization, session.working.tasks.get task = some row ∧ context.valid = true ∧
        canTransition ((session.object task).stored row).status target = true ∧
        extended (session.authorizations.get task) ((session.object task).stored row).status target
          session.nextEvent = some authorization ∧
        transition calls task target context session =
          (.ok (), transitioned session task target context row authorization) := by
  unfold transition
  cases inspected : calls .inspect with
  | some e =>
      rw [call_raises inspected]
      exact .inl ⟨e, rfl⟩
  | none =>
      rw [call_passes inspected]
      cases valid : context.valid with
      | false => exact .inl ⟨_, rfl⟩
      | true =>
          rw [if_neg (by simp)]
          cases held : session.working.tasks.get task with
          | none =>
              rw [run_error (readTask_absent held)]
              exact .inl ⟨_, rfl⟩
          | some row =>
              rw [run_ok (readTask_row held)]
              cases allowed : canTransition ((session.object task).stored row).status target with
              | false => exact .inl ⟨_, rfl⟩
              | true =>
                  rw [if_neg (by simp)]
                  cases copied : calls .metadata with
                  | some e =>
                      rw [call_raises copied]
                      exact .inl ⟨e, rfl⟩
                  | none =>
                      rw [call_passes copied, look_run]
                      have authorizes : authorizeTaskStatusChange task
                          ((session.object task).stored row).status target
                            session.nextEvent session = _ := authorize_cases _ _
                      cases next : extended (session.authorizations.get task)
                          ((session.object task).stored row).status target session.nextEvent with
                      | none =>
                          rw [next] at authorizes
                          rw [run_error authorizes]
                          exact .inl ⟨_, rfl⟩
                      | some authorization =>
                          rw [next] at authorizes
                          rw [run_ok authorizes, call_passes adds]
                          refine .inr ⟨row, authorization, rfl, rfl, allowed, next, ?_⟩
                          exact editTask_row (fun row object =>
                            { object with status := object.status.set row.status target }) held

end Transition

section Flush

variable {session : Session}

theorem flush_refused {e : Exn} (refused : rejectUnauthorizedTaskStatusChanges session = some e)
    {calls : Calls} (started : calls .beforeFlush = none) :
    flush calls session = (.error e, session) := by
  unfold flush
  rw [call_passes started, look_run, refused]
  rfl

theorem flush_accepted (accepted : rejectUnauthorizedTaskStatusChanges session = none)
    {calls : Calls} (started : calls .beforeFlush = none) (works : calls .flush = none) :
    flush calls session = (.ok (), session.flushed) := by
  unfold flush
  rw [call_passes started, look_run, accepted]
  dsimp only
  rw [works]
  rfl

/-- A flush that raises leaves the session as it was, or rolled back. -/
theorem flush_cases (calls : Calls) :
    (∃ e, flush calls session = (.error e, session)) ∨
      (∃ e, calls .flush = some e ∧ flush calls session = (.error e, session.rolledBack)) ∨
      (rejectUnauthorizedTaskStatusChanges session = none ∧
        flush calls session = (.ok (), session.flushed)) := by
  cases started : calls .beforeFlush with
  | some e => exact .inl ⟨e, call_raises started⟩
  | none =>
      cases rejected : rejectUnauthorizedTaskStatusChanges session with
      | some e => exact .inl ⟨e, flush_refused rejected started⟩
      | none =>
          cases works : calls .flush with
          | none => exact .inr (.inr ⟨rfl, flush_accepted rejected started works⟩)
          | some e =>
              refine .inr (.inl ⟨e, rfl, ?_⟩)
              unfold flush
              rw [call_passes started, look_run, rejected]
              dsimp only
              rw [works]
              rfl

def Session.persisted (session : Session) : Session :=
  { session.flushed with committed := session.flushed.working }

theorem commit_cases (calls : Calls) :
    (∃ e t, commit calls session = (.error e, t) ∧ t.committed = session.committed) ∨
      (rejectUnauthorizedTaskStatusChanges session = none ∧
        commit calls session = (.ok (), session.persisted)) := by
  rcases flush_cases calls with ⟨e, raised⟩ | ⟨e, _, raised⟩ | ⟨accepted, returned⟩
  · exact .inl ⟨e, session, run_error raised, rfl⟩
  · exact .inl ⟨e, session.rolledBack, run_error raised, rfl⟩
  · cases works : calls .commit with
    | some e => exact .inl ⟨e, session.flushed, (run_ok returned).trans (call_raises works), rfl⟩
    | none => exact .inr ⟨accepted, (run_ok returned).trans (call_passes works)⟩

end Flush

end SynapseOS.Tasks
