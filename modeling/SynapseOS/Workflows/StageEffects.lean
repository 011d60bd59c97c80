import SynapseOS.Workflows.StageAudit

/-! What the checkpoints of a stage do to the database. -/

namespace SynapseOS.Workflows

open Execution Program Tasks Tools

def connected (db : Database) : Session where
  committed := db
  working := db
  objects := .empty
  new := .empty
  authorizations := .empty
  nextEvent := 0

structure Wrote (db after : Database) (task : UUID) (row : TaskRow) (events : List AuditEvent) :
    Prop where
  own : after.tasks.get task = some row
  others : ∀ other, other ≠ task → after.tasks.get other = db.tasks.get other
  audits : after.audits = db.audits ++ events

def Quiet (calls : Calls) : Prop := ∀ site, calls site = none

section Checkpoint

variable {handling : Handling} {calls : Calls} {task : UUID} {status : TaskStatus}
    {agent : Option UUID}
  {stage : Program Session Exn Unit} {s : Session} {row : TaskRow}

theorem call_run {site : Call} (passes : calls site = none) :
    (call calls site : Program Session Exn Unit) s = (.ok (), s) := by
  unfold call
  rw [passes]
  rfl

theorem recovered_committed (snapshot : Option TaskRow) :
    (Recovered handling calls task snapshot s).committed = s.committed := by
  unfold Recovered
  split <;> rfl

theorem failCheckpoint_quiet {connected : Bool} {snapshot : Option TaskRow} {e : Exn}
    (quiet : Quiet calls)
    (caught : e.isException = true) : failCheckpoint handling calls task connected snapshot e s =
      (.error (handling.normalize e), Recovered handling calls task snapshot s) := by
  unfold failCheckpoint
  rw [caught, if_neg (by simp), run_ok (recover_run connected snapshot s), quiet .rollback]
  rfl

theorem open_quiet (quiet : Quiet calls) (held : s.working.tasks.get task = some row) :
    openCheckpoint handling calls task status agent s =
      (if row.status ≠ status ∨ row.assignedAgentId ≠ agent then .error handling.mismatch
        else .ok row, edited s task (.load row)) := by
  unfold openCheckpoint lockedExpectedTask
  rw [call_passes (quiet .configure), call_passes (quiet .lock), look_run, held]
  dsimp only
  rw [update_run]
  split <;> rfl

theorem checkpoint_mismatch (quiet : Quiet calls) (held : s.working.tasks.get task = some row)
    (elsewhere : row.status ≠ status ∨ row.assignedAgentId ≠ agent)
    (caught : handling.mismatch.isException = true) :
    (commitCheckpoint handling calls task status agent stage s).1 =
      .error (handling.normalize handling.mismatch) := by
  have opened : openCheckpoint handling calls task status agent s = _ := open_quiet quiet held
  rw [if_pos elsewhere] at opened
  unfold commitCheckpoint
  rw [run_attempt (call_run (quiet .connection))]
  dsimp only
  rw [run_attempt opened]
  dsimp only
  rw [failCheckpoint_quiet quiet caught]

theorem checkpoint_refused {e : Exn} {u : Session} (quiet : Quiet calls)
    (held : s.working.tasks.get task = some row)
    (expected : row.status = status) (assigned : row.assignedAgentId = agent)
    (refused : stage (edited s task (.load row)) = (.error e, u)) (caught : e.isException = true) :
    (commitCheckpoint handling calls task status agent stage s).1 = .error
      (handling.normalize e) := by
  have opened : openCheckpoint handling calls task status agent s = _ := open_quiet quiet held
  rw [if_neg (by simp [expected, assigned])] at opened
  unfold commitCheckpoint
  rw [run_attempt (call_run (quiet .connection))]
  dsimp only
  rw [run_attempt opened]
  dsimp only
  rw [run_attempt (run_error refused)]
  dsimp only
  rw [failCheckpoint_quiet quiet caught]

theorem checkpoint_works {u : Session} (quiet : Quiet calls)
    (held : s.working.tasks.get task = some row)
    (expected : row.status = status) (assigned : row.assignedAgentId = agent)
    (staged : stage (edited s task (.load row)) = (.ok (), u))
    (accepted : rejectUnauthorizedTaskStatusChanges u = none) :
    commitCheckpoint handling calls task status agent stage s = (.ok (), u.persisted) := by
  have opened : openCheckpoint handling calls task status agent s = _ := open_quiet quiet held
  rw [if_neg (by simp [expected, assigned])] at opened
  have commits : commit calls u = (.ok (), u.persisted) := by
    have flushes : flush calls u = (.ok (), u.flushed) :=
      flush_accepted accepted (quiet .beforeFlush) (quiet .flush)
    unfold Tasks.commit
    rw [run_ok flushes, call_passes (quiet .commit)]
    rfl
  unfold commitCheckpoint
  rw [run_attempt (call_run (quiet .connection))]
  dsimp only
  rw [run_attempt opened]
  dsimp only
  rw [run_attempt ((run_ok staged).trans commits)]
  rfl

end Checkpoint

section Staged

variable {db : Database} {task : UUID} {row : TaskRow}

def locked (db : Database) (task : UUID) (row : TaskRow) : Session :=
  edited (connected db) task (.load row)

theorem locked_object : (locked db task row).object task = .load row := by
  unfold locked
  rw [object_set, if_pos rfl]

def noted (s : Session) (event : AuditEvent) : Session :=
  { s with
    new := s.new.set s.nextEvent event
    nextEvent := s.nextEvent + 1 }

theorem noted_accepted (event : AuditEvent) :
    rejectUnauthorizedTaskStatusChanges (noted (locked db task row) event) = none := rfl

theorem noted_wrote (held : db.tasks.get task = some row) (event : AuditEvent) :
    Wrote db (noted (locked db task row) event).persisted.committed task row [event] where
  own := by
    show (db.tasks.mapValues fun key value =>
      ((noted (locked db task row) event).object key).stored value).get
      task = some row
    rw [Dict.get_mapValues, held]
    have same : (noted (locked db task row) event).object task = .load row := locked_object
    rw [Option.map_some, same]
    rfl
  others other different := by
    show (db.tasks.mapValues fun key value =>
      ((noted (locked db task row) event).object key).stored value).get
      other = db.tasks.get other
    rw [Dict.get_mapValues]
    have same : (noted (locked db task row) event).object other = {} := by
      show (locked db task row).object other = {}
      unfold locked
      rw [object_set, if_neg (Ne.symm different)]
      rfl
    rw [same]
    cases db.tasks.get other <;> rfl
  audits := rfl

theorem locked_view (held : db.tasks.get task = some row) :
    (locked db task row).view task = some row := by
  have there : (locked db task row).working.tasks.get task = some row := held
  rw [view_row there, locked_object]
  rfl

def moved (db : Database) (task : UUID) (row : TaskRow) (target : TaskStatus)
    (context : TransitionContext) : Session :=
  transitioned (locked db task row) task target context row ⟨row.status, target, [0]⟩

def movedEvent (task : UUID) (row : TaskRow) (target : TaskStatus) (context : TransitionContext) :
    AuditEvent :=
  transitionEvent context task row.projectId row.status target

variable {target : TaskStatus} {context : TransitionContext} {calls : Calls}

theorem moved_object (context : TransitionContext) :
    (moved db task row target context).object task =
    { (TaskObject.load row) with status :=
      (TaskObject.load row).status.set row.status target } := by
  show (edited (locked db task row) task
    { (locked db task row).object task with
      status := ((locked db task row).object task).status.set row.status target }).object task = _
  rw [object_set, if_pos rfl, locked_object]

theorem moved_new : (moved db task row target context).new =
    Dict.empty.set 0 (movedEvent task row target context) := by
  unfold moved transitioned movedEvent
  rw [locked_object]
  rfl

theorem moved_view (context : TransitionContext) (held : db.tasks.get task = some row) :
    (moved db task row target context).view task =
    some { row with status := target } := by
  have there : (moved db task row target context).working.tasks.get task = some row := held
  rw [view_row there, moved_object]
  rfl

theorem transition_quiet (quiet : Quiet calls) (held : db.tasks.get task = some row)
    (valid : context.valid = true) (allowed : canTransition row.status target = true) :
    transition calls task target context (locked db task row) =
      (.ok (), moved db task row target context) := by
  have there : (locked db task row).working.tasks.get task = some row := held
  have stored : ((locked db task row).object task).stored row = row := by
    rw [locked_object]
    rfl
  have authorizes : authorizeTaskStatusChange task row.status target (locked db task row).nextEvent
      (locked db task row) = _ := authorize_cases _ _
  let granted : Session :=
    noted { locked db task row with
      authorizations := (locked db task row).authorizations.set task ⟨row.status, target, [0]⟩ }
      (transitionEvent context task row.projectId row.status target)
  let setStatus (row : TaskRow) (object : TaskObject) : TaskObject :=
    { object with status := object.status.set row.status target }
  have still_there : granted.working.tasks.get task = some row := held
  have edits : editTask task setStatus granted =
      (.ok (), edited granted task (setStatus row (granted.object task))) :=
        editTask_row setStatus still_there
  have result :
      moved db task row target context = edited granted task
        (setStatus row (granted.object task)) := by
    unfold moved transitioned
    dsimp only
    rw [stored]
    rfl
  rw [result]
  unfold transition
  rw [call_passes (quiet .inspect), valid, if_neg (by simp), run_ok (readTask_row there),
    stored, allowed,
    if_neg (by simp), call_passes (quiet .metadata), look_run, run_ok authorizes,
    call_passes (quiet _)]
  exact edits

theorem transition_returned {s u : Session}
    (run : transition calls task target context s = (.ok (), u)) :
    calls (.add .taskStatusChanged) = none := by
  cases adds : calls (.add .taskStatusChanged) with
  | none => rfl
  | some e =>
      unfold transition at run
      obtain ⟨_, _, _, run⟩ := run_returned run
      split at run
      · cases run
      · obtain ⟨_, _, _, run⟩ := run_returned run
        split at run
        · cases run
        · obtain ⟨_, _, _, run⟩ := run_returned run
          rw [look_run] at run
          obtain ⟨_, _, _, run⟩ := run_returned run
          rw [call_raises adds] at run
          cases run

theorem transition_moved {u : Session} (held : db.tasks.get task = some row)
    (run : transition calls task target context (locked db task row) = (.ok (), u)) :
    context.valid = true ∧ canTransition row.status target = true ∧
      u = moved db task row target context := by
  have stored : ((locked db task row).object task).stored row = row := by
    rw [locked_object]
    rfl
  rcases transition_cases (transition_returned run) with ⟨e, raised⟩ |
    ⟨found, authorization, there, valid, allowed, extends_, returned⟩
  · rw [raised] at run
    cases run
  · have same : found = row := Option.some.inj (there.symm.trans held)
    subst same
    rw [stored] at allowed extends_
    rw [returned] at run
    cases run
    refine ⟨valid, allowed, ?_⟩
    unfold moved
    cases extends_
    rfl

theorem moved_entries (context : TransitionContext) :
    (moved db task row target context).objects.entries =
    [(task, { (TaskObject.load row)
      with status := (TaskObject.load row).status.set row.status target })] := by
  have only : (locked db task row).objects.entries = [(task, .load row)] := rfl
  unfold moved transitioned
  rw [locked_object]
  show Assoc.set task _ (locked db task row).objects.entries = _
  rw [only]
  exact if_pos rfl

theorem moved_chain (held : db.tasks.get task = some row) (valid : context.valid = true)
    (event : AuditEvent) :
    hasMatchingAuditChain (noted (moved db task row target context) event) task
      ⟨row.status, target, [0]⟩ = true := by
  have found : (noted (moved db task row target context) event).new.get 0 =
      some (movedEvent task row target context) := by
    unfold noted
    rw [moved_new]
    rfl
  have logged : ∀ made ∈ [(⟨0, row.status, target⟩ : Made)],
      Logged (noted (moved db task row target context) event) task made := by
    intro made single
    rw [List.mem_singleton.mp single]
    refine ⟨Nat.succ_pos _, fun other there => ?_⟩
    rw [found] at there
    exact ⟨context, row.projectId, valid, (Option.some.inj there).symm⟩
  have seen : (noted (moved db task row target context) event).view task =
      some { row with status := target } :=
    moved_view context held
  unfold hasMatchingAuditChain
  rw [seen, decide_eq_true_eq]
  refine (auditChain_links logged row.projectId row.status target).mpr ⟨⟨rfl, rfl⟩,
    fun made single => ?_⟩
  rw [List.mem_singleton.mp single]
  exact ⟨movedEvent task row target context, found, rfl⟩

theorem moved_accepted (held : db.tasks.get task = some row) (valid : context.valid = true)
    (allowed : canTransition row.status target = true) (event : AuditEvent) :
    rejectUnauthorizedTaskStatusChanges (noted (moved db task row target context) event) =
      none := by
  have objects : (noted (moved db task row target context) event).objects.entries = _ :=
    moved_entries context
  have changed : ((TaskObject.load row).status.set row.status target).history =
      some (row.status, target) :=
    if_neg (canTransition_ne allowed)
  have grants : (noted (moved db task row target context) event).authorizations.get task =
      some ⟨row.status, target, [0]⟩ := Dict.get_set_self Dict.empty task _
  have granted : (noted (moved db task row target context) event).authorizations.entries =
      [(task, ⟨row.status, target, [0]⟩)] := rfl
  have change : rejectChange (noted (moved db task row target context) event) task
      { (TaskObject.load row) with status := (TaskObject.load row).status.set row.status target } =
        none := by
    unfold rejectChange
    rw [changed]
    dsimp only
    rw [grants]
    dsimp only
    rw [moved_chain held valid]
    simp
  have leftover : rejectLeftover (noted (moved db task row target context) event) task
      ⟨row.status, target, [0]⟩ = none := by
    have object : (noted (moved db task row target context) event).object task = _ :=
      moved_object context
    unfold rejectLeftover
    rw [object]
    dsimp only
    rw [changed]
  unfold rejectUnauthorizedTaskStatusChanges
  rw [objects, granted]
  simp only [List.findSome?_cons, List.findSome?_nil, change, leftover]

theorem moved_wrote (held : db.tasks.get task = some row) (event : AuditEvent) :
    Wrote db (noted (moved db task row target context) event).persisted.committed task
      { row with status := target } [movedEvent task row target context, event] where
  own := by
    show (db.tasks.mapValues fun key value =>
      ((noted (moved db task row target context) event).object key).stored value).get task = _
    have object : (noted (moved db task row target context) event).object task = _ :=
      moved_object context
    rw [Dict.get_mapValues, held, Option.map_some, object]
    rfl
  others other different := by
    show (db.tasks.mapValues fun key value =>
      ((noted (moved db task row target context) event).object key).stored value).get other =
        db.tasks.get other
    have object : (noted (moved db task row target context) event).object other = {} := by
      show (edited (locked db task row) task _).object other = {}
      unfold locked
      rw [object_set, if_neg (Ne.symm different), object_set, if_neg (Ne.symm different)]
      rfl
    rw [Dict.get_mapValues, object]
    cases db.tasks.get other <;> rfl
  audits := by
    show db.audits ++ ((moved db task row target context).new.set 1 event).entries.map Prod.snd = _
    rw [moved_new]
    rfl

end Staged

section Programs

variable {stage : Stage} {calls : Calls} {scope : StageScope} {type : EventType} {data : Metadata}
  {target : TaskStatus} {context : TransitionContext} {db : Database} {row : TaskRow}
  {s u : Session}

theorem keeps_stageEvent : Keeps SameCommitted (stageEvent stage calls scope type data) := by
  unfold stageEvent
  refine keeps_bind sameCommitted_trans (keeps_still (fun _ => rfl) still_readTask) fun row => ?_
  exact keeps_bind sameCommitted_trans keeps_call fun _ => keeps_addEvent _

theorem queryRows_passes (passes : calls .query = none) :
    queryRows calls s = (.ok s.working.audits, s) := by
  unfold queryRows
  rw [call_passes passes]
  rfl

theorem queryRows_raises {e : Exn} (raises : calls .query = some e) :
    queryRows calls s = (.error e, s) := by
  unfold queryRows
  rw [call_raises raises]

theorem queryRows_returned {rows : List AuditEvent} (run : queryRows calls s = (.ok rows, u)) :
    rows = s.working.audits ∧ u = s := by
  cases queried : calls .query with
  | none =>
      rw [queryRows_passes queried] at run
      cases run
      exact ⟨rfl, rfl⟩
  | some e =>
      rw [queryRows_raises queried] at run
      cases run

theorem still_queryRows : Still (queryRows calls) := by
  intro s
  cases queried : calls .query with
  | none => rw [queryRows_passes queried]
  | some e => rw [queryRows_raises queried]

theorem keeps_stageStarted : Keeps SameCommitted (stageStarted stage calls scope) := by
  unfold stageStarted
  refine keeps_bind sameCommitted_trans (keeps_still (fun _ => rfl) still_queryRows) fun rows => ?_
  split
  · exact keeps_still (fun _ => rfl) (still_raise _)
  · exact keeps_stageEvent

def stageMoves (stage : Stage) (calls : Calls) (scope : StageScope) (target : TaskStatus)
    (context : TransitionContext) (type : EventType) (data : Metadata) : Program Session Exn Unit :=
  do
  requireMatchingStart stage calls scope
  transition calls scope.task target context
  stageEvent stage calls scope type data

theorem keeps_stageMoves : Keeps SameCommitted
    (stageMoves stage calls scope target context type data) := by
  unfold stageMoves requireMatchingStart
  refine keeps_bind sameCommitted_trans ?_ fun _ => ?_
  · refine keeps_bind sameCommitted_trans (keeps_still (fun _ => rfl) still_queryRows) fun rows =>
      ?_
    split
    · exact keeps_still (fun _ => rfl) (still_pure ())
    · exact keeps_still (fun _ => rfl) (still_raise _)
  · exact keeps_bind sameCommitted_trans keeps_transition fun _ => keeps_stageEvent

theorem stageEvent_returned (shown : s.view scope.task = some row)
    (run : stageEvent stage calls scope type data s = (.ok (), u)) :
    u = noted s (checkpointEvent stage scope type row.projectId data) := by
  have reads : readTask scope.task s = (.ok row, s) := by
    unfold readTask
    rw [look_run, shown]
    rfl
  unfold stageEvent at run
  rw [run_ok reads] at run
  obtain ⟨_, t, called, run⟩ := run_returned run
  have same : t = s := still_end still_call called
  rw [same] at run
  cases run
  rfl

theorem stageEvent_quiet (quiet : Quiet calls) (shown : s.view scope.task = some row) :
    stageEvent stage calls scope type data s =
      (.ok (), noted s (checkpointEvent stage scope type row.projectId data)) := by
  have reads : readTask scope.task s = (.ok row, s) := by
    unfold readTask
    rw [look_run, shown]
    rfl
  unfold stageEvent
  rw [run_ok reads, call_passes (quiet _)]
  rfl

def startedEvent (stage : Stage) (scope : StageScope) (row : TaskRow) : AuditEvent :=
  checkpointEvent stage scope (.started stage) row.projectId (startedData stage scope)

theorem stageStarted_returned (held : db.tasks.get scope.task = some row)
    (run : stageStarted stage calls scope (locked db scope.task row) = (.ok (), u)) :
    startRefused db.audits scope stage = false ∧
      u = noted (locked db scope.task row) (startedEvent stage scope row) := by
  unfold stageStarted at run
  obtain ⟨rows, t, queried, run⟩ := run_returned run
  obtain ⟨rfl, rfl⟩ := queryRows_returned queried
  split at run
  · cases run
  · next admitted => exact ⟨Bool.eq_false_iff.mpr admitted,
      stageEvent_returned (locked_view held) run⟩

theorem stageStarted_quiet (quiet : Quiet calls) (held : db.tasks.get scope.task = some row)
    (admitted : startRefused db.audits scope stage = false) :
    stageStarted stage calls scope (locked db scope.task row) =
      (.ok (), noted (locked db scope.task row) (startedEvent stage scope row)) := by
  unfold stageStarted
  rw [run_ok (queryRows_passes (quiet .query))]
  have rows : startRefused (locked db scope.task row).working.audits scope stage = false := admitted
  rw [rows, if_neg nofun]
  exact stageEvent_quiet quiet (locked_view held)

theorem stageMoves_returned (held : db.tasks.get scope.task = some row)
    (run : stageMoves stage calls scope target context type data (locked db scope.task row) =
      (.ok (), u)) :
    hasMatchingStart db.audits scope stage = true ∧ context.valid = true ∧
      canTransition row.status target = true ∧
      u = noted (moved db scope.task row target context)
        (checkpointEvent stage scope type row.projectId data) := by
  unfold stageMoves requireMatchingStart at run
  obtain ⟨_, t, required, run⟩ := run_returned run
  obtain ⟨rows, m, queried, required⟩ := run_returned required
  obtain ⟨rfl, rfl⟩ := queryRows_returned queried
  split at required
  · next matching =>
      cases required
      obtain ⟨_, t, transitions, run⟩ := run_returned run
      obtain ⟨valid, allowed, rfl⟩ := transition_moved held transitions
      have shown : (moved db scope.task row target context).view scope.task =
          some { row with status := target } := moved_view context held
      have added := stageEvent_returned shown run
      exact ⟨matching, valid, allowed, added⟩
  · cases required

theorem stageMoves_quiet (quiet : Quiet calls) (held : db.tasks.get scope.task = some row)
    (matching : hasMatchingStart db.audits scope stage = true) (valid : context.valid = true)
    (allowed : canTransition row.status target = true) :
    stageMoves stage calls scope target context type data (locked db scope.task row) =
      (.ok (), noted (moved db scope.task row target context)
        (checkpointEvent stage scope type row.projectId data)) := by
  have required : requireMatchingStart stage calls scope (locked db scope.task row) =
      (.ok (), locked db scope.task row) := by
    unfold requireMatchingStart
    rw [run_ok (queryRows_passes (quiet .query))]
    exact congrFun (if_pos matching) _
  unfold stageMoves
  rw [run_ok required, run_ok (transition_quiet quiet held valid allowed)]
  have shown : (moved db scope.task row target context).view scope.task =
      some { row with status := target } := moved_view context held
  have added : stageEvent stage calls scope type data (moved db scope.task row target context) =
      _ :=
    stageEvent_quiet quiet shown
  exact added

theorem stageMoves_unmatched (quiet : Quiet calls)
    (unmatched : hasMatchingStart db.audits scope stage = false) :
    stageMoves stage calls scope target context type data (locked db scope.task row) =
      (.error (.stage stage .invalidState), locked db scope.task row) := by
  have refused : requireMatchingStart stage calls scope (locked db scope.task row) =
      (.error (.stage stage .invalidState), locked db scope.task row) := by
    unfold requireMatchingStart
    rw [run_ok (queryRows_passes (quiet .query))]
    exact congrFun (if_neg (by rw [Bool.not_eq_true]; exact unmatched)) _
  unfold stageMoves
  exact run_error refused

end Programs

section Checkpoints

variable {stage : Stage} {calls : Calls} {scope : StageScope} {db : Database} {row : TaskRow}
  {staged : Program Session Exn Unit}

structure Ready (stage : Stage) (scope : StageScope) (db : Database) (row : TaskRow) : Prop where
  held : db.tasks.get scope.task = some row
  waits : row.status = stage.waiting
  assigned : row.assignedAgentId = some scope.developerId

def Refusal (stage : Stage) (e : Exn) : Prop := e.isException = false ∨
    ∃ code, e = .stage stage code

/-- A checkpoint of a stage changes nothing, or finds the task ready and commits what it staged. -/
theorem stageCheckpoint_cases (keeps : Keeps SameCommitted staged) :
    (∃ e t, commitStageCheckpoint stage calls scope staged (connected db) = (.error e, t) ∧
      t.committed = db ∧ Refusal stage e) ∨
    ∃ row u, Ready stage scope db row ∧ staged (locked db scope.task row) = (.ok (), u) ∧
      commitStageCheckpoint stage calls scope staged (connected db) = (.ok (), u.persisted) := by
  unfold commitStageCheckpoint
  rcases checkpoint_cases keeps (connected db) with
    (⟨e, t, uncaught, same, run⟩ | ⟨e, code, u, _, normal, same, run⟩) |
    ⟨row, u, _, held, expected, assigned, run, _, ends⟩
  · exact .inl ⟨e, t, run, same, .inl uncaught⟩
  · refine .inl ⟨code, _, run, (recovered_committed _).trans same, .inr ?_⟩
    rcases normal with rfl | rfl
    · exact ⟨_, rfl⟩
    · exact ⟨_, rfl⟩
  · exact .inr ⟨row, u, ⟨held, expected, assigned⟩, run, ends⟩

theorem started_cases :
    (∃ e t, commitStartedCheckpoint stage calls scope (connected db) = (.error e, t) ∧
      t.committed = db ∧ Refusal stage e) ∨
    ∃ row t, Ready stage scope db row ∧ startRefused db.audits scope stage = false ∧
      commitStartedCheckpoint stage calls scope (connected db) = (.ok (), t) ∧
      Wrote db t.committed scope.task row [startedEvent stage scope row] := by
  unfold commitStartedCheckpoint
  rcases stageCheckpoint_cases keeps_stageStarted with refusal | ⟨row, u, ready, run, ends⟩
  · exact .inl refusal
  · obtain ⟨admitted, rfl⟩ := stageStarted_returned ready.held run
    exact .inr ⟨row, _, ready, admitted, ends, noted_wrote ready.held _⟩

theorem started_works (quiet : Quiet calls) (ready : Ready stage scope db row)
    (admitted : startRefused db.audits scope stage = false) :
    (commitStartedCheckpoint stage calls scope (connected db)).1 = .ok () := by
  have staged := stageStarted_quiet quiet ready.held admitted
  unfold commitStartedCheckpoint commitStageCheckpoint
  rw [checkpoint_works quiet ready.held ready.waits ready.assigned staged (noted_accepted _)]

theorem started_refused (quiet : Quiet calls) (ready : Ready stage scope db row)
    (refused : startRefused db.audits scope stage = true) :
    (commitStartedCheckpoint stage calls scope (connected db)).1 = .error
      (.stage stage .invalidState) := by
  have there : (connected db).working.tasks.get scope.task = some row := ready.held
  have staged : stageStarted stage calls scope (locked db scope.task row) =
      (.error (.stage stage .invalidState), locked db scope.task row) := by
    have rows : startRefused (locked db scope.task row).working.audits scope stage = true := refused
    unfold stageStarted
    rw [run_ok (queryRows_passes (quiet .query)), if_pos rows]
    rfl
  unfold commitStartedCheckpoint commitStageCheckpoint
  rw [checkpoint_refused quiet there ready.waits ready.assigned staged rfl]
  show Except.error (Exn.stage stage (if stage = stage then .invalidState else .internalFailure)) =
    _
  rw [if_pos rfl]

variable {target : TaskStatus} {context : TransitionContext} {type : EventType} {data : Metadata}

theorem moves_cases :
    (∃ e t, commitStageCheckpoint stage calls scope
      (stageMoves stage calls scope target context type data)
      (connected db) = (.error e, t) ∧ t.committed = db ∧ Refusal stage e) ∨
    ∃ row t, Ready stage scope db row ∧ hasMatchingStart db.audits scope stage = true ∧
      commitStageCheckpoint stage calls scope
        (stageMoves stage calls scope target context type data)
        (connected db) = (.ok (), t) ∧
      Wrote db t.committed scope.task { row with status := target }
        [movedEvent scope.task row target context,
          checkpointEvent stage scope type row.projectId data] := by
  rcases stageCheckpoint_cases keeps_stageMoves with refusal | ⟨row, u, ready, run, ends⟩
  · exact .inl refusal
  · obtain ⟨matching, _, _, rfl⟩ := stageMoves_returned ready.held run
    exact .inr ⟨row, _, ready, matching, ends, moved_wrote ready.held _⟩

theorem moves_quiet (quiet : Quiet calls) (held : db.tasks.get scope.task = some row)
    (valid : context.valid = true) (allowed : canTransition stage.waiting target = true) :
    (commitStageCheckpoint stage calls scope (stageMoves stage calls scope target context type data)
      (connected db)).1 =
      if row.status ≠ stage.waiting ∨ row.assignedAgentId ≠ some scope.developerId then
        .error (.stage stage .concurrentModification)
      else if hasMatchingStart db.audits scope stage = true then .ok ()
      else .error (.stage stage .invalidState) := by
  have there : (connected db).working.tasks.get scope.task = some row := held
  have own (code : StageErrorCode) : (stageHandling stage).normalize (.stage stage code) =
      .stage stage code := by
    show Exn.stage stage (if stage = stage then code else .internalFailure) = _
    rw [if_pos rfl]
  unfold commitStageCheckpoint
  split
  · next elsewhere =>
      rw [checkpoint_mismatch quiet there elsewhere rfl]
      exact congrArg Except.error (own _)
  · next ready =>
      rw [not_or, not_not, not_not] at ready
      split
      · next matching =>
          have step : canTransition row.status target = true := by
            rw [ready.1]
            exact allowed
          rw [checkpoint_works quiet there ready.1 ready.2
            (stageMoves_quiet quiet held matching valid step)
            (moved_accepted held valid step _)]
      · next unmatched =>
          rw [Bool.not_eq_true] at unmatched
          rw [checkpoint_refused quiet there ready.1 ready.2
            (stageMoves_unmatched quiet unmatched) rfl]
          exact congrArg Except.error (own _)

end Checkpoints

end SynapseOS.Workflows
