import Mathlib.Logic.Relation
import SynapseOS.Tasks.StateMachine

/-! Which status changes a flush accepts. A run keeps what was done to each task since the last
flush, next to the session that the code sees. -/

namespace SynapseOS.Tasks

open Execution Program Tools Workflows

structure Made where
  event : Nat
  current : TaskStatus
  target : TaskStatus

inductive Change
  | made (transition : Made)
  | written (current target : TaskStatus)

def Change.current : Change → TaskStatus
  | .made transition => transition.current
  | .written current _ => current

def Change.target : Change → TaskStatus
  | .made transition => transition.target
  | .written _ target => target

def Change.made? : Change → Option Made
  | .made transition => some transition
  | .written _ _ => none

structure Traced where
  session : Session
  changes : UUID → List Change

inductive Act
  | transition (task : UUID) (target : TaskStatus) (context : TransitionContext)
      (uncopied : Option Exn)
  | writeStatus (task : UUID) (status : TaskStatus)
  | writeProjectId (task project : UUID)
  | expunge (event : Nat)
  | flush
  | commit
  | rollback

/-- Only the copy of the metadata may raise. -/
def copying (uncopied : Option Exn) : Calls := fun site => if site = .metadata
    then uncopied else none

def quiet : Calls := fun _ => none

namespace Traced

variable (s : Traced)

def note (session : Session) (task : UUID) (change : Change) : Traced where
  session := session
  changes := Function.update s.changes task (s.changes task ++ [change])

def settle : Except Exn Unit × Session → Traced
  | (.ok _, session) => ⟨session, fun _ => []⟩
  | (.error _, session) => { s with session := session }

def step : Act → Traced
  | .transition task target context uncopied =>
      match s.session.view task, Tasks.transition (copying uncopied) task target context s.session
        with
      | some row, (.ok _, after) =>
          s.note after task (.made ⟨s.session.nextEvent, row.status, target⟩)
      | _, (_, after) => { s with session := after }
  | .writeStatus task status =>
      match s.session.view task with
      | some row =>
          let after := (Tasks.writeStatus task status s.session).2
          if row.status = status then { s with session := after }
          else s.note after task (.written row.status status)
      | none => s
  | .writeProjectId task project =>
      { s with session := (Tasks.writeProjectId task project s.session).2 }
  | .expunge event => { s with session := { s.session with new := s.session.new.pop event } }
  | .flush => s.settle (Tasks.flush quiet s.session)
  | .commit => s.settle (Tasks.commit quiet s.session)
  | .rollback => s.settle (Tasks.rollback quiet s.session)

def run (acts : List Act) : Traced := acts.foldl step s

def transitions (task : UUID) : List Made := (s.changes task).filterMap Change.made?

def persisted (task : UUID) : Option TaskStatus :=
  (s.session.working.tasks.get task).map TaskRow.status

def current (task : UUID) : Option TaskStatus := (s.session.view task).map TaskRow.status

end Traced

def Links : TaskStatus → List Made → TaskStatus → Prop
  | first, [], last => first = last
  | first, transition :: rest, last => transition.current = first ∧
      Links transition.target rest last

theorem links_concat {first middle last : TaskStatus} {front : List Made} (event : Nat)
    (links : Links first front middle) : Links first (front ++ [⟨event, middle, last⟩]) last := by
  induction front generalizing first with
  | nil => exact ⟨links.symm, rfl⟩
  | cons transition rest ih => exact ⟨links.1, ih links.2⟩

theorem links_unique {first last other : TaskStatus} {transitions : List Made}
    (one : Links first transitions last) (two : Links first transitions other) : last = other := by
  induction transitions generalizing first with
  | nil => exact one.symm.trans two
  | cons transition rest ih => exact ih one.2 two.2

section Properties

variable (s : Traced)

def Accepts : Prop := (flush quiet s.session).1 = .ok ()

/-- Every status change of the task was made by the state machine, from the persisted status to the
current one, along an allowed edge and with an event that is still pending. -/
structure Chained (task : UUID) : Prop where
  all : s.changes task = (s.transitions task).map Change.made
  linked : ∀ first last, s.persisted task = some first → s.current task = some last →
    Links first (s.transitions task) last
  allowed : ∀ made ∈ s.transitions task, canTransition made.current made.target = true
  recorded : ∀ made ∈ s.transitions task, (s.session.new.get made.event).isSome

/-- The task was transitioned, and is back at its persisted status or in another project than one of
its events says. -/
def Stuck (task : UUID) : Prop :=
  s.transitions task ≠ [] ∧
    (s.current task = s.persisted task ∨
      ∃ made ∈ s.transitions task, ∃ event, s.session.new.get made.event = some event ∧
        some event.projectId ≠ (s.session.view task).map TaskRow.projectId)

structure Explained (task : UUID) : Prop where
  linked : ∀ first last, s.persisted task = some first → s.current task = some last →
    Links first (s.transitions task) last
  recorded : ∀ made ∈ s.transitions task, (s.session.new.get made.event).isSome
  moves : ¬ Stuck s task

def Written (task : UUID) : Prop := ∃ current target, Change.written current target ∈ s.changes task

end Properties

inductive Course (first : TaskStatus) : List Change → TaskStatus → Prop
  | nil : Course first [] first
  | concat {front : List Change} {change : Change} (course : Course first front change.current)
      (different : change.current ≠ change.target) : Course first (front ++ [change]) change.target

def Agrees (status : Attribute TaskStatus) (row : TaskStatus) : Prop :=
  match status.original with
  | none => status.value = none ∨ status.value = some row
  | some original => original = row ∧ status.value.isSome

def Authorizes (transitions : List Made) : Option Authorization → Prop
  | none => transitions = []
  | some authorization =>
      transitions ≠ [] ∧ authorization.events = transitions.map Made.event ∧
        Links authorization.current transitions authorization.target

def Logged (session : Session) (task : UUID) (made : Made) : Prop :=
  made.event < session.nextEvent ∧
    ∀ event, session.new.get made.event = some event →
      ∃ context project, context.valid = true ∧
        event = transitionEvent context task project made.current made.target

structure Kept (s : Traced) (task : UUID) : Prop where
  agrees : ∀ row, s.session.working.tasks.get task = some row →
    Agrees (s.session.object task).status row.status
  course : ∀ first last, s.persisted task = some first → s.current task = some last →
    Course first (s.changes task) last
  untouched : s.session.working.tasks.get task = none →
    (s.session.object task).status = {} ∧ s.changes task = []
  authorizes : Authorizes (s.transitions task) (s.session.authorizations.get task)
  allowed : ∀ made ∈ s.transitions task, canTransition made.current made.target = true
  logged : ∀ made ∈ s.transitions task, Logged s.session task made

structure Opened (session : Session) : Prop where
  agrees : ∀ task row, session.working.tasks.get task = some row →
    (session.object task).status.original = none ∧
      ((session.object task).status.value = none ∨
        (session.object task).status.value = some row.status)
  untouched : ∀ task, session.working.tasks.get task = none → (session.object task).status = {}
  quiet : session.authorizations = .empty

def opening (session : Session) : Traced := ⟨session, fun _ => []⟩

section Steps

variable {s t : Traced} {task : UUID}

theorem current_eq : s.current task =
    (s.session.working.tasks.get task).map fun row =>
      (s.session.object task).status.read row.status := by
  unfold Traced.current Session.view
  rw [Option.map_map]
  rfl

theorem kept_opening {session : Session} (opened : Opened session) (task : UUID) :
    Kept (opening session) task where
  agrees row held := by
    obtain ⟨unset, value⟩ := opened.agrees task row held
    unfold Agrees
    rw [show (opening session).session = session from rfl, unset]
    exact value
  course first last starts ends := by
    have same : first = last := by
      rw [current_eq] at ends
      cases held : session.working.tasks.get task with
      | none => simp [Traced.persisted, opening, held] at starts
      | some row =>
          obtain ⟨_, value⟩ := opened.agrees task row held
          simp only [Traced.persisted, opening, held, Option.map_some, Option.some.injEq]
            at starts ends
          rw [← starts, ← ends]
          rcases value with none_ | some_ <;> simp [Attribute.read, *]
    subst same
    exact .nil
  untouched absent := ⟨opened.untouched task absent, rfl⟩
  authorizes := by
    show Authorizes [] (session.authorizations.get task)
    rw [opened.quiet]
    rfl
  allowed := nofun
  logged := nofun

theorem kept_frame (kept : Kept s task)
    (rows : t.session.working.tasks.get task = s.session.working.tasks.get task)
    (status : (t.session.object task).status = (s.session.object task).status)
    (changes : t.changes task = s.changes task)
    (authorization : t.session.authorizations.get task = s.session.authorizations.get task)
    (grows : s.session.nextEvent ≤ t.session.nextEvent)
    (events : ∀ number < s.session.nextEvent, ∀ event,
      t.session.new.get number = some event → s.session.new.get number = some event) :
    Kept t task := by
  have transitions : t.transitions task = s.transitions task := by
    unfold Traced.transitions
    rw [changes]
  have persisted : t.persisted task = s.persisted task := by
    unfold Traced.persisted
    rw [rows]
  have current : t.current task = s.current task := by
    rw [current_eq, current_eq, rows, status]
  constructor
  · intro row held
    rw [status]
    exact kept.agrees row (rows ▸ held)
  · intro first last starts ends
    rw [changes]
    exact kept.course first last (persisted ▸ starts) (current ▸ ends)
  · intro absent
    rw [status, changes]
    exact kept.untouched (rows ▸ absent)
  · rw [transitions, authorization]
    exact kept.authorizes
  · rw [transitions]
    exact kept.allowed
  · rw [transitions]
    intro made among
    obtain ⟨known, logged⟩ := kept.logged made among
    exact ⟨lt_of_lt_of_le known grows, fun event held => logged event (events _ known _ held)⟩

section Own

variable {row : TaskRow} (held : s.session.working.tasks.get task = some row) (kept : Kept s task)

include held

theorem persisted_held : s.persisted task = some row.status := by
  unfold Traced.persisted
  rw [held]
  rfl

theorem current_held : s.current task = some ((s.session.object task).status.read row.status) := by
  rw [current_eq, held]
  rfl

include kept

theorem course_held :
    Course row.status (s.changes task) ((s.session.object task).status.read row.status) :=
  kept.course _ _ (persisted_held held) (current_held held)

theorem agrees_set (status : TaskStatus) :
    Agrees ((s.session.object task).status.set row.status status) row.status := by
  have agrees := kept.agrees row held
  unfold Agrees at agrees ⊢
  refine ⟨?_, rfl⟩
  cases unset : (s.session.object task).status.original with
  | none =>
      rw [unset] at agrees
      rcases agrees with expired | loaded
      · simp [Attribute.read, expired]
      · simp [Attribute.read, loaded]
  | some original =>
      rw [unset] at agrees
      exact agrees.1

end Own

theorem object_set (session : Session) (task other : UUID) (object : TaskObject) :
    (edited session task object).object other =
      if task = other then object else session.object other := by
  unfold edited Session.object
  rw [Dict.get_set]
  split
  · rfl
  · rfl

theorem transitions_note (session : Session) (change : Change) :
    (s.note session task change).transitions task = s.transitions task ++ change.made?.toList := by
  have changes : (s.note session task change).changes task = s.changes task ++ [change] :=
    Function.update_self _ _ _
  unfold Traced.transitions
  rw [changes, List.filterMap_append]
  cases change with
  | made transition => rfl
  | written current target => rfl

theorem kept_written {row : TaskRow} (held : s.session.working.tasks.get task = some row)
    (kept : Kept s task) {status : TaskStatus} {t : Traced}
    (session : t.session = edited s.session task
      { s.session.object task with status := (s.session.object task).status.set row.status status })
    (changes : t.changes task = s.changes task ∧
      status = (s.session.object task).status.read row.status ∨
      status ≠ (s.session.object task).status.read row.status ∧ t.changes task = s.changes task ++
        [.written ((s.session.object task).status.read row.status) status]) :
    Kept t task := by
  have rows : t.session.working.tasks.get task = some row := by rw [session]; exact held
  have object : (t.session.object task).status =
      (s.session.object task).status.set row.status status := by
    rw [session, object_set, if_pos rfl]
  have transitions : t.transitions task = s.transitions task := by
    unfold Traced.transitions
    rcases changes with ⟨same, _⟩ | ⟨_, more⟩
    · rw [same]
    · rw [more, List.filterMap_append]
      exact List.append_nil _
  have events : t.session.new = s.session.new ∧ t.session.nextEvent = s.session.nextEvent ∧
      t.session.authorizations = s.session.authorizations := by
    rw [session]
    exact ⟨rfl, rfl, rfl⟩
  constructor
  · intro other again
    rw [rows] at again
    cases again
    rw [object]
    exact agrees_set held kept status
  · intro first last starts ends
    rw [persisted_held rows] at starts
    rw [current_held rows, object] at ends
    cases starts
    cases ends
    have course := course_held held kept
    rcases changes with ⟨same, unchanged⟩ | ⟨different, more⟩
    · rw [same]
      show Course row.status (s.changes task) status
      rw [unchanged]
      exact course
    · rw [more]
      exact .concat course (Ne.symm different)
  · intro absent
    rw [rows] at absent
    cases absent
  · rw [transitions, events.2.2]
    exact kept.authorizes
  · rw [transitions]
    exact kept.allowed
  · rw [transitions]
    unfold Logged
    rw [events.1, events.2.1]
    exact kept.logged

theorem authorizes_extended {transitions : List Made} {existing : Option Authorization}
    {authorization : Authorization} {current target : TaskStatus} {event : Nat}
    (authorizes : Authorizes transitions existing)
    (next : extended existing current target event = some authorization) :
    Authorizes (transitions ++ [⟨event, current, target⟩]) (some authorization) := by
  unfold extended at next
  cases existing with
  | none =>
      cases next
      have empty : transitions = [] := authorizes
      subst empty
      exact ⟨List.cons_ne_nil _ _, rfl, rfl, rfl⟩
  | some existing =>
      obtain ⟨_, events, links⟩ := authorizes
      dsimp only at next
      split at next
      · next same =>
          cases next
          refine ⟨by simp, ?_, ?_⟩
          · rw [events, List.map_append]
            rfl
          · rw [← same]
            exact links_concat event links
      · cases next

theorem kept_made {row : TaskRow} {authorization : Authorization} {target : TaskStatus}
    {context : TransitionContext} (held : s.session.working.tasks.get task = some row)
    (kept : Kept s task) (valid : context.valid = true)
    (allowed : canTransition ((s.session.object task).stored row).status target = true)
    (next : extended (s.session.authorizations.get task) ((s.session.object task).stored row).status
      target s.session.nextEvent = some authorization) :
    Kept (s.note (transitioned s.session task target context row authorization) task
      (.made ⟨s.session.nextEvent, ((s.session.object task).stored row).status, target⟩)) task := by
  have shown : ((s.session.object task).stored row).status =
      (s.session.object task).status.read row.status := rfl
  have rows :
    (transitioned s.session task target context row authorization).working.tasks.get task =
      some row := held
  have object :
    ((transitioned s.session task target context row authorization).object task).status =
      (s.session.object task).status.set row.status target := by
    have set := object_set s.session task task
      { s.session.object task with status := (s.session.object task).status.set row.status target }
    rw [if_pos rfl] at set
    exact congrArg TaskObject.status set
  have more : (s.note (transitioned s.session task target context row authorization) task
      (.made ⟨s.session.nextEvent, ((s.session.object task).stored row).status,
        target⟩)).transitions task = s.transitions task ++
          [⟨s.session.nextEvent, ((s.session.object task).stored row).status, target⟩] :=
    transitions_note _ _
  constructor
  · intro other again
    have same := rows.symm.trans again
    cases same
    show Agrees ((transitioned s.session task target context row authorization).object task).status
      _
    rw [object]
    exact agrees_set held kept target
  · intro first last starts ends
    have begins := starts.symm.trans (persisted_held rows)
    have arrives := ends.symm.trans (current_held rows)
    have changes : (s.note (transitioned s.session task target context row authorization) task
        (.made ⟨s.session.nextEvent, ((s.session.object task).stored row).status, target⟩)).changes
          task = s.changes task ++
            [.made ⟨s.session.nextEvent, ((s.session.object task).stored row).status, target⟩] :=
      Function.update_self _ _ _
    have finish : ((transitioned s.session task target context row authorization).object
        task).status.read row.status = target := by
      rw [object]
      rfl
    cases begins
    cases arrives
    rw [changes]
    show Course row.status _ (((transitioned s.session task target context row authorization).object
      task).status.read row.status)
    rw [finish]
    have course := course_held held kept
    exact .concat course (canTransition_ne allowed)
  · intro absent
    have same := rows.symm.trans absent
    cases same
  · rw [more]
    have authorized :
      (transitioned s.session task target context row authorization).authorizations.get
        task = some authorization := Dict.get_set_self _ _ _
    show Authorizes _
      ((transitioned s.session task target context row authorization).authorizations.get
      task)
    rw [authorized]
    exact authorizes_extended kept.authorizes next
  · rw [more]
    intro made among
    rcases List.mem_append.mp among with before | last
    · exact kept.allowed made before
    · rw [List.mem_singleton.mp last]
      exact allowed
  · rw [more]
    intro made among
    rcases List.mem_append.mp among with before | last
    · obtain ⟨known, logged⟩ := kept.logged made before
      refine ⟨Nat.lt_succ_of_lt known, fun event found => ?_⟩
      have older : s.session.nextEvent ≠ made.event := Nat.ne_of_gt known
      have there : (s.session.new.set s.session.nextEvent _).get made.event = some event := found
      rw [Dict.get_set_other _ _ _ _ older] at there
      exact logged event there
    · rw [List.mem_singleton.mp last]
      refine ⟨Nat.lt_succ_self _, fun event found => ?_⟩
      have there : (s.session.new.set s.session.nextEvent _).get s.session.nextEvent = some event :=
        found
      rw [Dict.get_set_self] at there
      exact ⟨context, _, valid, (Option.some.inj there).symm⟩

theorem object_mapValues (session : Session) (f : UUID → TaskObject → TaskObject)
    (bare : f task {} = {}) :
    ((session.objects.mapValues f).get task).getD {} = f task (session.object task) := by
  unfold Session.object
  rw [Dict.get_mapValues]
  cases session.objects.get task with
  | none => exact bare.symm
  | some object => rfl

theorem opened_flushed (kept : ∀ task, Kept s task) : Opened s.session.flushed where
  agrees task row held := by
    have object : s.session.flushed.object task = (s.session.object task).flushed :=
      object_mapValues s.session (fun _ object => object.flushed) rfl
    have rows : s.session.flushed.working.tasks.get task =
        (s.session.working.tasks.get task).map (s.session.object task).stored :=
      Dict.get_mapValues _ _ _
    rw [rows] at held
    obtain ⟨before, found, rfl⟩ := Option.map_eq_some_iff.mp held
    have agrees := (kept task).agrees before found
    rw [object]
    refine ⟨rfl, ?_⟩
    show (s.session.object task).status.value = none ∨ (s.session.object task).status.value =
      some ((s.session.object task).status.read before.status)
    cases value : (s.session.object task).status.value with
    | none => exact .inl rfl
    | some status => simp [Attribute.read, value]
  untouched task absent := by
    have object : s.session.flushed.object task = (s.session.object task).flushed :=
      object_mapValues s.session (fun _ object => object.flushed) rfl
    have rows : s.session.flushed.working.tasks.get task =
        (s.session.working.tasks.get task).map (s.session.object task).stored :=
      Dict.get_mapValues _ _ _
    rw [rows, Option.map_eq_none_iff] at absent
    rw [object, TaskObject.flushed, ((kept task).untouched absent).1]
    rfl
  quiet := rfl

theorem opened_rolledBack (session : Session) : Opened session.rolledBack where
  agrees task row _ := by
    have object : session.rolledBack.object task = {} :=
      object_mapValues session (fun _ _ => {}) rfl
    rw [object]
    exact ⟨rfl, .inl rfl⟩
  untouched task _ := by
    have object : session.rolledBack.object task = {} :=
      object_mapValues session (fun _ _ => {}) rfl
    rw [object]
  quiet := rfl

theorem kept_flush (kept : ∀ task, Kept s task) (task : UUID) :
    Kept (s.settle (flush quiet s.session)) task := by
  cases rejected : rejectUnauthorizedTaskStatusChanges s.session with
  | some e =>
      have refused : flush quiet s.session = (.error e, s.session) := flush_refused rejected rfl
      rw [refused]
      exact kept task
  | none =>
      have accepted : flush quiet s.session = (.ok (), s.session.flushed) :=
        flush_accepted rejected rfl rfl
      rw [accepted]
      exact kept_opening (opened_flushed kept) task

theorem kept_commit (kept : ∀ task, Kept s task) (task : UUID) :
    Kept (s.settle (commit quiet s.session)) task := by
  cases rejected : rejectUnauthorizedTaskStatusChanges s.session with
  | some e =>
      have refused : commit quiet s.session = (.error e, s.session) :=
        run_error (flush_refused rejected rfl)
      rw [refused]
      exact kept task
  | none =>
      have accepted : commit quiet s.session =
          (.ok (), { s.session.flushed with committed := s.session.flushed.working }) :=
        run_ok (flush_accepted rejected rfl rfl)
      have flushed := opened_flushed kept
      have opened : Opened { s.session.flushed with committed := s.session.flushed.working } :=
        ⟨flushed.agrees, flushed.untouched, flushed.quiet⟩
      rw [accepted]
      exact kept_opening opened task

theorem kept_transition (kept : ∀ task, Kept s task) (other : UUID) (target : TaskStatus)
    (context : TransitionContext) (uncopied : Option Exn) (task : UUID) :
    Kept (s.step (.transition other target context uncopied)) task := by
  have ends : (∃ e, transition (copying uncopied) other target context s.session =
      (.error e, s.session)) ∨ _ := transition_cases rfl
  rcases ends with ⟨e, raised⟩ | ⟨row, authorization, held, valid, allowed, next, returned⟩
  · have same : s.step (.transition other target context uncopied) = s := by
      unfold Traced.step
      dsimp only
      rw [raised]
      cases s.session.view other <;> rfl
    rw [same]
    exact kept task
  · have noted : s.step (.transition other target context uncopied) =
        s.note (transitioned s.session other target context row authorization) other
          (.made ⟨s.session.nextEvent, ((s.session.object other).stored row).status, target⟩) := by
      unfold Traced.step
      dsimp only
      rw [returned, view_row held]
    rw [noted]
    by_cases own : task = other
    · subst own
      exact kept_made held (kept task) valid allowed next
    · have apart : other ≠ task := Ne.symm own
      refine kept_frame (kept task) rfl ?_ (Function.update_of_ne own _ _)
        (Dict.get_set_other _ _ _ _ apart) (Nat.le_succ _) ?_
      · have kept_object := object_set s.session other task
          { s.session.object other with
            status := (s.session.object other).status.set row.status target }
        rw [if_neg apart] at kept_object
        exact congrArg TaskObject.status kept_object
      · intro number known event found
        have there : (s.session.new.set s.session.nextEvent _).get number = some event := found
        rwa [Dict.get_set_other _ _ _ _ (Nat.ne_of_gt known)] at there

theorem kept_edit (kept : Kept s task) (other : UUID) (object : TaskObject)
    (status : object.status = (s.session.object other).status) :
    Kept { s with session := edited s.session other object } task := by
  refine kept_frame kept rfl ?_ rfl rfl le_rfl (fun _ _ _ found => found)
  rw [object_set]
  split
  · next same => rw [status, same]
  · rfl

theorem kept_writeStatus (kept : ∀ task, Kept s task) (other : UUID) (status : TaskStatus)
    (task : UUID) : Kept (s.step (.writeStatus other status)) task := by
  cases held : s.session.working.tasks.get other with
  | none =>
      have same : s.step (.writeStatus other status) = s := by
        unfold Traced.step
        dsimp only
        rw [view_absent held]
      rw [same]
      exact kept task
  | some row =>
      have writes : writeStatus other status s.session = (.ok (), edited s.session other
          { s.session.object other with
            status := (s.session.object other).status.set row.status status }) :=
              editTask_row _ held
      have shown : ((s.session.object other).stored row).status =
          (s.session.object other).status.read row.status := rfl
      have session : (s.step (.writeStatus other status)).session = edited s.session other
          { s.session.object other with
            status := (s.session.object other).status.set row.status status } := by
        unfold Traced.step
        dsimp only
        rw [view_row held, writes]
        dsimp only
        split <;> rfl
      by_cases own : task = other
      · subst own
        refine kept_written held (kept task) session ?_
        unfold Traced.step
        dsimp only
        rw [view_row held, writes]
        dsimp only
        rw [shown]
        split
        · next same => exact .inl ⟨rfl, same.symm⟩
        · next different => exact .inr ⟨Ne.symm different, Function.update_self _ _ _⟩
      · have changes : (s.step (.writeStatus other status)).changes task = s.changes task := by
          unfold Traced.step
          dsimp only
          rw [view_row held]
          dsimp only
          split
          · rfl
          · exact Function.update_of_ne own _ _
        have apart : other ≠ task := Ne.symm own
        refine kept_frame (kept task) ?_ ?_ changes ?_ ?_ ?_
        · rw [session]
          rfl
        · rw [session, object_set, if_neg apart]
        · rw [session]
          rfl
        · rw [session]
          exact le_rfl
        · rw [session]
          exact fun _ _ _ found => found

theorem kept_step (kept : ∀ task, Kept s task) (act : Act) (task : UUID) :
    Kept (s.step act) task := by
  cases act with
  | transition other target context uncopied =>
      exact kept_transition kept other target context _ task
  | writeStatus other status => exact kept_writeStatus kept other status task
  | writeProjectId other project =>
      cases held : s.session.working.tasks.get other with
      | none =>
          have same :
              writeProjectId other project s.session = (.error (.sqlalchemy false), s.session) :=
            editTask_absent _ held
          unfold Traced.step
          dsimp only
          rw [same]
          exact kept task
      | some row =>
          have writes : writeProjectId other project s.session = (.ok (), _) := editTask_row _ held
          unfold Traced.step
          dsimp only
          rw [writes]
          exact kept_edit (kept task) other _ rfl
  | expunge event =>
      refine kept_frame (kept task) rfl rfl rfl rfl le_rfl ?_
      intro number _ pending found
      have popped : (s.session.new.pop event).get number = some pending := found
      rw [Dict.get_pop] at popped
      split at popped
      · cases popped
      · exact popped
  | flush => exact kept_flush kept task
  | commit => exact kept_commit kept task
  | rollback => exact kept_opening (opened_rolledBack s.session) task

theorem kept_run (kept : ∀ task, Kept s task) (acts : List Act) (task : UUID) :
    Kept (s.run acts) task := by
  induction acts generalizing s with
  | nil => exact kept task
  | cons act rest ih => exact ih (kept_step kept act)

end Steps

end SynapseOS.Tasks
