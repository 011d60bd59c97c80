import SynapseOS.Lib.Trace
import SynapseOS.Workflows.StageRuns

/-! What a run of the QA or the Security stage leaves behind. -/

namespace SynapseOS.Workflows

open Execution Program Tasks Tools Transition

def StageAct.owner : StageAct → Option Nat
  | .started id | .invoked id | .completed id _ | .escalated id _ => some id
  | .other => none

def entriesOf (log : List StageEntry) (id : Nat) : List StageEntry :=
  log.filter fun entry => decide (entry.act.owner = some id)

inductive Decides : Stage → StageResult → TaskStatus → Prop
  | qaPassed (result : QA.QAResult) (decided : result.decision = .passed) :
      Decides .qa (.qa result) .waitingSecurity
  | qaFailed (result : QA.QAResult) (decided : result.decision = .failed) :
      Decides .qa (.qa result) .changesRequested
  | securityPass (result : Security.SecurityResult) (decided : result.decision = .pass) :
      Decides .security (.security result) .completed
  | securityWarn (result : Security.SecurityResult) (decided : result.decision = .warn) :
      Decides .security (.security result) .waitingHuman
  | securityBlock (result : Security.SecurityResult) (decided : result.decision = .block) :
      Decides .security (.security result) .changesRequested

theorem inScope_decides {stage : Stage} {scope : StageScope} {result : StageResult}
    (inScope : resultInScope stage scope result = true) : Decides stage result result.target := by
  cases result with
  | qa result =>
      obtain ⟨rfl, _⟩ := of_decide_eq_true inScope
      unfold StageResult.target
      dsimp only
      split
      · next decided => exact .qaPassed result decided
      · next decided => exact .qaFailed result decided
  | security result =>
      obtain ⟨rfl, _⟩ := of_decide_eq_true inScope
      unfold StageResult.target
      dsimp only
      split
      · next decided => exact .securityPass result decided
      · next decided => exact .securityWarn result decided
      · next decided => exact .securityBlock result decided

section Entries

variable {task : UUID} (runs : StageRuns task) (id : Nat)

def StartEntry (entry : StageEntry) : Prop :=
  entry.act = .started id ∧ entry.status = some (runs.run id).stage.waiting ∧
    ∃ row, entry.events = [startedEvent (runs.run id).stage (runs.run id).scope row]

def InvokeEntry (entry : StageEntry) : Prop := entry.act = .invoked id ∧ entry.events = []

def CompleteEntry (result : StageResult) (entry : StageEntry) : Prop :=
  entry.act = .completed id result ∧ ∃ target row,
    Decides (runs.run id).stage result target ∧ entry.status = some target ∧
      row.status = (runs.run id).stage.waiting ∧
      row.assignedAgentId = some (runs.run id).scope.developerId ∧
      entry.events = [movedEvent task row target (completionContext (runs.run id).scope result),
        completedEvent (runs.run id).stage (runs.run id).scope row result]

def EscalateEntry (code : StageErrorCode) (entry : StageEntry) : Prop :=
  entry.act = .escalated id code ∧ entry.status = some .waitingHuman ∧
    ∃ row, row.status = (runs.run id).stage.waiting ∧
      row.assignedAgentId = some (runs.run id).scope.developerId ∧
      entry.events = [movedEvent task row .waitingHuman
          (escalationContext (runs.run id).stage (runs.run id).scope code),
        escalatedEvent (runs.run id).stage (runs.run id).scope row code]

/-- An error of a stage has one of the two codes after which nothing is escalated. -/
def Excused (e : Exn) : Prop := ∀ stage code, e = .stage stage code → conflictCode code = true

/-- The entries of a run that is in a phase. A run whose escalations work leaves a stage that it
started without escalating it only with an excuse. -/
inductive Story (works : Prop) : StagePhase → List StageEntry → Prop
  | idle : Story works .idle []
  | rejected (e : Exn) : Story works (.ended (.raised e)) []
  | executing (start call : StageEntry) (starts : StartEntry runs id start)
      (calls : InvokeEntry id call) : Story works .executing [start, call]
  | failing (code : StageErrorCode) (start call : StageEntry) (starts : StartEntry runs id start)
      (calls : InvokeEntry id call) : Story works (.failing code false) [start, call]
  | dropped (e : Exn) (start call : StageEntry) (starts : StartEntry runs id start)
      (calls : InvokeEntry id call) (excused : works → Excused e) :
      Story works (.ended (.raised e)) [start, call]
  | unread (code : StageErrorCode) (result : StageResult) (start call last : StageEntry)
      (starts : StartEntry runs id start) (calls : InvokeEntry id call)
      (completes : CompleteEntry runs id result last) :
      Story works (.failing code true) [start, call, last]
  | returned (result : StageResult) (start call last : StageEntry)
      (starts : StartEntry runs id start)
      (calls : InvokeEntry id call) (completes : CompleteEntry runs id result last) :
      Story works (.ended (.returned result)) [start, call, last]
  | lost (e : Exn) (result : StageResult) (start call last : StageEntry)
      (starts : StartEntry runs id start) (calls : InvokeEntry id call)
      (completes : CompleteEntry runs id result last) (excused : works → Excused e) :
      Story works (.ended (.raised e)) [start, call, last]
  | escalated (code : StageErrorCode) (start call last : StageEntry)
      (starts : StartEntry runs id start)
      (calls : InvokeEntry id call) (escalates : EscalateEntry runs id (safeCode code) last) :
      Story works (.ended (.raised (.stage (runs.run id).stage code))) [start, call, last]

end Entries

section Told

variable {task : UUID} {runs : StageRuns task} {works : Nat → Prop} {rows : List AuditEvent}
  {w t : StageWorld} {id other : Nat}

structure Told (runs : StageRuns task) (works : Nat → Prop) (rows : List AuditEvent)
    (w : StageWorld) : Prop where
  story : ∀ id, Story runs id (works id) (w.phase id) (entriesOf w.log id)
  audits : w.db.audits = rows ++ w.log.flatMap StageEntry.events
  held : (w.db.tasks.get task).isSome = true

theorem entriesOf_append (log more : List StageEntry) (id : Nat) :
    entriesOf (log ++ more) id = entriesOf log id ++ entriesOf more id := List.filter_append ..

theorem entriesOf_foreign {more : List StageEntry}
    (foreign : ∀ entry ∈ more, entry.act.owner ≠ some id) :
    entriesOf more id = [] :=
  List.filter_eq_nil_iff.mpr fun entry member => by simpa using foreign entry member

theorem entriesOf_own {more : List StageEntry} (own : ∀ entry ∈ more, entry.act.owner = some id) :
    entriesOf more id = more :=
  List.filter_eq_self.mpr fun entry member => decide_eq_true (own entry member)

theorem wrote_appended {db after : Database} {row : TaskRow} {events : List AuditEvent}
    (wrote : Wrote db after task row events) (act : StageAct) :
    (observe task act db after).events = events ∧
    (observe task act db after).status = some row.status := by
  constructor
  · show after.audits.drop db.audits.length = events
    rw [wrote.audits, List.drop_left]
  · show (after.tasks.get task).map TaskRow.status = _
    rw [wrote.own]
    rfl

theorem stage_set_same (w : StageWorld) (id : Nat) (phase : StagePhase) :
    (w.set id phase).phase id = phase := by
  unfold StageWorld.set
  exact Function.update_self id phase w.phase

theorem stage_set_other {w : StageWorld} {phase : StagePhase} (different : other ≠ id) :
    (w.set id phase).phase other = w.phase other := by
  unfold StageWorld.set
  exact Function.update_of_ne different phase w.phase

theorem completed_unmatched {rows : List AuditEvent} {stage : Stage} {scope : StageScope}
    {row : TaskRow} {result : StageResult} (among : completedEvent stage scope row result ∈ rows) :
    hasMatchingStart rows scope stage = false := by
  cases stage with
  | qa =>
      have finished : hasQaEvent rows scope (.completed .qa) = true :=
        List.any_eq_true.mpr ⟨_, among, decide_eq_true ⟨rfl, rfl, rfl, rfl⟩⟩
      show (_ && !([EventType.completed .qa, .escalated .qa].any (hasQaEvent rows scope))) = false
      rw [List.any_cons, finished, Bool.true_or, Bool.not_true, Bool.and_false]
  | security =>
      have inside : completedEvent .security scope row result ∈ securityRows rows scope.task :=
        List.mem_filter.mpr ⟨among, Bool.and_eq_true_iff.mpr ⟨decide_eq_true ⟨rfl, rfl⟩, rfl⟩⟩
      have positive : 0 < correlatedCount (securityRows rows scope.task) (some scope.correlationId)
          isSecurityTerminal :=
        List.countP_pos_iff.mpr ⟨_, inside, Bool.and_eq_true_iff.mpr ⟨decide_eq_true rfl, rfl⟩⟩
      refine decide_eq_false fun both => ?_
      omega

theorem story_idle {entries : List StageEntry} (story : Story runs id (works id) .idle entries) :
    entries = [] := by
  cases story
  rfl

theorem story_executing {entries : List StageEntry}
    (story : Story runs id (works id) .executing entries) :
    ∃ start call, StartEntry runs id start ∧ InvokeEntry id call ∧ entries = [start, call] := by
  cases story with
  | executing start call starts calls => exact ⟨start, call, starts, calls, rfl⟩

theorem story_failing {entries : List StageEntry} {code : StageErrorCode}
    (story : Story runs id (works id) (.failing code false) entries) :
    ∃ start call, StartEntry runs id start ∧ InvokeEntry id call ∧ entries = [start, call] := by
  cases story with
  | failing _ start call starts calls => exact ⟨start, call, starts, calls, rfl⟩

theorem story_unread {entries : List StageEntry} {code : StageErrorCode}
    (story : Story runs id (works id) (.failing code true) entries) :
    ∃ result start call last, StartEntry runs id start ∧ InvokeEntry id call ∧
      CompleteEntry runs id result last ∧ entries = [start, call, last] := by
  cases story with
  | unread _ result start call last starts calls completes =>
      exact ⟨result, start, call, last, starts, calls, completes, rfl⟩

theorem failedPhase_cases (stage : Stage) (completed : Bool) (e : Exn) :
    (∃ code, failedPhase stage completed e = .failing code completed) ∨
      (failureCode stage e = none ∧ failedPhase stage completed e = .ended (.raised e)) := by
  unfold failedPhase
  cases failureCode stage e with
  | none => exact .inr ⟨rfl, rfl⟩
  | some code => exact .inl ⟨code, rfl⟩

theorem resultPhase_cases (stage : Stage) (result : StageResult) (reread : Except Exn TaskStatus) :
    resultPhase stage result reread = .ended (.returned result) ∨
      (∃ code, resultPhase stage result reread = .failing code true) ∨
      ∃ e, failureCode stage e = none ∧ resultPhase stage result reread = .ended (.raised e) := by
  cases reread with
  | ok status =>
      by_cases agrees : status = result.target
      · exact .inl (if_pos agrees)
      · exact .inr (.inl ⟨.internalFailure, if_neg agrees⟩)
  | error e =>
      rcases failedPhase_cases stage true e with ⟨code, fails⟩ | ⟨uncaught, ends⟩
      · exact .inr (.inl ⟨code, fails⟩)
      · exact .inr (.inr ⟨e, uncaught, ends⟩)

/-- A step of a run tells the story of that run further, and no other. -/
theorem story_set (told : Told runs works rows w) {phase : StagePhase} {more : List StageEntry}
    (own : ∀ entry ∈ more, entry.act.owner = some id)
    (story : Story runs id (works id) phase (entriesOf w.log id ++ more)) (other : Nat) :
    Story runs other (works other) ((w.set id phase).phase other)
    (entriesOf (w.log ++ more) other) := by
  rw [entriesOf_append]
  by_cases same : other = id
  · subst same
    rw [stage_set_same, entriesOf_own own]
    exact story
  · have foreign : entriesOf more other = [] :=
      entriesOf_foreign fun entry member owned =>
        same (Option.some.inj (owned.symm.trans (own entry member)))
    rw [stage_set_other same, foreign, List.append_nil]
    exact told.story other

theorem told_phase (told : Told runs works rows w) {phase : StagePhase}
    (story : Story runs id (works id) phase (entriesOf w.log id)) :
    Told runs works rows (w.set id phase) where
  story other := by
    have same : Story runs other (works other) ((w.set id phase).phase other)
        (entriesOf (w.log ++ []) other) :=
      story_set told (fun _ member => absurd member List.not_mem_nil)
        (by rw [List.append_nil]; exact story) other
    rw [List.append_nil] at same
    exact same
  audits := told.audits
  held := told.held

theorem told_commit (told : Told runs works rows w) {phase : StagePhase} {more : List StageEntry}
    {after : Database}
    {row : TaskRow} {events : List AuditEvent} (wrote : Wrote w.db after task row events)
    (own : ∀ entry ∈ more, entry.act.owner = some id)
    (fresh : more.flatMap StageEntry.events = events)
    (story : Story runs id (works id) phase (entriesOf w.log id ++ more)) :
    Told runs works rows { w.set id phase with db := after, log := w.log ++ more } where
  story := story_set told own story
  audits := by
    show after.audits = rows ++ (w.log ++ more).flatMap StageEntry.events
    rw [wrote.audits, told.audits, List.flatMap_append, fresh, List.append_assoc]
  held := by
    show (after.tasks.get task).isSome = true
    rw [wrote.own]
    rfl

theorem unread_unmatched (told : Told runs works rows w) {code : StageErrorCode}
    (fails : w.phase id = .failing code true) :
    hasMatchingStart w.db.audits (runs.run id).scope (runs.run id).stage = false := by
  have story : Story runs id (works id) (.failing code true) (entriesOf w.log id) :=
    fails ▸ told.story id
  obtain ⟨result, start, call, last, _, _, completes, entries⟩ := story_unread story
  obtain ⟨_, target, row, _, _, _, _, events⟩ := completes
  have own : last ∈ entriesOf w.log id := by
    rw [entries]
    simp
  have member : last ∈ w.log := (List.mem_filter.mp own).1
  have among : completedEvent (runs.run id).stage (runs.run id).scope row result ∈ last.events := by
    rw [events]
    simp
  have kept : completedEvent (runs.run id).stage (runs.run id).scope row result ∈ w.db.audits := by
    rw [told.audits]
    exact List.mem_append_right _ (List.mem_flatMap.mpr ⟨last, member, among⟩)
  exact completed_unmatched kept

theorem uncaught_excused {stage : Stage} {e : Exn} (uncaught : failureCode stage e = none) :
    Excused e := by
  intro raised code same
  rw [same] at uncaught
  cases uncaught

theorem surfaced_own (stage : Stage) (code : StageErrorCode) :
    surfaced stage (.stage stage code) = .stage stage code := by
  have own : failureCode stage (.stage stage code) = some code := congrArg some (if_pos rfl)
  unfold surfaced
  rw [own]

/-- An escalation whose calls work commits, or meets a conflict. -/
theorem abandoned_excused {calls : Calls} {code : StageErrorCode} {e : Exn} (quiet : Quiet calls)
    (held : (w.db.tasks.get task).isSome = true)
    (why : (conflictCode code = true ∧ e = .stage (runs.run id).stage code) ∨ ∃ raised,
      (commitEscalatedCheckpoint (runs.run id).stage calls (runs.run id).scope (safeCode code)
        (connected w.db)).1 = .error raised ∧ e = surfaced (runs.run id).stage raised) :
          Excused e := by
  rcases why with ⟨conflict, rfl⟩ | ⟨raised, run, rfl⟩
  · intro stage other same
    cases same
    exact conflict
  · obtain ⟨row, there⟩ := Option.isSome_iff_exists.mp held
    have own : w.db.tasks.get (runs.run id).scope.task = some row := by
      rw [runs.own id]
      exact there
    rw [escalated_quiet quiet own] at run
    have conflicts : raised = .stage (runs.run id).stage .concurrentModification ∨
        raised = .stage (runs.run id).stage .invalidState := by
      split at run
      · exact .inl (Except.error.inj run).symm
      · split at run
        · cases run
        · exact .inr (Except.error.inj run).symm
    intro stage other same
    rcases conflicts with rfl | rfl
    · rw [surfaced_own] at same
      cases same
      rfl
    · rw [surfaced_own] at same
      cases same
      rfl

theorem told_moves {action : StageAction} (told : Told runs works rows w)
    (moves : StageMoves runs w action t)
    (tidy : ∀ id calls, action = .escalate id calls → works id → Quiet calls) :
    Told runs works rows t := by
  cases moves with
  | other row events plain held =>
      refine ⟨fun id => ?_, ?_, ?_⟩
      · have foreign :
            entriesOf [observe task .other w.db (changed w.db task row events)] id = [] :=
          entriesOf_foreign (by simp [observe, StageAct.owner])
        rw [entriesOf_append, foreign, List.append_nil]
        exact told.story id
      · have appended : (observe task .other w.db (changed w.db task row events)).events = events :=
          List.drop_left
        show w.db.audits ++ events = _
        rw [List.flatMap_append, List.flatMap_singleton, appended, told.audits, List.append_assoc]
      · show ((w.db.tasks.set task row).get task).isSome = true
        rw [Dict.get_set_self]
        rfl
  | refused id preflight calls e idle =>
      have none : entriesOf w.log id = [] := story_idle (idle ▸ told.story id)
      exact told_phase told (none ▸ .rejected e)
  | begun id preflight calls row after idle ready admitted wrote =>
      have none : entriesOf w.log id = [] := story_idle (idle ▸ told.story id)
      have first := wrote_appended wrote (.started id)
      have silent : (observe task (.invoked id) after after).events = [] := List.drop_length
      refine told_commit told wrote (by simp [observe, StageAct.owner]) ?_ ?_
      · rw [List.flatMap_cons, List.flatMap_singleton, first.1, silent]
        rfl
      · rw [none]
        exact .executing _ _ ⟨rfl, first.2.trans (congrArg some ready.waits), row,
          first.1⟩ ⟨rfl, silent⟩
  | failed id reply calls reread e executing why =>
      obtain ⟨start, call, starts, called, entries⟩ := story_executing (executing ▸ told.story id)
      refine told_phase told ?_
      rw [entries]
      rcases failedPhase_cases (runs.run id).stage false e with ⟨code, fails⟩ | ⟨uncaught, ends⟩
      · rw [fails]
        exact .failing code start call starts called
      · rw [ends]
        exact .dropped e start call starts called fun _ => uncaught_excused uncaught
  | completed id calls reread result row after executing inScope ready matching wrote =>
      obtain ⟨start, call, starts, called, entries⟩ := story_executing (executing ▸ told.story id)
      have last := wrote_appended wrote (.completed id result)
      have completes :
          CompleteEntry runs id result (observe task (.completed id result) w.db after) :=
        ⟨rfl, result.target, row, inScope_decides inScope, last.2, ready.waits,
          ready.assigned, last.1⟩
      refine told_commit told wrote (by simp [observe, StageAct.owner]) ?_ ?_
      · rw [List.flatMap_singleton, last.1]
      · rw [entries]
        rcases resultPhase_cases (runs.run id).stage result reread with ends | ⟨code, fails⟩ |
            ⟨e, uncaught, ends⟩
        · rw [ends]
          exact .returned result start call _ starts called completes
        · rw [fails]
          exact .unread code result start call _ starts called completes
        · rw [ends]
          exact .lost e result start call _ starts called completes fun _ =>
            uncaught_excused uncaught
  | abandoned id calls code completed e fails why =>
      have excused (working : works id) : Excused e :=
        abandoned_excused (tidy id calls rfl working) told.held why
      refine told_phase told ?_
      cases completed with
      | false =>
          obtain ⟨start, call, starts, called, entries⟩ := story_failing (fails ▸ told.story id)
          rw [entries]
          exact .dropped e start call starts called excused
      | true =>
          obtain ⟨result, start, call, last, starts, called, completes, entries⟩ :=
            story_unread (fails ▸ told.story id)
          rw [entries]
          exact .lost e result start call last starts called completes excused
  | escalated id calls code completed row after fails clear ready matching wrote =>
      cases completed with
      | true =>
          rw [unread_unmatched told fails] at matching
          cases matching
      | false =>
          obtain ⟨start, call, starts, called, entries⟩ := story_failing (fails ▸ told.story id)
          have last := wrote_appended wrote (.escalated id (safeCode code))
          refine told_commit told wrote (by simp [observe, StageAct.owner]) ?_ ?_
          · rw [List.flatMap_singleton, last.1]
          · rw [entries]
            exact .escalated code start call _ starts called
              ⟨rfl, last.2, row, ready.waits, ready.assigned, last.1⟩

end Told

section Raising

variable {task : UUID} {runs : StageRuns task} {action : StageAction} {w t : StageWorld}
    {id other : Nat}

def StagePhase.raises : StagePhase → Prop
  | .failing _ _ | .ended (.raised _) => True
  | _ => False

def StageAction.closes : StageAction → Option Nat
  | .finish id _ _ _ | .escalate id _ => some id
  | _ => none

theorem failedPhase_raises (stage : Stage) (completed : Bool) (e : Exn) :
    (failedPhase stage completed e).raises := by
  rcases failedPhase_cases stage completed e with ⟨code, fails⟩ | ⟨_, ends⟩
  · rw [fails]
    trivial
  · rw [ends]
    trivial

theorem raises_moves (raising : (w.phase id).raises) (moves : StageMoves runs w action t) :
    (t.phase id).raises := by
  have kept {other : Nat} {phase : StagePhase} (own : other = id → phase.raises) :
      ((w.set other phase).phase id).raises := by
    by_cases same : id = other
    · subst same
      rw [stage_set_same]
      exact own rfl
    · rw [stage_set_other same]
      exact raising
  cases moves with
  | other row events plain held => exact raising
  | refused other preflight calls e idle => exact kept fun _ => trivial
  | begun other preflight calls row after idle ready admitted wrote =>
      refine kept fun same => ?_
      rw [← same, idle] at raising
      exact raising
  | failed other reply calls reread e executing why => exact kept fun _ => failedPhase_raises _ _ _
  | completed other calls reread result row after executing inScope ready matching wrote =>
      refine kept fun same => ?_
      rw [← same, executing] at raising
      exact raising.elim
  | abandoned other calls code completed e fails why => exact kept fun _ => trivial
  | escalated other calls code completed row after fails clear ready matching wrote =>
      exact kept fun _ => trivial

theorem raises_ends (raising : (w.phase id).raises) : (∃ e, w.phase id = .ended (.raised e)) ∨
    ∀ calls, ∃ t e, stageStep runs w (.escalate id calls) = some t ∧
    t.phase id = .ended (.raised e) := by
  cases phase : w.phase id with
  | idle =>
      rw [phase] at raising
      exact raising.elim
  | executing =>
      rw [phase] at raising
      exact raising.elim
  | ended outcome =>
      cases outcome with
      | returned result =>
          rw [phase] at raising
          exact raising.elim
      | raised e => exact .inl ⟨e, rfl⟩
  | failing code completed =>
      refine .inr fun calls => ?_
      simp only [stageStep, phase]
      split
      · exact ⟨_, _, rfl, stage_set_same ..⟩
      · split
        · exact ⟨_, _, rfl, stage_set_same ..⟩
        · exact ⟨_, _, rfl, stage_set_same ..⟩

theorem unready_moves (closes : action.closes = some id) (moves : StageMoves runs w action t)
    (unready : ∀ row, ¬ Ready (runs.run id).stage (runs.run id).scope w.db row) :
    t.db = w.db ∧ t.log = w.log ∧ (t.phase id).raises := by
  cases moves with
  | other row events plain held => cases closes
  | refused other preflight calls e idle => cases closes
  | begun other preflight calls row after idle ready admitted wrote => cases closes
  | failed other reply calls reread e executing why =>
      cases closes
      refine ⟨rfl, rfl, ?_⟩
      rw [stage_set_same]
      exact failedPhase_raises _ _ _
  | completed other calls reread result row after executing inScope ready matching wrote =>
      cases closes
      exact absurd ready (unready row)
  | abandoned other calls code completed e fails why =>
      cases closes
      refine ⟨rfl, rfl, ?_⟩
      rw [stage_set_same]
      trivial
  | escalated other calls code completed row after fails clear ready matching wrote =>
      cases closes
      exact absurd ready (unready row)

end Raising

section Outcomes

variable {task : UUID} {runs : StageRuns task} {works : Prop} {id : Nat} {entries : List StageEntry}

def StageAct.isCall : StageAct → Bool
  | .invoked _ => true
  | _ => false

/-- The runner is called at most once, and right after the start was committed. -/
def CalledAfterStart (runs : StageRuns task) (id : Nat) (entries : List StageEntry) : Prop :=
  entries.countP (fun entry => entry.act.isCall) ≤ 1 ∧
    ∀ before entry after, entries = before ++ entry :: after → entry.act.isCall = true →
      ∃ start, before = [start] ∧ StartEntry runs id start

theorem called_once {start call : StageEntry} {more : List StageEntry}
    (starts : StartEntry runs id start) (rest : ∀ entry ∈ more, entry.act.isCall = false) :
    CalledAfterStart runs id (start :: call :: more) := by
  have plain : start.act.isCall = false := by
    rw [starts.1]
    rfl
  constructor
  · have none : more.countP (fun entry => entry.act.isCall) = 0 :=
      List.countP_eq_zero.mpr fun entry member => by rw [rest entry member]; nofun
    rw [List.countP_cons, List.countP_cons, none, plain]
    split <;> simp
  · intro before entry after split invoked
    by_cases called : call.act.isCall = true
    · have first : ∀ entry ∈ [start], ¬ entry.act.isCall = true := by
        intro entry member
        rw [List.mem_singleton.mp member, plain]
        nofun
      have last : ∀ entry ∈ more, ¬ entry.act.isCall = true := by
        intro entry member
        rw [rest entry member]
        nofun
      have apart : [start] ++ call :: more = before ++ entry :: after := split
      have only := split_unique first last apart invoked
      exact ⟨start, only.1, starts⟩
    · have member : entry ∈ start :: call :: more := by
        rw [split]
        simp
      rcases List.mem_cons.mp member with rfl | member
      · rw [plain] at invoked
        cases invoked
      · rcases List.mem_cons.mp member with rfl | member
        · exact absurd invoked called
        · rw [rest entry member] at invoked
          cases invoked

theorem story_called {phase : StagePhase} (story : Story runs id works phase entries) :
    CalledAfterStart runs id entries := by
  have never : CalledAfterStart runs id [] := by
    refine ⟨Nat.zero_le _, ?_⟩
    intro before entry after split
    simp at split
  have nothing : ∀ entry ∈ ([] : List StageEntry), entry.act.isCall = false :=
    fun entry member => absurd member List.not_mem_nil
  have single {last : StageEntry} (plain : last.act.isCall = false) : ∀ entry ∈ [last],
      entry.act.isCall = false := by
    intro entry member
    rw [List.mem_singleton.mp member]
    exact plain
  cases story with
  | idle => exact never
  | rejected e => exact never
  | executing start call starts calls => exact called_once starts nothing
  | failing code start call starts calls => exact called_once starts nothing
  | dropped e start call starts calls excused => exact called_once starts nothing
  | unread code result start call last starts calls completes =>
      exact called_once starts (single (completes.1 ▸ rfl))
  | returned result start call last starts calls completes =>
      exact called_once starts (single (completes.1 ▸ rfl))
  | lost e result start call last starts calls completes excused =>
      exact called_once starts (single (completes.1 ▸ rfl))
  | escalated code start call last starts calls escalates =>
      exact called_once starts (single (escalates.1 ▸ rfl))

theorem story_returned {result : StageResult}
    (story : Story runs id works (.ended (.returned result)) entries) :
    ∃ start call last, entries = [start, call, last] ∧ StartEntry runs id start ∧
    InvokeEntry id call ∧
      CompleteEntry runs id result last := by
  cases story with
  | returned _ start call last starts calls completes => exact ⟨start, call, last, rfl, starts,
      calls, completes⟩

theorem story_escalated {code : StageErrorCode} (working : works)
    (story : Story runs id works (.ended (.raised (.stage (runs.run id).stage code))) entries)
    (began : entries ≠ []) (clear : conflictCode code = false) :
    ∃ start call last, entries = [start, call, last] ∧ StartEntry runs id start ∧
    InvokeEntry id call ∧
      EscalateEntry runs id (safeCode code) last := by
  cases story with
  | rejected e => exact absurd rfl began
  | dropped e start call starts calls excused =>
      rw [excused working _ _ rfl] at clear
      cases clear
  | lost e result start call last starts calls completes excused =>
      rw [excused working _ _ rfl] at clear
      cases clear
  | escalated _ start call last starts calls escalates =>
      exact ⟨start, call, last, rfl, starts, calls, escalates⟩

def opening (db : Database) : StageWorld where
  db := db
  phase _ := .idle
  log := []

def EscalationsWork (id : Nat) (_ : StageWorld) (action : StageAction) : Prop :=
  ∀ calls, action = .escalate id calls → Quiet calls

variable {db : Database} {w : StageWorld}

theorem told_opening (works : Nat → Prop) (held : (db.tasks.get task).isSome = true) :
    Told runs works db.audits (opening db) where
  story _ := .idle
  audits := (List.append_nil _).symm
  held := held

theorem reaches_told {ok : StageWorld → StageAction → Prop} (works : Nat → Prop)
    (held : (db.tasks.get task).isSome = true)
    (tidy : ∀ u action, ok u action → ∀ id calls, action = .escalate id calls →
      works id → Quiet calls)
    (run : Reaches (stageStep runs) ok (opening db) w) : Told runs works db.audits w :=
  run.invariant (Told runs works db.audits) (told_opening works held)
    fun u action _ told allowed taken => told_moves told (stageStep_moves taken)
    (tidy u action allowed)

/-- What the runs of a stage leave behind, whatever the runners do and other actors change. -/
theorem stage_outcomes (held : (db.tasks.get task).isSome = true)
    (run : Reaches (stageStep runs) (fun _ _ => True) (opening db) w) (id : Nat) :
    w.db.audits = db.audits ++ w.log.flatMap StageEntry.events ∧
    CalledAfterStart runs id (entriesOf w.log id) ∧
    (∀ result, w.phase id = .ended (.returned result) → ∃ start call last,
      entriesOf w.log id = [start, call, last] ∧ StartEntry runs id start ∧ InvokeEntry id call ∧
        CompleteEntry runs id result last) ∧
    (Reaches (stageStep runs) (EscalationsWork id) (opening db) w → ∀ code,
      w.phase id = .ended (.raised (.stage (runs.run id).stage code)) → entriesOf w.log id ≠ [] →
        conflictCode code = false → ∃ start call last,
          entriesOf w.log id = [start, call, last] ∧ StartEntry runs id start ∧
          InvokeEntry id call ∧
            EscalateEntry runs id (safeCode code) last) ∧
    ∀ action t, action.closes = some id → stageStep runs w action = some t →
      (∀ row, ¬ Ready (runs.run id).stage (runs.run id).scope w.db row) →
        t.db = w.db ∧ t.log = w.log ∧ ∀ u, Reaches (stageStep runs) (fun _ _ => True) t u →
          (∃ e, u.phase id = .ended (.raised e)) ∨
            ∀ calls, ∃ v e, stageStep runs u (.escalate id calls) = some v ∧
              v.phase id = .ended (.raised e) := by
  have told : Told runs (fun _ => False) db.audits w :=
    reaches_told _ held (fun _ _ _ _ _ _ fails => fails.elim) run
  refine ⟨told.audits, story_called (told.story id), ?_, ?_, ?_⟩
  · intro result ends
    exact story_returned (ends ▸ told.story id)
  · intro tidy code ends began clear
    have told : Told runs (fun other => other = id) db.audits w :=
      reaches_told _ held (fun _ _ allowed other calls same own => allowed calls (own ▸ same)) tidy
    exact story_escalated rfl (ends ▸ told.story id) began clear
  · intro action t closes taken unready
    obtain ⟨db, log, raising⟩ := unready_moves closes (stageStep_moves taken) unready
    refine ⟨db, log, fun u later => raises_ends ?_⟩
    exact later.invariant (fun u => (u.phase id).raises) raising
      fun _ _ _ raising _ taken => raises_moves raising (stageStep_moves taken)

end Outcomes

section Sample

theorem sample_begun (stage : Stage) : ∃ t, stageStep (sampleRuns stage)
    (opening (sampleBase stage.waiting))
      (.begin 0 none sampleCalls) = some t ∧
      t.phase = Function.update (fun _ => .idle) 0 .executing ∧
    entriesOf t.log 0 ≠ [] ∧ t.db.tasks.get 1 = some (sampleRow stage.waiting) ∧
      t.db.audits = [startedEvent stage (sampleScope 0) (sampleRow stage.waiting)] ∧
        (∀ entry ∈ t.log, ∀ code, entry.act ≠ .escalated 0 code) ∧
          t.log = [observe 1 (.started 0) (sampleBase stage.waiting) t.db,
            observe 1 (.invoked 0) t.db t.db] := by
  have ready : Ready stage (sampleScope 0) (sampleBase stage.waiting) (sampleRow stage.waiting) :=
    ⟨rfl, rfl, rfl⟩
  have admitted : startRefused [] (sampleScope 0) stage = false := by cases stage <;> rfl
  have idle : (opening (sampleBase stage.waiting)).phase 0 = .idle := rfl
  obtain ⟨t, taken, phase, log, wrote⟩ :=
    begin_works (sampleRuns stage) sampleCalls_quiet idle ready admitted
  refine ⟨t, taken, phase, ?_, wrote.own, wrote.audits, ?_, log⟩
  · rw [log]
    exact List.cons_ne_nil _ _
  · intro entry member code
    rw [log] at member
    rcases List.mem_pair.mp member with rfl | rfl
    · nofun
    · nofun

/-- A runner that ends with an interrupt leaves a started stage behind. -/
theorem interrupted_unescalated : ∃ w, Reaches (stageStep (sampleRuns .qa)) (EscalationsWork 0)
      (opening (sampleBase .waitingQa)) w ∧ w.phase 0 = .ended (.raised .interrupt) ∧
    entriesOf w.log 0 ≠ [] ∧ statusOf w.db 1 = some .waitingQa ∧
      ∀ entry ∈ w.log, ∀ code, ¬ EscalateEntry (sampleRuns .qa) 0 code entry := by
  obtain ⟨w, begun, phase, began, held, _, none, _⟩ := sample_begun .qa
  have executing : w.phase 0 = .executing := by
    rw [phase]
    exact Function.update_self ..
  have run : Reaches (stageStep (sampleRuns .qa)) (EscalationsWork 0)
      (opening (sampleBase .waitingQa)) w :=
    .tail .refl (fun _ same => by cases same) begun
  have taken :
      stageStep (sampleRuns .qa) w (.finish 0 (.raised .interrupt) sampleCalls (.ok .waitingQa)) =
        _ :=
    finish_raises (sampleRuns .qa) executing .interrupt (.ok .waitingQa)
  refine ⟨_, .tail run (fun _ same => by cases same) taken, stage_set_same .., began, ?_, ?_⟩
  · show (w.db.tasks.get 1).map TaskRow.status = _
    rw [held]
    rfl
  · intro entry member code escalates
    exact none entry member code escalates.1

def samplePass : Security.SecurityResult where
  decision := .pass
  findings := []
  scanner := ⟨PyStr.ofString "suite", true, false, 0, 1⟩
  uncertaintyReasons := []
  rationale := PyStr.ofString "clean"
  confidence := ⟨1, Tools.certain⟩
  correlationId := 0
  valid := by decide

theorem samplePass_inScope : resultInScope .security (sampleScope 0)
    (.security samplePass) = true := by
  decide

theorem sample_named : strip (PyStr.ofString "agent") ≠ [] := by decide

/-- A QA run whose runner times out escalates, and a Security run that passes completes the task. -/
theorem stage_outcomes_sample : (∃ w : StageWorld,
    w.phase 0 = .ended (.raised (.stage .qa .collaboratorFailure)) ∧
      ∃ start call last, entriesOf w.log 0 = [start, call, last] ∧
      StartEntry (sampleRuns .qa) 0 start ∧
        InvokeEntry 0 call ∧ EscalateEntry (sampleRuns .qa) 0 .collaboratorFailure last) ∧
    ∃ w : StageWorld, w.phase 0 = .ended (.returned (.security samplePass)) ∧
      ∃ start call last, entriesOf w.log 0 = [start, call, last] ∧
        StartEntry (sampleRuns .security) 0 start ∧ InvokeEntry 0 call ∧
          last.act = .completed 0 (.security samplePass) ∧ last.status = some .completed := by
  constructor
  case right =>
    obtain ⟨w, begun, phase, _, held, audits, _⟩ := sample_begun .security
    have executing : w.phase 0 = .executing := by
      rw [phase]
      exact Function.update_self ..
    have ready : Ready .security (sampleScope 0) w.db (sampleRow .waitingSecurity) :=
      ⟨held, rfl, rfl⟩
    have matching : hasMatchingStart w.db.audits (sampleScope 0) .security = true := by
      rw [audits]
      decide
    obtain ⟨t, taken, after, _⟩ := finish_works (sampleRuns .security) sampleCalls_quiet executing
      samplePass_inScope sample_named ready matching (.ok .completed)
    have ends : t.phase 0 = .ended (.returned (.security samplePass)) := by
      rw [after, Function.update_self]
      rfl
    have run : Reaches (stageStep (sampleRuns .security)) (fun _ _ => True)
        (opening (sampleBase .waitingSecurity)) t := .tail (.tail .refl trivial begun) trivial taken
    obtain ⟨start, call, last, entries, starts, calls, act, target, row, decides, status, _⟩ :=
      (stage_outcomes rfl run 0).2.2.1 _ ends
    refine ⟨t, ends, start, call, last, entries, starts, calls, act, status.trans ?_⟩
    cases decides with
    | securityPass => rfl
    | securityWarn _ decided => cases decided
    | securityBlock _ decided => cases decided
  obtain ⟨w, begun, phase, began, held, audits, _⟩ := sample_begun .qa
  have executing : w.phase 0 = .executing := by
    rw [phase]
    exact Function.update_self ..
  have run : Reaches (stageStep (sampleRuns .qa)) (EscalationsWork 0)
      (opening (sampleBase .waitingQa)) w :=
    .tail .refl (fun _ same => by cases same) begun
  let u := w.set 0 (.failing .collaboratorFailure false)
  have failed :
    stageStep (sampleRuns .qa) w (.finish 0 (.raised .timeout) sampleCalls (.ok .waitingQa)) =
    some u := finish_raises (sampleRuns .qa) executing .timeout (.ok .waitingQa)
  have fails : u.phase 0 = .failing .collaboratorFailure false := stage_set_same ..
  have ready : Ready .qa (sampleScope 0) u.db (sampleRow .waitingQa) := ⟨held, rfl, rfl⟩
  have matching : hasMatchingStart u.db.audits (sampleScope 0) .qa = true := by
    show hasMatchingStart w.db.audits (sampleScope 0) .qa = true
    rw [audits]
    decide
  obtain ⟨t, taken, phase, log, wrote⟩ :=
    escalate_works (sampleRuns .qa) sampleCalls_quiet fails rfl ready matching
  have reached : Reaches (stageStep (sampleRuns .qa)) (EscalationsWork 0)
      (opening (sampleBase .waitingQa)) t := by
    refine .tail (.tail run (fun _ same => by cases same) failed) ?_ taken
    intro calls same
    cases same
    exact sampleCalls_quiet
  have ends : t.phase 0 = .ended (.raised (.stage .qa .collaboratorFailure)) := by
    rw [phase]
    exact Function.update_self ..
  have left : entriesOf t.log 0 ≠ [] := by
    rw [log, entriesOf_append]
    exact List.append_ne_nil_of_left_ne_nil began _
  have outcomes := stage_outcomes rfl (reached.mono fun _ _ _ => trivial) 0
  exact ⟨t, ends, outcomes.2.2.2.1 reached .collaboratorFailure ends left rfl⟩

end Sample

end SynapseOS.Workflows
