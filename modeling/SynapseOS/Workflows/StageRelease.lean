import SynapseOS.Workflows.StageClaims

/-! What a run of the Security stage that has ended leaves of its claim. -/

namespace SynapseOS.Workflows

open Execution Program Tasks Tools Transition

section Faults

def Benign (stage : Stage) (e : Exn) : Prop := conflictCode (normalizeCode stage e) = false

def Faults (stage : Stage) (calls : Calls) : Prop := ∀ site e, calls site = some e → Benign stage e

variable {stage : Stage} {calls : Calls} {scope : StageScope} {db : Database} {row : TaskRow}
  {target : TaskStatus} {context : TransitionContext} {type : EventType} {data : Metadata}

theorem faults_call (faults : Faults stage calls) (site : Call) :
    Raises (Benign stage) (call calls site : Program Session Exn Unit) := by
  unfold call
  split
  · exact raises_pure ()
  · next e raises => exact raises_raise (faults site e raises)

theorem faults_readTask (task : UUID) : Raises (Benign stage) (readTask task) := by
  unfold readTask
  refine raises_bind raises_look fun session => ?_
  split
  · exact raises_pure _
  · exact raises_raise rfl

theorem faults_editTask (task : UUID) (edit : TaskRow → TaskObject → TaskObject) :
    Raises (Benign stage) (editTask task edit) := by
  unfold editTask
  refine raises_bind raises_look fun session => ?_
  split
  · exact raises_update _
  · exact raises_raise rfl

theorem faults_authorize (task : UUID) (current : TaskStatus) (event : Nat) :
    Raises (Benign stage) (authorizeTaskStatusChange task current target event) := by
  intro s e t run
  rw [authorize_cases] at run
  split at run
  · cases run
    rfl
  · cases run

theorem faults_stageEvent (faults : Faults stage calls) :
    Raises (Benign stage) (stageEvent stage calls scope type data) := by
  unfold stageEvent
  refine raises_bind (faults_readTask _) fun row => ?_
  exact raises_bind (faults_call faults _) fun _ => raises_update _

theorem guard_raises {s : Session} {e : Exn}
    (rejected : rejectUnauthorizedTaskStatusChanges s = some e) :
    ∃ current target, e = .unauthorizedStatusChange current target := by
  have change {task : UUID} {object : TaskObject} (rejects : rejectChange s task object = some e) :
      ∃ current target, e = .unauthorizedStatusChange current target := by
    unfold rejectChange at rejects
    split at rejects
    · cases rejects
    · split at rejects
      · cases rejects
        exact ⟨_, _, rfl⟩
      · split at rejects
        · cases rejects
          exact ⟨_, _, rfl⟩
        · cases rejects
  have leftover {task : UUID} {authorization : Authorization}
      (rejects : rejectLeftover s task authorization = some e) :
      ∃ current target, e = .unauthorizedStatusChange current target := by
    unfold rejectLeftover at rejects
    split at rejects
    · cases rejects
    · cases rejects
      exact ⟨_, _, rfl⟩
  unfold rejectUnauthorizedTaskStatusChanges at rejected
  split at rejected
  · next raised first =>
      cases rejected
      obtain ⟨entry, _, rejects⟩ := List.exists_of_findSome?_eq_some first
      exact change rejects
  · obtain ⟨entry, _, rejects⟩ := List.exists_of_findSome?_eq_some rejected
    exact leftover rejects

theorem faults_commit (faults : Faults stage calls) : Raises (Benign stage) (commit calls) := by
  unfold Tasks.commit flush
  refine raises_bind ?_ fun _ => raises_bind (faults_call faults _) fun _ => raises_update _
  refine raises_bind (faults_call faults _) fun _ => ?_
  refine raises_bind raises_look fun session => ?_
  split
  · next e rejected =>
      obtain ⟨current, target, rfl⟩ := guard_raises rejected
      exact raises_raise rfl
  · split
    · exact raises_update _
    · next e raises => exact raises_bind (raises_update _) fun _ => raises_raise (faults _ e raises)

/-- A transition that the state machine allows does not raise a conflict. -/
theorem faults_transition (faults : Faults stage calls) (held : db.tasks.get scope.task = some row)
    (allowed : canTransition row.status target = true) {e : Exn} {u : Session}
    (run : transition calls scope.task target context (locked db scope.task row) = (.error e, u)) :
    Benign stage e := by
  unfold transition at run
  rcases run_raised run with raised | ⟨_, s, inspected, run⟩
  · exact faults_call faults _ _ _ _ raised
  · have same : s = locked db scope.task row := still_end still_call inspected
    subst same
    split at run
    · cases run
      rfl
    · have shown : readTask scope.task (locked db scope.task row) = (.ok row,
          locked db scope.task row) := by
        unfold readTask
        rw [look_run, locked_view held]
        rfl
      rw [run_ok shown, allowed, if_neg (by simp)] at run
      have rest : Raises (Benign stage) (do
          call calls .metadata
          let session ← look
          authorizeTaskStatusChange scope.task row.status target session.nextEvent
          call calls (.add .taskStatusChanged)
          addEvent (transitionEvent context scope.task row.projectId row.status target)
          writeStatus scope.task target) := by
        refine raises_bind (faults_call faults _) fun _ => raises_bind raises_look fun session => ?_
        refine raises_bind (faults_authorize _ _ _) fun _ =>
          raises_bind (faults_call faults _) fun _ => ?_
        exact raises_bind (raises_update _) fun _ => faults_editTask _ _
      exact rest _ _ _ run

theorem faults_stageMoves (faults : Faults stage calls) (held : db.tasks.get scope.task = some row)
    (matching : hasMatchingStart db.audits scope stage = true)
    (allowed : canTransition row.status target = true)
    {e : Exn} {u : Session}
    (run : stageMoves stage calls scope target context type data (locked db scope.task row) =
      (.error e, u)) :
    Benign stage e := by
  unfold stageMoves requireMatchingStart at run
  rcases run_raised run with raised | ⟨_, s, required, run⟩
  · rcases run_raised raised with raised | ⟨rows, s, queried, raised⟩
    · cases queried : calls .query with
      | none =>
          rw [queryRows_passes queried] at raised
          cases raised
      | some failure =>
          rw [queryRows_raises queried] at raised
          cases raised
          exact faults _ _ queried
    · obtain ⟨rfl, rfl⟩ := queryRows_returned queried
      have there : hasMatchingStart (locked db scope.task row).working.audits scope stage = true :=
        matching
      rw [if_pos there] at raised
      cases raised
  · obtain ⟨rows, m, queried, required⟩ := run_returned required
    obtain ⟨rfl, rfl⟩ := queryRows_returned queried
    have same : s = locked db scope.task row := by
      split at required
      · cases required
        rfl
      · cases required
    subst same
    rcases run_raised run with raised | ⟨_, s, _, raised⟩
    · exact faults_transition faults held allowed raised
    · exact faults_stageEvent faults _ _ _ raised

/-- What a checkpoint raises that meets no conflict: an error of the stage that asks for an
escalation, or what is no `Exception`. -/
def Escalates (stage : Stage) (e : Exn) : Prop :=
  e.isException = false ∨ ∃ code, e = .stage stage code ∧ conflictCode code = false

theorem fail_escalates {task : UUID} {connected : Bool} {snapshot : Option TaskRow}
    {e raised : Exn} {s : Session} (benign : Benign stage e)
    (run : (failCheckpoint (stageHandling stage) calls task connected snapshot e s).1 =
      .error raised) :
    Escalates stage raised := by
  unfold failCheckpoint at run
  split at run
  · next uncaught =>
      cases run
      exact .inl uncaught
  · rw [run_ok (recover_run connected snapshot s)] at run
    cases run
    refine .inr ?_
    split
    · exact ⟨.persistenceFailure, rfl, rfl⟩
    · exact ⟨normalizeCode stage e, rfl, benign⟩

/-- A checkpoint that finds the task ready and whose own part meets no conflict. -/
theorem checkpoint_escalates {staged : Program Session Exn Unit} (faults : Faults stage calls)
    (ready : Ready stage scope db row)
    (benign : ∀ e u, staged (locked db scope.task row) = (.error e, u) → Benign stage e)
    {raised : Exn}
    (run : (commitStageCheckpoint stage calls scope staged (connected db)).1 = .error raised) :
    Escalates stage raised := by
  unfold commitStageCheckpoint commitCheckpoint at run
  cases connects : calls .connection with
  | some e =>
      have calling : (call calls .connection : Program Session Exn Unit) (connected db) = (.error e,
          connected db) := by
        unfold call
        rw [connects]
        rfl
      rw [run_attempt calling] at run
      exact fail_escalates (faults _ e connects) run
  | none =>
      rw [run_attempt (call_run connects)] at run
      dsimp only at run
      rcases opened : openCheckpoint (stageHandling stage) calls scope.task stage.waiting
        (some scope.developerId) (connected db) with ⟨e | found, s⟩
      · rw [run_attempt opened] at run
        refine fail_escalates ?_ run
        unfold openCheckpoint lockedExpectedTask at opened
        rcases run_raised opened with failed | ⟨_, t, configured, opened⟩
        · exact faults_call faults _ _ _ _ failed
        · have same : t = connected db := still_end still_call configured
          subst same
          rcases run_raised opened with failed | ⟨_, t, locks, opened⟩
          · exact faults_call faults _ _ _ _ failed
          · have same : t = connected db := still_end still_call locks
            subst same
            have there : (connected db).working.tasks.get scope.task = some row := ready.held
            rw [look_run, there] at opened
            dsimp only at opened
            rw [update_run, if_neg (by rw [ready.waits, ready.assigned]; simp)] at opened
            cases opened
      · have loaded : found = row ∧ s = locked db scope.task row := by
          rcases open_cases (connected db) with ⟨e, t, _, other⟩ | ⟨again, _, _, held, _, _, other⟩
          · rw [opened] at other
            cases other
          · rw [opened] at other
            cases other
            have same : found = row := Option.some.inj (held.symm.trans ready.held)
            subst same
            exact ⟨rfl, rfl⟩
        obtain ⟨rfl, rfl⟩ := loaded
        rw [run_attempt opened] at run
        dsimp only at run
        rcases committed : (staged >>= fun _ => commit calls) (locked db scope.task found)
          with ⟨e | _, u⟩
        · rw [run_attempt committed] at run
          refine fail_escalates ?_ run
          rcases run_raised committed with failed | ⟨_, m, _, failed⟩
          · exact benign e u failed
          · exact faults_commit faults _ _ _ failed
        · rw [run_attempt committed] at run
          cases run

theorem completed_escalates {result : StageResult}
    (inScope : resultInScope stage scope result = true)
    (faults : Faults stage calls) (ready : Ready stage scope db row)
    (matching : hasMatchingStart db.audits scope stage = true) {raised : Exn}
    (run : (commitCompletedCheckpoint stage calls scope result (connected db)).1 = .error raised) :
    Escalates stage raised := by
  rw [completed_shape inScope] at run
  refine checkpoint_escalates faults ready (fun e u failed => ?_) run
  have allowed : canTransition row.status result.target = true := by
    rw [ready.waits]
    exact inScope_target inScope
  exact faults_stageMoves faults ready.held matching allowed failed

end Faults

section Release

variable {task : UUID} {runs : StageRuns task} {works : Nat → Prop} {w t : StageWorld}
    {action : StageAction}
  {phases : Nat → StagePhase} {phase : StagePhase} {rows base more : List AuditEvent} {id : Nat}

/-- Every Security run ends by returning or by raising an error of the stage, its completion meets
no conflict in its calls and its escalation works. When it completes or escalates, the task still
waits for the stage, with its developer. -/
structure Undisturbed (runs : StageRuns task) (w : StageWorld) (action : StageAction) : Prop where
  ends : ∀ id t e, (runs.run id).stage = .security → stageStep runs w action = some t →
    t.phase id = .ended (.raised e) → ∃ code, e = .stage .security code
  finishes : ∀ id reply calls reread, action = .finish id reply calls reread →
    (runs.run id).stage = .security → Faults .security calls
  escalates : ∀ id calls, action = .escalate id calls → (runs.run id).stage = .security →
    Quiet calls
  stays : ∀ id result calls reread, action = .finish id (.returned result) calls reread →
    (runs.run id).stage = .security → resultInScope .security (runs.run id).scope result = true →
      ∃ row, Ready .security (runs.run id).scope w.db row
  remains : ∀ id calls, action = .escalate id calls → (runs.run id).stage = .security →
    (w.phase id).working → ∃ row, Ready .security (runs.run id).scope w.db row

/-- Every start has its terminal row, but that of a run at work, which can still escalate. -/
structure Released (runs : StageRuns task) (phases : Nat → StagePhase) (rows : List AuditEvent) :
    Prop where
  balanced : ∀ correlation, startCount rows task correlation ≤ terminalCount rows task correlation ∨
    ∃ id, Claims runs .security phases id ∧ correlation = some (runs.run id).scope.correlationId
  clear : ∀ id code, (runs.run id).stage = .security → phases id = .failing code false →
    conflictCode code = false

theorem released_append (released : Released runs phases rows)
    (absent : securityRows more task = []) : Released runs phases (rows ++ more) where
  balanced correlation := by
    rw [startCount_append, terminalCount_append, (counts_without absent).1,
      (counts_without absent).2]
    exact released.balanced correlation
  clear := released.clear

theorem clear_update (released : Released runs phases rows)
    (now : (runs.run id).stage = .security → ∀ code, phase = .failing code false →
      conflictCode code = false)
    (other : Nat) (code : StageErrorCode) (security : (runs.run other).stage = .security)
    (fails : Function.update phases id phase other = .failing code false) :
    conflictCode code = false := by
  by_cases same : other = id
  · subst same
    rw [Function.update_self] at fails
    exact now security code fails
  · rw [Function.update_of_ne same] at fails
    exact released.clear other code security fails

theorem released_update (released : Released runs phases rows)
    (stays : (runs.run id).stage = .security → (phases id).working → phase.working)
    (now : (runs.run id).stage = .security → ∀ code, phase = .failing code false →
      conflictCode code = false) :
    Released runs (Function.update phases id phase) rows where
  balanced correlation := by
    rcases released.balanced correlation with settled | ⟨other, claims, same⟩
    · exact .inl settled
    · refine .inr ⟨other, ⟨claims.1, ?_⟩, same⟩
      by_cases own : other = id
      · subst own
        rw [Function.update_self]
        exact stays claims.1 claims.2
      · rw [Function.update_of_ne own]
        exact claims.2
  clear := clear_update released now

theorem released_started (released : Released runs phases rows)
    (security : (runs.run id).stage = .security)
    {row : TaskRow} (admitted : startRefused rows (runs.run id).scope .security = false) :
    Released runs (Function.update phases id .executing)
      (rows ++ [startedEvent .security (runs.run id).scope row]) where
  balanced correlation := by
    by_cases own : correlation = some (runs.run id).scope.correlationId
    · refine .inr ⟨id, ⟨security, ?_⟩, own⟩
      rw [Function.update_self]
      trivial
    · have settled := admitted_balanced admitted correlation
      have none : startCount [startedEvent .security (runs.run id).scope row]
          (runs.run id).scope.task
        correlation = 0 := started_counts own
      rw [runs.own id] at settled none
      rw [startCount_append, terminalCount_append]
      omega
  clear := clear_update released fun _ _ fails => nomatch fails

theorem released_ended (released : Released runs phases rows)
    (exclusive : Exclusive runs phases rows) (claims : Claims runs .security phases id)
    (now : ∀ code, phase ≠ .failing code false)
    (counts : (∀ correlation, startCount more (runs.run id).scope.task correlation = 0) ∧
      terminalCount more (runs.run id).scope.task (some (runs.run id).scope.correlationId) = 1) :
    Released runs (Function.update phases id phase) (rows ++ more) where
  balanced correlation := by
    have held := (exclusive.held id claims).1
    have terminal := counts.2
    have none := counts.1 correlation
    rw [runs.own id] at held terminal none
    rw [startCount_append, terminalCount_append, none]
    left
    rcases released.balanced correlation with settled | ⟨other, also, rfl⟩
    · omega
    · rw [exclusive.single other id also claims]
      omega
  clear := clear_update released fun _ code fails => absurd fails (now code)

theorem invoke_raises {stage : Stage} {scope : StageScope} {reply : RunnerReply} {e : Exn}
    (run : invokeStage stage scope reply = .error e) :
    e = .stage stage .collaboratorFailure ∨ e.isException = false := by
  cases reply with
  | returned result =>
      simp only [invokeStage] at run
      split at run
      · cases run
      · cases run
        exact .inl rfl
  | foreign =>
      cases run
      exact .inl rfl
  | raised raised =>
      simp only [invokeStage] at run
      cases caught : raised.isException with
      | true =>
          rw [caught] at run
          cases run
          exact .inl rfl
      | false =>
          rw [caught] at run
          cases run
          exact .inr caught

theorem finish_clear {stage : Stage} {e : Exn} (why : Escalates stage e ∨ e = .timeout)
    {code : StageErrorCode}
    (fails : failedPhase stage false e = .failing code false) : conflictCode code = false := by
  unfold failedPhase at fails
  rcases why with (uncaught | ⟨other, rfl, clear⟩) | rfl
  · have none : failureCode stage e = none := by
      cases e with
      | cancelled expired => rfl
      | interrupt => rfl
      | _ => cases uncaught
    rw [none] at fails
    cases fails
  · have own : failureCode stage (.stage stage other) = some other := congrArg some (if_pos rfl)
    rw [own] at fails
    cases fails
    exact clear
  · cases fails
    rfl

theorem leave_escalates {stage : Stage} {e : Exn}
    (origin : e = .stage stage .collaboratorFailure ∨ e.isException = false) :
    Escalates stage (leaveDeadline e) ∨ leaveDeadline e = .timeout := by
  rcases origin with rfl | uncaught
  · exact .inl (.inr ⟨.collaboratorFailure, rfl, rfl⟩)
  · cases e with
    | cancelled expired =>
        cases expired with
        | true => exact .inr rfl
        | false => exact .inl (.inl rfl)
    | interrupt => exact .inl (.inl rfl)
    | _ => cases uncaught

theorem released_moves (told : Told runs works base w)
    (exclusive : Exclusive runs w.phase w.db.audits)
    (released : Released runs w.phase w.db.audits) (undisturbed : Undisturbed runs w action)
    (taken : stageStep runs w action = some t) (moves : StageMoves runs w action t) :
    Released runs t.phase t.db.audits := by
  cases moves with
  | other row events plain held => exact released_append released (securityRows_plain plain)
  | refused id preflight calls e idle =>
      refine released_update released (fun _ working => ?_) fun _ _ fails => nomatch fails
      rw [idle] at working
      exact working
  | begun id preflight calls row after idle ready admitted wrote =>
      show Released runs (Function.update w.phase id .executing) after.audits
      rw [wrote.audits]
      cases stage : (runs.run id).stage with
      | security =>
          rw [stage] at admitted
          exact released_started released stage admitted
      | qa =>
          exact released_append
            (released_update released (fun _ _ => trivial) fun _ _ fails =>
              nomatch fails) qa_started
  | failed id reply calls reread e executing why =>
      have raised : (runs.run id).stage = .security →
          Escalates .security e ∨ e = .timeout := by
        intro security
        rw [FinishRaises, security] at why
        rcases why with ⟨first, run, rfl⟩ | ⟨result, rfl, inScope, run⟩
        · exact leave_escalates (invoke_raises run)
        · obtain ⟨row, ready⟩ := undisturbed.stays id result calls reread rfl security inScope
          have held := exclusive.held id ⟨security, executing ▸ trivial⟩
          exact .inl
            (completed_escalates inScope (undisturbed.finishes id _ calls reread rfl security) ready
            held.2 run)
      refine released_update released (fun security _ => ?_) fun security code fails => ?_
      · rcases failedPhase_cases (runs.run id).stage false e with ⟨code, fails⟩ | ⟨uncaught, ends⟩
        · rw [fails]
          trivial
        · have ended : (w.set id (failedPhase (runs.run id).stage false e)).phase id = .ended
              (.raised e) := by
            rw [stage_set_same, ends]
          obtain ⟨code, rfl⟩ := undisturbed.ends id _ e security taken ended
          cases uncaught
      · rw [security] at fails
        exact finish_clear (raised security) fails
  | completed id calls reread result row after executing inScope ready matching wrote =>
      show Released runs (Function.update w.phase id _) after.audits
      rw [wrote.audits]
      have idle := resultPhase_idle (runs.run id).stage result reread
      have now (code : StageErrorCode) :
          resultPhase (runs.run id).stage result reread ≠ .failing code false := by
        intro fails
        rw [fails] at idle
        exact idle trivial
      cases stage : (runs.run id).stage with
      | security =>
          rw [stage] at now
          exact released_ended released exclusive ⟨stage, executing ▸ trivial⟩ now
            (terminal_counts nofun rfl rfl)
      | qa =>
          rw [stage] at now
          exact released_append
            (released_update released (fun security _ => nomatch stage.symm.trans security)
            fun _ code fails => absurd fails (now code)) qa_terminal
  | abandoned id calls code completed e fails why =>
      refine released_update released (fun security working => ?_) fun _ _ fails => nomatch fails
      have claims : Claims runs .security w.phase id := ⟨security, working⟩
      rw [fails] at working
      cases completed with
      | true => exact working
      | false =>
          have clear := released.clear id code security fails
          obtain ⟨row, ready⟩ := undisturbed.remains id calls rfl security claims.2
          rcases why with ⟨conflict, _⟩ | ⟨raised, run, _⟩
          · rw [clear] at conflict
            cases conflict
          · have held := exclusive.held id claims
            rw [security, escalated_quiet (undisturbed.escalates id calls rfl security) ready.held,
              if_neg (by rw [ready.waits, ready.assigned]; simp), if_pos held.2] at run
            cases run
  | escalated id calls code completed row after fails clear ready matching wrote =>
      show Released runs (Function.update w.phase id _) after.audits
      rw [wrote.audits]
      cases completed with
      | true =>
          rw [unread_unmatched told fails] at matching
          cases matching
      | false =>
          cases stage : (runs.run id).stage with
          | security =>
              exact released_ended released exclusive ⟨stage, fails ▸ trivial⟩ (fun _ => nofun)
                (terminal_counts nofun rfl rfl)
          | qa =>
              exact released_append
                (released_update released (fun security _ => nomatch stage.symm.trans security)
                fun _ _ fails => nomatch fails) qa_terminal

variable {db : Database} {row : TaskRow} {calls : Calls} {scope : StageScope}

theorem reaches_released (held : (db.tasks.get task).isSome = true)
    (matched : hasUnmatchedSecurityStart db.audits task = false)
    (run : Reaches (stageStep runs) (Undisturbed runs) (opening db) w) :
    Released runs w.phase w.db.audits := by
  let known (w : StageWorld) : Prop :=
    Told runs (fun _ => False) db.audits w ∧ Exclusive runs w.phase w.db.audits
  have base : known (opening db) := ⟨told_opening _ held, exclusive_opening db⟩
  have start : Released runs (opening db).phase (opening db).db.audits :=
    ⟨fun correlation => .inl (unmatched_iff.mp matched correlation),
      fun _ _ _ fails => nomatch fails⟩
  refine run.invariant_under known (fun w => Released runs w.phase w.db.audits) base start ?_ ?_
  · intro u action v known _ taken
    have moves := stageStep_moves taken
    exact ⟨told_moves known.1 moves fun _ _ _ fails => fails.elim,
      exclusive_moves known.1 known.2 moves⟩
  · intro u action v known released undisturbed taken
    exact released_moves known.1 known.2 released undisturbed taken (stageStep_moves taken)

/-- Once no run of the Security stage is at work, a run with a fresh correlation can start. -/
theorem ended_runs_release (held : (db.tasks.get task).isSome = true)
    (matched : hasUnmatchedSecurityStart db.audits task = false)
    (run : Reaches (stageStep runs) (Undisturbed runs) (opening db) w)
    (idle : ∀ id, ¬ Claims runs .security w.phase id) (own : scope.task = task)
    (fresh : ∀ event ∈ w.db.audits, event.correlationId ≠ some scope.correlationId)
    (ready : Ready .security scope w.db row) (quiet : Quiet calls) :
    (commitStartedCheckpoint .security calls scope (connected w.db)).1 = .ok () := by
  have released := reaches_released held matched run
  have free : hasUnmatchedSecurityStart w.db.audits scope.task = false := by
    rw [own]
    refine unmatched_iff.mpr fun correlation => ?_
    rcases released.balanced correlation with settled | ⟨id, claims, _⟩
    · exact settled
    · exact absurd claims (idle id)
  have unused : hasCurrentSecurityEvent w.db.audits scope = false :=
    List.any_eq_false.mpr fun event member same =>
      fresh event (List.mem_filter.mp member).1 (of_decide_eq_true same)
  exact started_works quiet ready (Bool.or_eq_false_iff.mpr ⟨free, unused⟩)

end Release

section Sample

def EndedInStage (w : StageWorld) : Prop :=
  ∀ id e, w.phase id = .ended (.raised e) → ∃ code, e = .stage .security code

theorem ends_known {task : UUID} {runs : StageRuns task} {w v : StageWorld} {action : StageAction}
    (taken : stageStep runs w action = some v) (ended : EndedInStage v) (id : Nat)
    (t : StageWorld) (e : Exn)
    (_ : (runs.run id).stage = .security) (also : stageStep runs w action = some t)
    (ends : t.phase id = .ended (.raised e)) : ∃ code, e = .stage .security code := by
  have same : t = v := Option.some.inj (also.symm.trans taken)
  rw [same] at ends
  exact ended id e ends

section Undisturbed

variable {task : UUID} {runs : StageRuns task} {w v : StageWorld} {id : Nat} {calls : Calls}

theorem undisturbed_other {row : TaskRow} {events : List AuditEvent} (ended : EndedInStage w) :
    Undisturbed runs w (.other row events) := by
  constructor
  · intro id t e _ taken ends
    have same : t.phase = w.phase := by
      cases stageStep_moves taken with
      | other row events plain held => rfl
    rw [same] at ends
    exact ended id e ends
  · intro id reply calls reread same
    cases same
  · intro id calls same
    cases same
  · intro id result calls reread same
    cases same
  · intro id calls same
    cases same

theorem undisturbed_begin {preflight : Option StageErrorCode}
    (taken : stageStep runs w (.begin id preflight calls) = some v) (ended : EndedInStage v) :
    Undisturbed runs w (.begin id preflight calls) := by
  refine ⟨ends_known taken ended, ?_, ?_, ?_, ?_⟩
  · intro id reply calls reread same
    cases same
  · intro id calls same
    cases same
  · intro id result calls reread same
    cases same
  · intro id calls same
    cases same

theorem undisturbed_raised {e : Exn} {reread : Except Exn TaskStatus} (quiet : Quiet calls)
    (taken : stageStep runs w (.finish id (.raised e) calls reread) = some v)
    (ended : EndedInStage v) : Undisturbed runs w (.finish id (.raised e) calls reread) := by
  refine ⟨ends_known taken ended, ?_, ?_, ?_, ?_⟩
  · intro other reply calls reread same _ site e raises
    cases same
    rw [quiet site] at raises
    cases raises
  · intro other calls same
    cases same
  · intro other result calls reread same
    cases same
  · intro other calls same
    cases same

theorem undisturbed_escalate {row : TaskRow} (quiet : Quiet calls)
    (ready : Ready .security (runs.run id).scope w.db row)
    (taken : stageStep runs w (.escalate id calls) = some v) (ended : EndedInStage v) :
    Undisturbed runs w (.escalate id calls) := by
  refine ⟨ends_known taken ended, ?_, ?_, ?_, ?_⟩
  · intro other reply calls reread same
    cases same
  · intro other calls same _
    cases same
    exact quiet
  · intro other result calls reread same
    cases same
  · intro other calls same _ _
    cases same
    exact ⟨row, ready⟩

end Undisturbed

/-- A run that escalated holds its task no longer. -/
theorem ended_runs_release_sample : ∃ w : StageWorld,
    w.phase 0 = .ended (.raised (.stage .security .collaboratorFailure)) ∧
      (commitStartedCheckpoint .security sampleCalls (sampleScope 1) (connected w.db)).1 =
        .ok () := by
  obtain ⟨w, begun, phase, _, there, audits, _⟩ := sample_begun .security
  have executing : w.phase 0 = .executing := by
    rw [phase]
    exact Function.update_self ..
  let u := w.set 0 (.failing .collaboratorFailure false)
  have failed :
    stageStep (sampleRuns .security) w (.finish 0 (.raised .timeout) sampleCalls (.ok .completed)) =
    some u := finish_raises (sampleRuns .security) executing .timeout (.ok .completed)
  have fails : u.phase 0 = .failing .collaboratorFailure false := stage_set_same ..
  have ready : Ready .security (sampleScope 0) u.db (sampleRow .waitingSecurity) :=
    ⟨there, rfl, rfl⟩
  have matching : hasMatchingStart u.db.audits (sampleScope 0) .security = true := by
    show hasMatchingStart w.db.audits (sampleScope 0) .security = true
    rw [audits]
    decide
  obtain ⟨v, escalated, after, _, wrote⟩ :=
    escalate_works (sampleRuns .security) sampleCalls_quiet fails rfl ready matching
  have began : EndedInStage w := by
    intro id e ends
    rw [phase] at ends
    by_cases own : id = 0
    · rw [own, Function.update_self] at ends
      cases ends
    · rw [Function.update_of_ne own] at ends
      cases ends
  have failing : EndedInStage u := by
    intro id e ends
    by_cases own : id = 0
    · rw [own, fails] at ends
      cases ends
    · have kept : u.phase id = w.phase id := stage_set_other own
      rw [kept] at ends
      exact began id e ends
  have ended : EndedInStage v := by
    intro id e ends
    rw [after] at ends
    by_cases own : id = 0
    · rw [own, Function.update_self] at ends
      cases ends
      exact ⟨_, rfl⟩
    · rw [Function.update_of_ne own] at ends
      exact failing id e ends
  obtain ⟨t, last, back, kept, rows, foreign, _, returned⟩ := moves_reach .security
    (Undisturbed (sampleRuns .security))
    [.ready, .assigned, .inProgress, .waitingReview, .waitingQa, .waitingSecurity] wrote.own
    fun x row events same => undisturbed_other fun id e ends => ended id e (same ▸ ends)
  have run : Reaches (stageStep (sampleRuns .security)) (Undisturbed (sampleRuns .security))
      (opening (sampleBase .waitingSecurity)) t := by
    refine Reaches.trans ?_ back
    refine .tail (.tail (.tail .refl ?_ begun) ?_ failed) ?_ escalated
    · exact undisturbed_begin begun began
    · exact undisturbed_raised sampleCalls_quiet failed failing
    · exact undisturbed_escalate sampleCalls_quiet ready escalated ended
  have idle : ∀ id, ¬ Claims (sampleRuns .security) .security t.phase id := by
    intro id claims
    have working := claims.2
    rw [kept, after] at working
    by_cases own : id = 0
    · rw [own, Function.update_self] at working
      exact working
    · have same : u.phase id = w.phase id := stage_set_other own
      rw [Function.update_of_ne own, same, phase, Function.update_of_ne own] at working
      exact working
  refine ⟨t, ?_, ended_runs_release rfl rfl run idle rfl ?_ ⟨returned, rfl, rfl⟩ sampleCalls_quiet⟩
  · rw [kept, after]
    exact Function.update_self ..
  · intro event member
    have first :
      u.db.audits = [startedEvent .security (sampleScope 0) (sampleRow .waitingSecurity)] := audits
    rw [rows, wrote.audits, first] at member
    rcases List.mem_append.mp member with own | late
    · rcases List.mem_append.mp own with start | terminal
      · rw [List.mem_singleton.mp start]
        nofun
      · rcases List.mem_pair.mp terminal with rfl | rfl
        · nofun
        · nofun
    · rw [(foreign event late).2]
      nofun

/-- A run that finds its task moved away ends and still holds the task when it comes back. -/
theorem ended_run_blocks : ∃ w, Reaches (stageStep (sampleRuns .security)) (fun _ _ => True)
      (opening (sampleBase .waitingSecurity)) w ∧
    w.phase 0 = .ended (.raised (.stage .security .concurrentModification)) ∧
    (∀ id, ¬ Claims (sampleRuns .security) .security w.phase id) ∧
    Ready .security (sampleScope 1) w.db (sampleRow .waitingSecurity) ∧
    (∀ event ∈ w.db.audits, event.correlationId ≠ some 1) ∧
      (commitStartedCheckpoint .security sampleCalls (sampleScope 1) (connected w.db)).1 =
        .error (.stage .security .invalidState) := by
  obtain ⟨w, begun, phase, _, there, audits, _⟩ := sample_begun .security
  obtain ⟨u, first, away, left, rows, plain, _, gone⟩ :=
    moves_reach .security (fun _ _ => True) [.changesRequested] there fun _ _ _ _ => trivial
  have executing : u.phase 0 = .executing := by
    rw [left, phase]
    exact Function.update_self ..
  have failed : stageStep (sampleRuns .security) u
      (.finish 0 (.returned (.security samplePass)) sampleCalls (.ok .completed)) =
        some (u.set 0 (.failing .concurrentModification false)) :=
    finish_conflicts (sampleRuns .security) sampleCalls_quiet executing samplePass_inScope
      sample_named gone nofun _
  let v := (u.set 0 (.failing .concurrentModification false)).set 0
    (.ended (.raised (.stage .security .concurrentModification)))
  have abandoned :
    stageStep (sampleRuns .security) (u.set 0 (.failing .concurrentModification false))
      (.escalate 0 sampleCalls) = some v :=
        escalate_abandons (sampleRuns .security) (stage_set_same ..) rfl
  have moved : v.db.tasks.get 1 = some (sampleRow .changesRequested) := gone
  have early :
      v.db.audits = [startedEvent .security (sampleScope 0) (sampleRow .waitingSecurity)] ++
        first :=
    rows.trans (congrArg (· ++ first) audits)
  obtain ⟨t, last, back, after, others, foreign, _, returned⟩ :=
    moves_reach .security (fun _ _ => True) [.inProgress, .waitingReview, .waitingQa,
      .waitingSecurity] moved fun _ _ _ _ => trivial
  have begun : Reaches (stageStep (sampleRuns .security)) (fun _ _ => True)
      (opening (sampleBase .waitingSecurity)) w :=
    .tail .refl trivial begun
  have reached := (((begun.trans away).tail trivial failed).tail trivial abandoned).trans back
  have ended : t.phase 0 = .ended (.raised (.stage .security .concurrentModification)) := by
    rw [after]
    exact stage_set_same ..
  have ready : Ready .security (sampleScope 1) t.db (sampleRow .waitingSecurity) :=
    ⟨returned, rfl, rfl⟩
  have stored : t.db.audits =
      [startedEvent .security (sampleScope 0) (sampleRow .waitingSecurity)] ++ (first ++ last) := by
    rw [others, early, List.append_assoc]
  have holds : Held t.db.audits (sampleScope 0) := by
    have started :
      Held ([] ++ [startedEvent .security (sampleScope 0) (sampleRow .waitingSecurity)])
      (sampleScope 0) := held_started rfl
    rw [stored]
    refine held_append started (foreign_without fun event member => ?_)
    rcases List.mem_append.mp member with early | late
    · rw [(plain event early).1]
      nofun
    · rw [(foreign event late).1]
      nofun
  refine ⟨t, reached, ended, ?_, ready, ?_,
    started_refused sampleCalls_quiet ready (held_refuses holds rfl)⟩
  · intro id claims
    have working := claims.2
    rw [after] at working
    by_cases own : id = 0
    · rw [own, stage_set_same] at working
      exact working
    · rw [stage_set_other own, stage_set_other own, left, phase, Function.update_of_ne own]
        at working
      exact working
  · intro event member
    rw [stored] at member
    rcases List.mem_append.mp member with start | rest
    · rw [List.mem_singleton.mp start]
      decide
    · rcases List.mem_append.mp rest with early | late
      · rw [(plain event early).2]
        nofun
      · rw [(foreign event late).2]
        nofun

end Sample

end SynapseOS.Workflows
