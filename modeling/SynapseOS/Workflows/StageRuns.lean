import SynapseOS.Lib.Transition
import SynapseOS.Workflows.StageEffects

/-! Runs of the QA and the Security stage over one task (`core/workflows/qa_orchestrator.py`,
`core/workflows/security_orchestrator.py`), between which other actors move the task. -/

namespace SynapseOS.Workflows

open Execution Program Tasks Tools Transition

section Orchestrator

inductive RunnerReply
  | returned (result : StageResult)
  | foreign
  | raised (e : Exn)

/-- `_validate_qa_result_scope` and `_validate_security_result_scope`, with the type of the
result. -/
def resultInScope (stage : Stage) (scope : StageScope) : StageResult → Bool
  | .qa result => decide (stage = .qa ∧ result.correlationId = scope.correlationId ∧
      result.criteria.length = scope.criterionCount ∧
      result.tests.map (fun test => test.profileId) = scope.requiredTestProfiles)
  | .security result => decide (stage = .security ∧ result.correlationId = scope.correlationId)

/-- `_invoke_qa` and `_invoke_security`. -/
def invokeStage (stage : Stage) (scope : StageScope) : RunnerReply → Except Exn StageResult
  | .returned result =>
      if resultInScope stage scope result = true then .ok result
      else .error (.stage stage .collaboratorFailure)
  | .foreign => .error (.stage stage .collaboratorFailure)
  | .raised e => .error (if e.isException = true then .stage stage .collaboratorFailure else e)

/-- The exit of `asyncio.timeout`. -/
def leaveDeadline : Exn → Exn
  | .cancelled true => .timeout
  | e => e

/-- The `except` clauses of `_run_with_deadline`; what is no `Exception` passes. -/
def failureCode (stage : Stage) : Exn → Option StageErrorCode
  | .cancelled _ | .interrupt => none
  | .timeout => some .timeout
  | .stage raised code => some (if raised = stage then code else .internalFailure)
  | _ => some .internalFailure

def conflictCode (code : StageErrorCode) : Bool :=
  [StageErrorCode.invalidState, .concurrentModification].contains code

/-- The code that `_safe_escalation_code` records. -/
def safeCode (code : StageErrorCode) : StageErrorCode :=
  if [StageErrorCode.timeout, .collaboratorFailure, .persistenceFailure].contains code then code
  else .internalFailure

end Orchestrator

structure StageRun where
  stage : Stage
  scope : StageScope

structure StageRuns (task : UUID) where
  run : Nat → StageRun
  own : ∀ id, (run id).scope.task = task

inductive StageOutcome
  | returned (result : StageResult)
  | raised (e : Exn)

/-- Where a run is. One that fails remembers whether its completion was committed. -/
inductive StagePhase
  | idle
  | executing
  | failing (code : StageErrorCode) (completed : Bool)
  | ended (outcome : StageOutcome)

inductive StageAct
  | started (id : Nat)
  | invoked (id : Nat)
  | completed (id : Nat) (result : StageResult)
  | escalated (id : Nat) (code : StageErrorCode)
  | other

/-- A commit or a call of a runner, with the status of the task after it and the rows it
appended. -/
structure StageEntry where
  act : StageAct
  status : Option TaskStatus
  events : List AuditEvent

structure StageWorld where
  db : Database
  phase : Nat → StagePhase
  log : List StageEntry

/-- What happens between two awaits, or between two transactions. `reread` is what reading the
status of the completed task gives. -/
inductive StageAction
  | other (row : TaskRow) (events : List AuditEvent)
  | begin (id : Nat) (preflight : Option StageErrorCode) (calls : Calls)
  | finish (id : Nat) (reply : RunnerReply) (calls : Calls) (reread : Except Exn TaskStatus)
  | escalate (id : Nat) (calls : Calls)

def isStageType : EventType → Bool
  | .started _ | .completed _ | .escalated _ => true
  | _ => false

section Steps

variable {task : UUID} (runs : StageRuns task)

def statusOf (db : Database) (task : UUID) : Option TaskStatus :=
  (db.tasks.get task).map TaskRow.status

def observe (task : UUID) (act : StageAct) (db after : Database) : StageEntry where
  act := act
  status := statusOf after task
  events := after.audits.drop db.audits.length

def changed (db : Database) (task : UUID) (row : TaskRow) (events : List AuditEvent) :
    Database where
  tasks := db.tasks.set task row
  audits := db.audits ++ events

def StageWorld.set (w : StageWorld) (id : Nat) (phase : StagePhase) : StageWorld :=
  { w with phase := Function.update w.phase id phase }

def failedPhase (stage : Stage) (completed : Bool) (e : Exn) : StagePhase :=
  match failureCode stage e with
  | some code => .failing code completed
  | none => .ended (.raised e)

/-- The exception that leaves a run whose start or escalation raised one. -/
def surfaced (stage : Stage) (e : Exn) : Exn :=
  match failureCode stage e with
  | some code => .stage stage code
  | none => e

/-- `_workflow_result`, whose model wants the status and the decision to agree. -/
def resultPhase (stage : Stage) (result : StageResult) : Except Exn TaskStatus → StagePhase
  | .ok status =>
      if status = result.target then .ended (.returned result) else .failing .internalFailure true
  | .error e => failedPhase stage true e

def stageStep (w : StageWorld) : StageAction → Option StageWorld
  | .other row events =>
      if events.all (fun event => !isStageType event.eventType) = true ∧
        (w.db.tasks.get task).isSome then
        let after := changed w.db task row events
        some { w with db := after, log := w.log ++ [observe task .other w.db after] }
      else none
  | .begin id preflight calls =>
      let run := runs.run id
      match w.phase id, preflight with
      | .idle, some code => some (w.set id (.ended (.raised (.stage run.stage code))))
      | .idle, none =>
          match commitStartedCheckpoint run.stage calls run.scope (connected w.db) with
          | (.ok _, s) => some { w.set id .executing with
              db := s.committed
              log := w.log ++ [observe task (.started id) w.db s.committed,
                observe task (.invoked id) s.committed s.committed] }
          | (.error e, s) =>
              some { w.set id (.ended (.raised (surfaced run.stage e))) with db := s.committed }
      | _, _ => none
  | .finish id reply calls reread =>
      let run := runs.run id
      match w.phase id with
      | .executing =>
          match invokeStage run.stage run.scope reply with
          | .error e => some (w.set id (failedPhase run.stage false (leaveDeadline e)))
          | .ok result =>
              match commitCompletedCheckpoint run.stage calls run.scope result (connected w.db) with
              | (.ok _, s) => some { w.set id (resultPhase run.stage result reread) with
                  db := s.committed
                  log := w.log ++ [observe task (.completed id result) w.db s.committed] }
              | (.error e, s) =>
                  some { w.set id (failedPhase run.stage false e) with db := s.committed }
      | _ => none
  | .escalate id calls =>
      let run := runs.run id
      match w.phase id with
      | .failing code _ =>
          if conflictCode code = true
            then some (w.set id (.ended (.raised (.stage run.stage code))))
          else
            match commitEscalatedCheckpoint run.stage calls run.scope (safeCode code)
              (connected w.db) with
            | (.ok _, s) => some { w.set id (.ended (.raised (.stage run.stage code))) with
                db := s.committed
                log := w.log ++ [observe task (.escalated id (safeCode code)) w.db s.committed] }
            | (.error e, s) =>
                some { w.set id (.ended (.raised (surfaced run.stage e))) with db := s.committed }
      | _ => none

end Steps

section Checkpoints

variable {stage : Stage} {calls : Calls} {scope : StageScope} {db : Database} {row : TaskRow}
  {result : StageResult} {code : StageErrorCode}

theorem inScope_correlated (inScope : resultInScope stage scope result = true) :
    result.correlationId = scope.correlationId := by
  cases result with
  | qa result => exact (of_decide_eq_true inScope).2.1
  | security result => exact (of_decide_eq_true inScope).2

theorem inScope_target (inScope : resultInScope stage scope result = true) :
    canTransition stage.waiting result.target = true := by
  cases result with
  | qa result =>
      obtain ⟨rfl, _⟩ := of_decide_eq_true inScope
      unfold StageResult.target
      dsimp only
      cases result.decision <;> rfl
  | security result =>
      obtain ⟨rfl, _⟩ := of_decide_eq_true inScope
      unfold StageResult.target
      dsimp only
      cases result.decision <;> rfl

theorem safeCode_escalates (code : StageErrorCode) : escalationCode (safeCode code) = true := by
  cases code <;> rfl

def completedEvent (stage : Stage) (scope : StageScope) (row : TaskRow) (result : StageResult) :
    AuditEvent :=
  checkpointEvent stage scope (.completed stage) row.projectId (completedData scope result)

def escalatedEvent (stage : Stage) (scope : StageScope) (row : TaskRow) (code : StageErrorCode) :
    AuditEvent :=
  checkpointEvent stage scope (.escalated stage) row.projectId (escalatedData stage scope code)

theorem completed_shape (inScope : resultInScope stage scope result = true) :
    commitCompletedCheckpoint stage calls scope result = commitStageCheckpoint stage calls scope
      (stageMoves stage calls scope result.target (completionContext scope result)
        (.completed stage) (completedData scope result)) := by
  unfold commitCompletedCheckpoint
  rw [if_neg (not_not.mpr (inScope_correlated inScope))]
  rfl

theorem escalated_shape (code : StageErrorCode) :
    commitEscalatedCheckpoint stage calls scope (safeCode code) =
      commitStageCheckpoint stage calls scope
      (stageMoves stage calls scope .waitingHuman (escalationContext stage scope (safeCode code))
        (.escalated stage) (escalatedData stage scope (safeCode code))) := by
  unfold commitEscalatedCheckpoint
  rw [safeCode_escalates, if_neg (by simp)]
  rfl

theorem completed_cases (inScope : resultInScope stage scope result = true) :
    (∃ e t, commitCompletedCheckpoint stage calls scope result (connected db) = (.error e, t) ∧
      t.committed = db ∧ Refusal stage e) ∨
    ∃ row t, Ready stage scope db row ∧ hasMatchingStart db.audits scope stage = true ∧
      commitCompletedCheckpoint stage calls scope result (connected db) = (.ok (), t) ∧
      Wrote db t.committed scope.task { row with status := result.target }
        [movedEvent scope.task row result.target (completionContext scope result),
          completedEvent stage scope row result] := by
  rw [completed_shape inScope]
  exact moves_cases

theorem escalated_cases :
    (∃ e t, commitEscalatedCheckpoint stage calls scope (safeCode code) (connected db) =
      (.error e, t) ∧
      t.committed = db ∧ Refusal stage e) ∨
    ∃ row t, Ready stage scope db row ∧ hasMatchingStart db.audits scope stage = true ∧
      commitEscalatedCheckpoint stage calls scope (safeCode code) (connected db) = (.ok (), t) ∧
      Wrote db t.committed scope.task { row with status := .waitingHuman }
        [movedEvent scope.task row .waitingHuman (escalationContext stage scope (safeCode code)),
          escalatedEvent stage scope row (safeCode code)] := by
  rw [escalated_shape]
  exact moves_cases

theorem escalationContext_valid : (escalationContext stage scope code).valid = true := by
  have spoken : strip (escalationContext stage scope code).reason ≠ [] := by
    cases stage with
    | qa =>
        show strip (PyStr.ofString "QA workflow safely escalated for human attention.") ≠ []
        rw [PyStr.ofString_ofList]
        decide
    | security =>
        show strip (PyStr.ofString "Security workflow safely escalated for human attention.") ≠ []
        rw [PyStr.ofString_ofList]
        decide
  unfold TransitionContext.valid
  rw [decide_eq_true spoken]
  rfl

theorem escalated_quiet (quiet : Quiet calls) (held : db.tasks.get scope.task = some row) :
    (commitEscalatedCheckpoint stage calls scope (safeCode code) (connected db)).1 =
      if row.status ≠ stage.waiting ∨ row.assignedAgentId ≠ some scope.developerId then
        .error (.stage stage .concurrentModification)
      else if hasMatchingStart db.audits scope stage = true then .ok ()
      else .error (.stage stage .invalidState) := by
  have allowed : canTransition stage.waiting .waitingHuman = true := by cases stage <;> rfl
  rw [escalated_shape]
  exact moves_quiet quiet held escalationContext_valid allowed

end Checkpoints

section Moves

variable {task : UUID} (runs : StageRuns task)

def FinishRaises (run : StageRun) (db : Database) (reply : RunnerReply) (calls : Calls) (e : Exn) :
    Prop :=
  (∃ raised, invokeStage run.stage run.scope reply = .error raised ∧ e = leaveDeadline raised) ∨
    ∃ result, reply = .returned result ∧ resultInScope run.stage run.scope result = true ∧
      (commitCompletedCheckpoint run.stage calls run.scope result (connected db)).1 = .error e

inductive StageMoves (w : StageWorld) : StageAction → StageWorld → Prop
  | other (row : TaskRow) (events : List AuditEvent)
      (plain : events.all (fun event => !isStageType event.eventType) = true)
      (held : (w.db.tasks.get task).isSome) :
      StageMoves w (.other row events) { w with
        db := changed w.db task row events
        log := w.log ++ [observe task .other w.db (changed w.db task row events)] }
  | refused (id : Nat) (preflight : Option StageErrorCode) (calls : Calls) (e : Exn)
      (idle : w.phase id = .idle) :
      StageMoves w (.begin id preflight calls) (w.set id (.ended (.raised e)))
  | begun (id : Nat) (preflight : Option StageErrorCode) (calls : Calls) (row : TaskRow)
      (after : Database)
      (idle : w.phase id = .idle) (ready : Ready (runs.run id).stage (runs.run id).scope w.db row)
      (admitted : startRefused w.db.audits (runs.run id).scope (runs.run id).stage = false)
      (wrote : Wrote w.db after task row
        [startedEvent (runs.run id).stage (runs.run id).scope row]) :
      StageMoves w (.begin id preflight calls) { w.set id .executing with
        db := after
        log := w.log ++ [observe task (.started id) w.db after,
          observe task (.invoked id) after after] }
  | failed (id : Nat) (reply : RunnerReply) (calls : Calls) (reread : Except Exn TaskStatus)
      (e : Exn)
      (executing : w.phase id = .executing) (why : FinishRaises (runs.run id) w.db reply calls e) :
      StageMoves w (.finish id reply calls reread)
      (w.set id (failedPhase (runs.run id).stage false e))
  | completed (id : Nat) (calls : Calls) (reread : Except Exn TaskStatus) (result : StageResult)
      (row : TaskRow) (after : Database) (executing : w.phase id = .executing)
      (inScope : resultInScope (runs.run id).stage (runs.run id).scope result = true)
      (ready : Ready (runs.run id).stage (runs.run id).scope w.db row)
      (matching : hasMatchingStart w.db.audits (runs.run id).scope (runs.run id).stage = true)
      (wrote : Wrote w.db after task { row with status := result.target }
        [movedEvent task row result.target (completionContext (runs.run id).scope result),
          completedEvent (runs.run id).stage (runs.run id).scope row result]) :
      StageMoves w (.finish id (.returned result) calls reread)
        { w.set id (resultPhase (runs.run id).stage result reread) with
          db := after
          log := w.log ++ [observe task (.completed id result) w.db after] }
  | abandoned (id : Nat) (calls : Calls) (code : StageErrorCode) (completed : Bool) (e : Exn)
      (fails : w.phase id = .failing code completed)
      (why : (conflictCode code = true ∧ e = .stage (runs.run id).stage code) ∨ ∃ raised,
        (commitEscalatedCheckpoint (runs.run id).stage calls (runs.run id).scope (safeCode code)
          (connected w.db)).1 = .error raised ∧ e = surfaced (runs.run id).stage raised) :
      StageMoves w (.escalate id calls) (w.set id (.ended (.raised e)))
  | escalated (id : Nat) (calls : Calls) (code : StageErrorCode) (completed : Bool)
      (row : TaskRow) (after : Database) (fails : w.phase id = .failing code completed)
      (clear : conflictCode code = false)
      (ready : Ready (runs.run id).stage (runs.run id).scope w.db row)
      (matching : hasMatchingStart w.db.audits (runs.run id).scope (runs.run id).stage = true)
      (wrote : Wrote w.db after task { row with status := .waitingHuman }
        [movedEvent task row .waitingHuman
            (escalationContext (runs.run id).stage (runs.run id).scope (safeCode code)),
          escalatedEvent (runs.run id).stage (runs.run id).scope row (safeCode code)]) :
      StageMoves w
        (.escalate id calls) { w.set id (.ended (.raised (.stage (runs.run id).stage code))) with
        db := after
        log := w.log ++ [observe task (.escalated id (safeCode code)) w.db after] }

variable {runs} {w t : StageWorld}

theorem stageStep_moves {action : StageAction} (taken : stageStep runs w action = some t) :
    StageMoves runs w action t := by
  cases action with
  | other row events =>
      simp only [stageStep] at taken
      split at taken
      · next both =>
          cases taken
          exact .other row events both.1 both.2
      · cases taken
  | begin id preflight calls =>
      simp only [stageStep] at taken
      split at taken
      · next code idle =>
          cases taken
          exact .refused id _ calls _ idle
      · next idle =>
          rcases started_cases with ⟨e, s, run, same, _⟩ | ⟨row, s, ready, admitted, run, wrote⟩
          · rw [run] at taken
            cases taken
            rw [same]
            exact .refused id none calls _ idle
          · rw [run] at taken
            cases taken
            rw [runs.own id] at wrote
            exact .begun id none calls row _ idle ready admitted wrote
      · cases taken
  | finish id reply calls reread =>
      simp only [stageStep] at taken
      split at taken
      · next executing =>
          cases reply with
          | foreign =>
              cases taken
              exact .failed id _ calls reread _ executing (.inl ⟨_, rfl, rfl⟩)
          | raised e =>
              cases taken
              exact .failed id _ calls reread _ executing (.inl ⟨_, rfl, rfl⟩)
          | returned result =>
              cases inScope : resultInScope (runs.run id).stage (runs.run id).scope result with
              | false =>
                  have raises :
                    invokeStage (runs.run id).stage (runs.run id).scope (.returned result) =
                      .error (.stage (runs.run id).stage .collaboratorFailure) :=
                    if_neg (Bool.not_eq_true _ ▸ inScope)
                  rw [raises] at taken
                  cases taken
                  exact .failed id _ calls reread _ executing (.inl ⟨_, raises, rfl⟩)
              | true =>
                  simp only [invokeStage, inScope, if_true] at taken
                  rcases completed_cases inScope
                    with ⟨e, s, run, same, _⟩ | ⟨row, s, ready, matching, run, wrote⟩
                  · have raised := congrArg Prod.fst run
                    rw [run] at taken
                    cases taken
                    rw [same]
                    exact .failed id _ calls reread _ executing
                      (.inr ⟨result, rfl, inScope, raised⟩)
                  · rw [run] at taken
                    cases taken
                    rw [runs.own id] at wrote
                    exact .completed id calls reread result row _ executing inScope ready
                      matching wrote
      · cases taken
  | escalate id calls =>
      simp only [stageStep] at taken
      split at taken
      · next code completed fails =>
          split at taken
          · next conflict =>
              cases taken
              exact .abandoned id calls code completed _ fails (.inl ⟨conflict, rfl⟩)
          · next clear =>
              rcases escalated_cases
                with ⟨e, s, run, same, _⟩ | ⟨row, s, ready, matching, run, wrote⟩
              · have raised := congrArg Prod.fst run
                rw [run] at taken
                cases taken
                rw [same]
                exact .abandoned id calls code completed _ fails (.inr ⟨e, raised, rfl⟩)
              · rw [run] at taken
                cases taken
                rw [runs.own id] at wrote
                exact .escalated id calls code completed row _ fails
                  (Bool.eq_false_iff.mpr clear) ready matching wrote
      · cases taken

end Moves

section Working

variable {task : UUID} (runs : StageRuns task) {w : StageWorld} {id : Nat} {calls : Calls}
    {row : TaskRow}

theorem other_works (row : TaskRow) (events : List AuditEvent)
    (plain : events.all (fun event => !isStageType event.eventType) = true)
    (held : (w.db.tasks.get task).isSome = true) :
    stageStep runs w (.other row events) = some { w with
      db := changed w.db task row events
      log := w.log ++ [observe task .other w.db (changed w.db task row events)] } :=
  if_pos ⟨plain, held⟩

theorem begin_works (quiet : Quiet calls) (idle : w.phase id = .idle)
    (ready : Ready (runs.run id).stage (runs.run id).scope w.db row)
    (admitted : startRefused w.db.audits (runs.run id).scope (runs.run id).stage = false) :
    ∃ t, stageStep runs w (.begin id none calls) = some t ∧
    t.phase = Function.update w.phase id .executing ∧
      t.log = w.log ++ [observe task (.started id) w.db t.db,
        observe task (.invoked id) t.db t.db] ∧
      Wrote w.db t.db task row [startedEvent (runs.run id).stage (runs.run id).scope row] := by
  have works :
    (commitStartedCheckpoint (runs.run id).stage calls (runs.run id).scope (connected w.db)).1 =
    .ok () := started_works quiet ready admitted
  rcases started_cases with ⟨e, s, run, _, _⟩ | ⟨found, s, there, _, run, wrote⟩
  · rw [run] at works
    cases works
  · have same : found = row := Option.some.inj (there.held.symm.trans ready.held)
    subst same
    rw [runs.own id] at wrote
    refine ⟨⟨s.committed, Function.update w.phase id .executing, w.log ++
      [observe task (.started id) w.db s.committed,
        observe task (.invoked id) s.committed s.committed]⟩,
      ?_, rfl, rfl, wrote⟩
    simp only [stageStep, idle, run]
    rfl

theorem finish_raises (executing : w.phase id = .executing) (e : Exn)
    (reread : Except Exn TaskStatus) :
    stageStep runs w (.finish id (.raised e) calls reread) = some (w.set id
      (failedPhase (runs.run id).stage false
        (leaveDeadline (if e.isException = true then .stage (runs.run id).stage .collaboratorFailure
          else e)))) := by
  simp only [stageStep, executing, invokeStage]

theorem completionContext_valid {scope : StageScope} (result : StageResult)
    (named : strip (PyStr.ofString scope.agentSlug) ≠ []) : (completionContext scope result).valid =
      true := by
  have spoken : strip (completionContext scope result).reason ≠ [] := by
    have among : result.reason ∈ ["Independent QA passed.", "Independent QA requested changes.",
        "Independent Security gate passed.", "Independent Security gate requires human review.",
        "Independent Security gate blocked completion."] := by
      unfold StageResult.reason
      cases result with
      | qa result =>
          dsimp only
          split <;> simp
      | security result =>
          dsimp only
          split <;> simp
    have texts : ∀ text ∈ ["Independent QA passed.", "Independent QA requested changes.",
        "Independent Security gate passed.", "Independent Security gate requires human review.",
        "Independent Security gate blocked completion."], strip (PyStr.ofString text) ≠ [] := by
      simp only [List.forall_mem_cons]
      repeat rw [PyStr.ofString_ofList]
      decide
    exact texts result.reason among
  have actor : strip ((completionContext scope result).actorId.getD []) ≠ [] := named
  unfold TransitionContext.valid
  rw [decide_eq_true spoken, decide_eq_true actor, Bool.or_true]
  rfl

theorem completed_quiet {stage : Stage} {scope : StageScope} {db : Database} {result : StageResult}
    (inScope : resultInScope stage scope result = true)
    (named : strip (PyStr.ofString scope.agentSlug) ≠ [])
    (quiet : Quiet calls) (held : db.tasks.get scope.task = some row) :
    (commitCompletedCheckpoint stage calls scope result (connected db)).1 =
      if row.status ≠ stage.waiting ∨ row.assignedAgentId ≠ some scope.developerId then
        .error (.stage stage .concurrentModification)
      else if hasMatchingStart db.audits scope stage = true then .ok ()
      else .error (.stage stage .invalidState) := by
  rw [completed_shape inScope]
  exact moves_quiet quiet held (completionContext_valid result named) (inScope_target inScope)

theorem finish_works {result : StageResult} (quiet : Quiet calls)
    (executing : w.phase id = .executing)
    (inScope : resultInScope (runs.run id).stage (runs.run id).scope result = true)
    (named : strip (PyStr.ofString (runs.run id).scope.agentSlug) ≠ [])
    (ready : Ready (runs.run id).stage (runs.run id).scope w.db row)
    (matching : hasMatchingStart w.db.audits (runs.run id).scope (runs.run id).stage = true)
    (reread : Except Exn TaskStatus) :
    ∃ t, stageStep runs w (.finish id (.returned result) calls reread) = some t ∧
      t.phase = Function.update w.phase id (resultPhase (runs.run id).stage result reread) ∧
      t.log = w.log ++ [observe task (.completed id result) w.db t.db] ∧
      Wrote w.db t.db task { row with status := result.target }
        [movedEvent task row result.target (completionContext (runs.run id).scope result),
          completedEvent (runs.run id).stage (runs.run id).scope row result] := by
  have works : (commitCompletedCheckpoint (runs.run id).stage calls (runs.run id).scope result
      (connected w.db)).1 = _ := completed_quiet inScope named quiet ready.held
  rw [if_neg (by rw [ready.waits, ready.assigned]; simp), if_pos matching] at works
  rcases completed_cases inScope with ⟨e, s, run, _, _⟩ | ⟨found, s, there, _, run, wrote⟩
  · rw [run] at works
    cases works
  · have same : found = row := Option.some.inj (there.held.symm.trans ready.held)
    subst same
    rw [runs.own id] at wrote
    refine ⟨⟨s.committed,
      Function.update w.phase id (resultPhase (runs.run id).stage result reread),
      w.log ++ [observe task (.completed id result) w.db s.committed]⟩, ?_, rfl, rfl, wrote⟩
    simp only [stageStep, executing, invokeStage, inScope, if_true, run]
    rfl

theorem finish_conflicts {result : StageResult} (quiet : Quiet calls)
    (executing : w.phase id = .executing)
    (inScope : resultInScope (runs.run id).stage (runs.run id).scope result = true)
    (named : strip (PyStr.ofString (runs.run id).scope.agentSlug) ≠ [])
    (held : w.db.tasks.get (runs.run id).scope.task = some row)
    (elsewhere : row.status ≠ (runs.run id).stage.waiting)
    (reread : Except Exn TaskStatus) :
    stageStep runs w (.finish id (.returned result) calls reread) =
      some (w.set id (.failing .concurrentModification false)) := by
  have conflict : (commitCompletedCheckpoint (runs.run id).stage calls (runs.run id).scope result
      (connected w.db)).1 = _ := completed_quiet inScope named quiet held
  rw [if_pos (.inl elsewhere)] at conflict
  rcases completed_cases inScope with ⟨e, s, run, same, _⟩ | ⟨_, s, _, _, run, _⟩
  · rw [run] at conflict
    cases conflict
    have fails :
      failedPhase (runs.run id).stage false (.stage (runs.run id).stage .concurrentModification) =
        .failing .concurrentModification false := by
      have own :
        failureCode (runs.run id).stage (.stage (runs.run id).stage .concurrentModification) =
        some .concurrentModification := congrArg some (if_pos rfl)
      unfold failedPhase
      rw [own]
    simp only [stageStep, executing, invokeStage, inScope, if_true, run, same, fails]
    rfl
  · rw [run] at conflict
    cases conflict

theorem escalate_abandons {code : StageErrorCode} {completed : Bool}
    (fails : w.phase id = .failing code completed)
    (conflict : conflictCode code = true) : stageStep runs w (.escalate id calls) =
      some (w.set id (.ended (.raised (.stage (runs.run id).stage code)))) := by
  simp only [stageStep, fails, conflict, if_true]

theorem escalate_works {code : StageErrorCode} (quiet : Quiet calls)
    (fails : w.phase id = .failing code false)
    (clear : conflictCode code = false)
    (ready : Ready (runs.run id).stage (runs.run id).scope w.db row)
    (matching : hasMatchingStart w.db.audits (runs.run id).scope (runs.run id).stage = true) :
    ∃ t, stageStep runs w (.escalate id calls) = some t ∧
      t.phase = Function.update w.phase id (.ended (.raised (.stage (runs.run id).stage code))) ∧
      t.log = w.log ++ [observe task (.escalated id (safeCode code)) w.db t.db] ∧
      Wrote w.db t.db task { row with status := .waitingHuman }
        [movedEvent task row .waitingHuman
            (escalationContext (runs.run id).stage (runs.run id).scope (safeCode code)),
          escalatedEvent (runs.run id).stage (runs.run id).scope row (safeCode code)] := by
  have works :
    (commitEscalatedCheckpoint (runs.run id).stage calls (runs.run id).scope (safeCode code)
      (connected w.db)).1 = _ := escalated_quiet quiet ready.held
  rw [if_neg (by rw [ready.waits, ready.assigned]; simp), if_pos matching] at works
  rcases escalated_cases with ⟨e, s, run, _, _⟩ | ⟨found, s, there, _, run, wrote⟩
  · rw [run] at works
    cases works
  · have same : found = row := Option.some.inj (there.held.symm.trans ready.held)
    subst same
    rw [runs.own id] at wrote
    refine ⟨⟨s.committed,
      Function.update w.phase id (.ended (.raised (.stage (runs.run id).stage code))),
      w.log ++ [observe task (.escalated id (safeCode code)) w.db s.committed]⟩, ?_,
        rfl, rfl, wrote⟩
    simp only [stageStep, fails, clear, Bool.false_eq_true, if_false, run]
    rfl

end Working

section Sample

def sampleScope (correlation : UUID) : StageScope where
  task := 1
  correlationId := correlation
  agentSlug := "agent"
  developerId := 2
  requiredTestProfiles := [.pytest]
  criterionCount := 1
  evidence := none

def sampleRuns (stage : Stage) : StageRuns 1 where
  run id := ⟨stage, sampleScope id⟩
  own _ := rfl

def sampleRow (status : TaskStatus) : TaskRow := ⟨3, status, some 2⟩

def sampleBase (status : TaskStatus) : Database where
  tasks := Dict.empty.set 1 (sampleRow status)
  audits := []

def sampleCalls : Calls := fun _ => none

theorem sampleCalls_quiet : Quiet sampleCalls := fun _ => rfl

def sampleMove : TransitionContext where
  actorType := .system
  actorId := none
  reason := PyStr.ofString "moved"

theorem moves_reach (stage : Stage) (ok : StageWorld → StageAction → Prop)
    (targets : List TaskStatus)
    {current : TaskStatus} {w : StageWorld} (held : w.db.tasks.get 1 = some (sampleRow current))
    (allowed : ∀ u row events, u.phase = w.phase → ok u (.other row events)) :
    ∃ t more, Reaches (stageStep (sampleRuns stage)) ok w t ∧ t.phase = w.phase ∧
      t.db.audits = w.db.audits ++ more ∧
      (∀ event ∈ more, event.resourceType = none ∧ event.correlationId = none) ∧
      (∃ added, t.log = w.log ++ added ∧ added.map StageEntry.status = targets.map some) ∧
      t.db.tasks.get 1 = some (sampleRow (targets.foldl (fun _ target => target) current)) := by
  induction targets generalizing current w with
  | nil =>
      exact ⟨w, [], .refl, rfl, (List.append_nil _).symm,
        fun _ member => absurd member List.not_mem_nil,
        ⟨[], (List.append_nil _).symm, rfl⟩, held⟩
  | cons target rest ih =>
      have there : (w.db.tasks.get 1).isSome = true := by
        rw [held]
        rfl
      let events : List AuditEvent := [movedEvent 1 (sampleRow current) target sampleMove]
      let v : StageWorld := { w with
        db := changed w.db 1 (sampleRow target) events
        log := w.log ++ [observe 1 .other w.db (changed w.db 1 (sampleRow target) events)] }
      have taken : stageStep (sampleRuns stage) w (.other (sampleRow target) events) = some v :=
        other_works (sampleRuns stage) (sampleRow target) events rfl there
      have now : v.db.tasks.get 1 = some (sampleRow target) := Dict.get_set_self ..
      obtain ⟨t, more, run, phase, audits, plain, ⟨added, log, statuses⟩, last⟩ := ih now allowed
      refine ⟨t, events ++ more, (Reaches.tail .refl (allowed w _ _ rfl) taken).trans run, phase,
        ?_, ?_, ?_, last⟩
      · rw [audits]
        exact List.append_assoc ..
      · intro event member
        rcases List.mem_cons.mp member with rfl | late
        · exact ⟨rfl, rfl⟩
        · exact plain event late
      · refine ⟨observe 1 .other w.db v.db :: added, ?_, ?_⟩
        · rw [log]
          exact List.append_assoc ..
        · have first : (observe 1 .other w.db v.db).status = some target := by
            show (v.db.tasks.get 1).map TaskRow.status = _
            rw [now]
            rfl
          rw [List.map_cons, first, statuses]
          rfl

end Sample

end SynapseOS.Workflows
