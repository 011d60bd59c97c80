import SynapseOS.Workflows.Audit
import SynapseOS.Workflows.StageEffects

/-! What a checkpoint that raises leaves in the session and in the database. -/

namespace SynapseOS.Workflows

open Execution Program Tasks Tools
open Reviewer (ReviewDecision)

inductive DurableCheckpoint
  | assignment (scope : WorkflowScope)
  | developerStarted (scope : WorkflowScope) (cycle : Nat)
  | developerHandoff (scope : WorkflowScope) (cycle : Nat)
  | developerCompleted (scope : WorkflowScope) (cycle : Nat)
  | reviewCompleted (scope : WorkflowScope) (cycle : Nat) (decision : ReviewDecision)
      (score : ℚ) (count : Nat)
  | reviewCycleExhausted (scope : WorkflowScope) (cycle most : Nat)
  | nextReviewCycle (scope : WorkflowScope) (cycle : Nat)
  | safeFailure (scope : WorkflowScope) (code : WorkflowErrorCode) (status : TaskStatus)
  | stageStarted (stage : Stage) (scope : StageScope)
  | stageCompleted (stage : Stage) (scope : StageScope) (result : StageResult)
  | stageEscalated (stage : Stage) (scope : StageScope) (code : StageErrorCode)

structure CheckpointParts where
  handling : Handling
  task : UUID
  status : TaskStatus
  agent : Option UUID
  staged : Calls → Program Session Exn Unit

namespace DurableCheckpoint

def run (checkpoint : DurableCheckpoint) (calls : Calls) : Program Session Exn Unit :=
  match checkpoint with
  | .assignment scope => commitAssignmentCheckpoint calls scope
  | .developerStarted scope cycle => commitDeveloperStartedCheckpoint calls scope cycle
  | .developerHandoff scope cycle => commitDeveloperHandoffCheckpoint calls scope cycle
  | .developerCompleted scope cycle => commitDeveloperCompletedCheckpoint calls scope cycle
  | .reviewCompleted scope cycle decision score count =>
      commitReviewCompletedCheckpoint calls scope cycle decision score count
  | .reviewCycleExhausted scope cycle most =>
      commitReviewCycleExhaustedCheckpoint calls scope cycle most
  | .nextReviewCycle scope cycle => commitNextReviewCycleCheckpoint calls scope cycle
  | .safeFailure scope code status => commitSafeFailureCheckpoint calls scope code status
  | .stageStarted stage scope => commitStartedCheckpoint stage calls scope
  | .stageCompleted stage scope result => commitCompletedCheckpoint stage calls scope result
  | .stageEscalated stage scope code => commitEscalatedCheckpoint stage calls scope code

def ofWorkflow (scope : WorkflowScope) (status : TaskStatus) (agent : Option UUID)
    (staged : Calls → Program Session Exn Unit) : CheckpointParts :=
  ⟨workflowHandling, scope.task, status, agent, staged⟩

def ofStage (stage : Stage) (scope : StageScope) (staged : Calls → Program Session Exn Unit) :
    CheckpointParts :=
  ⟨stageHandling stage, scope.task, stage.waiting, some scope.developerId, staged⟩

def parts : DurableCheckpoint → CheckpointParts
  | .assignment scope => ofWorkflow scope .ready none fun calls => stageAssignment calls scope
  | .developerStarted scope cycle =>
      ofWorkflow scope .assigned (some scope.developerId) fun calls =>
        stageDeveloperStarted calls scope cycle
  | .developerHandoff scope cycle =>
      ofWorkflow scope .waitingReview (some scope.developerId) fun calls =>
        stageDeveloperHandoff calls scope cycle
  | .developerCompleted scope cycle =>
      ofWorkflow scope .inProgress (some scope.developerId) fun calls =>
        stageDeveloperCompleted calls scope cycle
  | .reviewCompleted scope cycle decision score count =>
      ofWorkflow scope .waitingReview (some scope.developerId) fun calls =>
        stageReviewCompleted calls scope cycle decision score count
  | .reviewCycleExhausted scope cycle most =>
      ofWorkflow scope .changesRequested (some scope.developerId) fun calls =>
        stageReviewCycleExhausted calls scope cycle most
  | .nextReviewCycle scope cycle =>
      ofWorkflow scope .changesRequested (some scope.developerId) fun calls =>
        stageNextReviewCycle calls scope cycle
  | .safeFailure scope code status =>
      ofWorkflow scope status (some scope.developerId) fun calls =>
        stageSafeFailure calls scope code
  | .stageStarted stage scope => ofStage stage scope fun calls =>
      Workflows.stageStarted stage calls scope
  | .stageCompleted stage scope result =>
      ofStage stage scope fun calls => Workflows.stageCompleted stage calls scope result
  | .stageEscalated stage scope code =>
      ofStage stage scope fun calls => Workflows.stageEscalated stage calls scope code

def loads (checkpoint : DurableCheckpoint) (calls : Calls) (s : Session) : Option TaskRow :=
  loadedRow checkpoint.parts.handling calls checkpoint.parts.task checkpoint.parts.status
    checkpoint.parts.agent s

end DurableCheckpoint

section Shape

variable {calls : Calls} {scope : WorkflowScope}

theorem still_demand {α : Type} (outcome : Except WorkflowErrorCode α) : Still
    (demand outcome) := by
  cases outcome with
  | ok value => exact still_pure value
  | error code => exact still_raise _

theorem keeps_demanded {α : Type} {outcome : Except WorkflowErrorCode α}
    {rest : α → Program Session Exn Unit}
    (keeps : ∀ value, Keeps SameCommitted (rest value)) :
    Keeps SameCommitted (demand outcome >>= rest) :=
  keeps_bind sameCommitted_trans (keeps_still (fun _ => rfl) (still_demand outcome)) keeps

theorem keeps_stageWorkflowEvent (type : EventType) (given : EventArguments) :
    Keeps SameCommitted (stageWorkflowEvent calls scope type given) := by
  unfold stageWorkflowEvent
  refine keeps_demanded fun data => ?_
  refine keeps_bind sameCommitted_trans (keeps_still (fun _ => rfl) still_readTask) fun row => ?_
  exact keeps_bind sameCommitted_trans keeps_call fun _ => keeps_addEvent _

theorem keeps_stageAssignment : Keeps SameCommitted (stageAssignment calls scope) := by
  unfold stageAssignment
  refine keeps_bind sameCommitted_trans (keeps_editTask _) fun _ => ?_
  exact keeps_bind sameCommitted_trans keeps_transition fun _ => keeps_stageWorkflowEvent _ _

theorem keeps_stageReviewCompleted (cycle : Nat) (decision : ReviewDecision) (score : ℚ)
    (count : Nat) :
    Keeps SameCommitted (stageReviewCompleted calls scope cycle decision score count) := by
  unfold stageReviewCompleted
  refine keeps_demanded fun _ => keeps_demanded fun _ => keeps_demanded fun _ =>
    keeps_demanded fun _ => ?_
  refine keeps_bind sameCommitted_trans keeps_transition fun _ => ?_
  refine keeps_bind sameCommitted_trans (keeps_stageWorkflowEvent _ _) fun _ => ?_
  split
  · exact keeps_stageWorkflowEvent _ _
  · exact keeps_still (fun _ => rfl) (still_pure ())

theorem keeps_stageReviewCycleExhausted (cycle most : Nat) :
    Keeps SameCommitted (stageReviewCycleExhausted calls scope cycle most) := by
  unfold stageReviewCycleExhausted
  refine keeps_demanded fun _ => keeps_demanded fun _ => ?_
  split
  · exact keeps_still (fun _ => rfl) (still_raise _)
  · exact keeps_bind sameCommitted_trans keeps_transition fun _ => keeps_stageWorkflowEvent _ _

theorem keeps_stageSafeFailure (code : WorkflowErrorCode) :
    Keeps SameCommitted (stageSafeFailure calls scope code) := by
  unfold stageSafeFailure
  split
  · exact keeps_still (fun _ => rfl) (still_raise _)
  · exact keeps_transition

theorem keeps_staged (checkpoint : DurableCheckpoint) (calls : Calls) :
    Keeps SameCommitted (checkpoint.parts.staged calls) := by
  cases checkpoint with
  | assignment scope => exact keeps_stageAssignment
  | developerStarted scope cycle => exact keeps_demanded fun _ => keeps_transition
  | developerHandoff scope cycle => exact keeps_demanded fun _ => keeps_stageWorkflowEvent _ _
  | developerCompleted scope cycle => exact keeps_demanded fun _ => keeps_transition
  | reviewCompleted scope cycle decision score count =>
      exact keeps_stageReviewCompleted cycle decision score count
  | reviewCycleExhausted scope cycle most => exact keeps_stageReviewCycleExhausted cycle most
  | nextReviewCycle scope cycle => exact keeps_demanded fun _ => keeps_transition
  | safeFailure scope code status => exact keeps_stageSafeFailure code
  | stageStarted stage scope => exact keeps_stageStarted
  | stageCompleted stage scope result => exact keeps_stageMoves
  | stageEscalated stage scope code => exact keeps_stageMoves

theorem run_shape (checkpoint : DurableCheckpoint) (calls : Calls) :
    (∃ e, checkpoint.run calls = raise e) ∨
      checkpoint.run calls = commitCheckpoint checkpoint.parts.handling calls checkpoint.parts.task
        checkpoint.parts.status checkpoint.parts.agent (checkpoint.parts.staged calls) := by
  cases checkpoint with
  | stageCompleted stage scope result =>
      show (∃ e, commitCompletedCheckpoint stage calls scope result = raise e) ∨ _
      by_cases other : result.correlationId ≠ scope.correlationId
      · exact .inl ⟨_, if_pos other⟩
      · exact .inr (if_neg other)
  | stageEscalated stage scope code =>
      show (∃ e, commitEscalatedCheckpoint stage calls scope code = raise e) ∨ _
      by_cases refused : escalationCode code = false
      · exact .inl ⟨_, if_pos refused⟩
      · exact .inr (if_neg refused)
  | _ => exact .inr rfl

end Shape

section Restored

variable {calls : Calls} {s t : Session} {e : Exn}

theorem recovered_authorizations {handling : Handling} {task : UUID} (snapshot : Option TaskRow)
    (s : Session) : (Recovered handling calls task snapshot s).authorizations = .empty := by
  unfold Recovered
  split <;> rfl

/-- What a recovery shows of the task. -/
theorem remembered_row {handling : Handling} {snapshot : Option TaskRow} {row : TaskRow}
    (same : ∀ loaded, snapshot = some loaded → loaded = row) : remembered handling calls snapshot
      row = row := by
  unfold remembered
  split
  · next loaded restores =>
      rw [same _ rfl]
      split <;> rfl
  · rfl

theorem remembered_loaded {handling : Handling} {loaded row : TaskRow}
    (restores : calls .restore = none) :
    (remembered handling calls (some loaded) row).status = loaded.status ∧
      (handling.keepsAgent = true →
        (remembered handling calls (some loaded) row).assignedAgentId =
          loaded.assignedAgentId) := by
  unfold remembered
  rw [restores]
  exact ⟨rfl, fun keeps => if_pos keeps⟩

theorem remembered_expired {handling : Handling} {snapshot : Option TaskRow} {row : TaskRow}
    (drops : handling.keepsAgent = false) :
    (remembered handling calls snapshot row).assignedAgentId = row.assignedAgentId := by
  unfold remembered
  rw [drops]
  split <;> rfl

theorem remembered_persisted {handling : Handling} {snapshot : Option TaskRow} {row : TaskRow}
    (nothing : snapshot = none ∨ calls .restore ≠ none) : remembered handling calls snapshot row =
      row := by
  unfold remembered
  split
  · next loaded restores =>
      rcases nothing with absent | fails
      · cases absent
      · exact absurd restores fails
  · rfl

theorem loads_row {handling : Handling} {task : UUID} {status : TaskStatus} {agent : Option UUID}
    {loaded : TaskRow} (loads : loadedRow handling calls task status agent s = some loaded) :
    s.working.tasks.get task = some loaded := by
  unfold loadedRow at loads
  split at loads
  · cases loads
  · rcases open_cases s with ⟨e, t, _, opened⟩ | ⟨row, _, _, held, _, _, opened⟩
    · have raised : openCheckpoint handling calls task status agent s = (.error e, t) := opened
      rw [raised] at loads
      cases loads
    · have returned : openCheckpoint handling calls task status agent s = (.ok row, _) := opened
      rw [returned] at loads
      cases loads
      exact held

/-- What the session shows of a task whose persisted row is `row`: what was loaded, as far as the
workflow remembers it, or the row itself. -/
structure Shows (checkpoint : DurableCheckpoint) (calls : Calls) (s : Session)
    (row shown : TaskRow) : Prop where
  status : ∀ loaded, checkpoint.loads calls s = some loaded → calls .restore = none →
    shown.status = loaded.status
  keptAgent : ∀ loaded, checkpoint.loads calls s = some loaded → calls .restore = none →
    checkpoint.parts.handling.keepsAgent = true → shown.assignedAgentId = loaded.assignedAgentId
  expiredAgent : checkpoint.parts.handling.keepsAgent = false →
    shown.assignedAgentId = row.assignedAgentId
  unrestored : checkpoint.loads calls s = none ∨ calls .restore ≠ none → shown = row
  undisturbed : s.working.tasks.get checkpoint.parts.task = some row → shown = row

theorem remembered_shows (checkpoint : DurableCheckpoint) (calls : Calls) (s : Session)
    (row : TaskRow) : Shows checkpoint calls s row
      (remembered checkpoint.parts.handling calls (checkpoint.loads calls s) row) := by
  refine ⟨?_, ?_, remembered_expired, remembered_persisted, ?_⟩
  · intro loaded loads restores
    rw [loads]
    exact (remembered_loaded restores).1
  · intro loaded loads restores keeps
    rw [loads]
    exact (remembered_loaded restores).2 keeps
  · intro settled
    refine remembered_row fun loaded loads => ?_
    exact Option.some.inj ((loads_row loads).symm.trans settled)

/-- A checkpoint that raises an `Exception` leaves the database, the task and the authorizations as
they were. -/
theorem checkpoint_restores (checkpoint : DurableCheckpoint)
    (run : checkpoint.run calls s = (.error e, t))
    (caught : e.isException = true) :
    t.committed = s.committed ∧ (t = s ∨ t.authorizations = .empty ∧
      ∀ row, s.committed.tasks.get checkpoint.parts.task = some row →
        ∃ shown, t.view checkpoint.parts.task = some shown ∧
        Shows checkpoint calls s row shown) := by
  rcases run_shape checkpoint calls with ⟨raised, shape⟩ | shape
  · rw [shape] at run
    cases run
    exact ⟨rfl, .inl rfl⟩
  · rw [shape] at run
    rcases checkpoint_cases (keeps_staged checkpoint calls) s with
      (⟨e', u, uncaught, _, ends⟩ | ⟨e', code, u, _, _, same, ends⟩) | ⟨row, u, _, _, _,
        _, _, _, ends⟩
    · rw [ends] at run
      cases run
      rw [uncaught] at caught
      cases caught
    · rw [ends] at run
      cases run
      refine ⟨(recovered_committed _).trans same, .inr ⟨recovered_authorizations _ _, ?_⟩⟩
      intro row held
      rw [← same] at held
      exact ⟨_, recovered_view held, remembered_shows checkpoint calls s row⟩
    · rw [ends] at run
      cases run

section Sample

def restoredScope : WorkflowScope where
  task := 1
  developerId := 2
  developerSlug := "developer"
  reviewerSlug := "reviewer"
  maxReviewCycles := 1
  correlationId := 4
  evidence := none
  cycles_bounds := by decide

def restoredStage : StageScope where
  task := 1
  correlationId := 4
  agentSlug := "qa"
  developerId := 2
  requiredTestProfiles := [.pytest]
  criterionCount := 1
  evidence := none

def changedSession (status was : TaskStatus) (persisted : Option UUID) : Session where
  committed := ⟨Dict.empty.set 1 ⟨3, was, persisted⟩, []⟩
  working := ⟨Dict.empty.set 1 ⟨3, status, some 2⟩, []⟩
  objects := .empty
  new := .empty
  authorizations := .empty
  nextEvent := 0

def restoredSession (status : TaskStatus) (persisted : Option UUID) : Session :=
  changedSession status status persisted

def failing (site : Call) (e : Exn) : Calls := fun other => if other = site then some e else none

theorem checkpoint_restores_flush :
    ((DurableCheckpoint.developerStarted restoredScope 1).run (failing .flush (.sqlalchemy false))
        (restoredSession .assigned (some 2))).2.view 1 = some ⟨3, .assigned, some 2⟩ ∧
      ∃ shown, ((DurableCheckpoint.stageStarted .qa restoredStage).run
        (failing .flush (.sqlalchemy false))
          (restoredSession .waitingQa none)).2.view 1 = some shown ∧
        shown.status = .waitingQa ∧ shown.assignedAgentId = none := by
  let calls := failing .flush (.sqlalchemy false)
  constructor
  · let checkpoint := DurableCheckpoint.developerStarted restoredScope 1
    have run : checkpoint.run calls (restoredSession .assigned (some 2)) =
        (.error (.workflow .persistenceFailure),
          (checkpoint.run calls (restoredSession .assigned (some 2))).2) := rfl
    obtain ⟨_, same | ⟨_, shows⟩⟩ := checkpoint_restores checkpoint run rfl
    · have view := congrArg (fun session => session.view 1) same
      exact view.trans rfl
    · obtain ⟨shown, view, restored⟩ := shows ⟨3, .assigned, some 2⟩ rfl
      rw [restored.undisturbed rfl] at view
      exact view
  · let checkpoint := DurableCheckpoint.stageStarted .qa restoredStage
    have run : checkpoint.run calls (restoredSession .waitingQa none) =
        (.error (.stage .qa .persistenceFailure),
          (checkpoint.run calls (restoredSession .waitingQa none)).2) := rfl
    obtain ⟨_, same | ⟨_, shows⟩⟩ := checkpoint_restores checkpoint run rfl
    · have view := congrArg (fun session => session.view 1) same
      exact absurd view (by decide)
    · obtain ⟨shown, view, restored⟩ := shows ⟨3, .waitingQa, none⟩ rfl
      exact ⟨shown, view, restored.status _ rfl rfl, restored.expiredAgent rfl⟩

def failingBoth (site other : Call) (e : Exn) : Calls :=
  fun call => if call = site ∨ call = other then some e else none

/-- What is no `Exception` leaves the change and its authorization; a session that assigned the
agent before loses it with the snapshot of QA, and one that changed the status loses it where the
snapshot is not put back. -/
theorem checkpoint_unrestored :
    (∃ calls : Calls, calls .rollback = none ∧ ∃ t,
      (DurableCheckpoint.developerStarted restoredScope 1).run calls
        (restoredSession .assigned (some 2)) = (.error .interrupt, t) ∧
      (DurableCheckpoint.developerStarted restoredScope 1).loads calls
        (restoredSession .assigned (some 2)) = some ⟨3, .assigned, some 2⟩ ∧
      t.view 1 = some ⟨3, .inProgress, some 2⟩ ∧ (t.authorizations.get 1).isSome = true) ∧
    (∃ calls : Calls, calls .rollback = none ∧ ∃ t,
      (DurableCheckpoint.stageStarted .qa restoredStage).run calls
        (restoredSession .waitingQa none) = (.error (.stage .qa .persistenceFailure), t) ∧
      (DurableCheckpoint.stageStarted .qa restoredStage).loads calls
        (restoredSession .waitingQa none) = some ⟨3, .waitingQa, some 2⟩ ∧
      t.view 1 = some ⟨3, .waitingQa, none⟩) ∧
    ∃ calls : Calls, calls .rollback = none ∧ ∃ t,
      (DurableCheckpoint.stageStarted .qa restoredStage).run calls
          (changedSession .waitingQa .waitingReview (some 2)) =
        (.error (.stage .qa .persistenceFailure), t) ∧
      (DurableCheckpoint.stageStarted .qa restoredStage).loads calls
          (changedSession .waitingQa .waitingReview (some 2)) = some ⟨3, .waitingQa, some 2⟩ ∧
      t.view 1 = some ⟨3, .waitingReview, some 2⟩ :=
  ⟨⟨failing .beforeFlush .interrupt, rfl, _, rfl, rfl, rfl, rfl⟩,
    ⟨failing .flush (.sqlalchemy false), rfl, _, rfl, rfl, rfl⟩,
    ⟨failingBoth .flush .restore (.sqlalchemy false), rfl, _, rfl, rfl, rfl⟩⟩

end Sample

end Restored

end SynapseOS.Workflows
