import SynapseOS.Queue.Attempts

/-! Terminal outcomes are final, as long as no recovery acts on a run that left `RUNNING`. -/

namespace SynapseOS.Queue

open Transition

def Distinct (s : QueueState) : Label → Prop
  | .submit job => s.jobs.get job.runId = none
  | .quiet | .resume _ _ | .settle _ _ => True

/-- Moreover a recovery retries or fails a run only while its status is `RUNNING` and no worker
is executing it. -/
def Undisturbed (s : QueueState) : Label → Prop
  | .submit job => s.jobs.get job.runId = none
  | .settle runId _ => s.statuses.get runId = some .running ∧ running runId s.pool = 0
  | .quiet | .resume _ _ => True

instance (s : QueueState) (label : Label) : Decidable (Distinct s label) :=
  match label with
  | .submit job => inferInstanceAs (Decidable (s.jobs.get job.runId = none))
  | .quiet | .resume _ _ | .settle _ _ => inferInstanceAs (Decidable True)

instance (s : QueueState) (label : Label) : Decidable (Undisturbed s label) :=
  match label with
  | .submit job => inferInstanceAs (Decidable (s.jobs.get job.runId = none))
  | .settle runId _ =>
      inferInstanceAs (Decidable (s.statuses.get runId = some .running ∧ running runId s.pool = 0))
  | .quiet | .resume _ _ => inferInstanceAs (Decidable True)

theorem undisturbed_fresh {s : QueueState} {label : Label} (undisturbed : Undisturbed s label) :
    Fresh s label := by
  cases label with
  | submit job => exact undisturbed
  | quiet | resume | settle => trivial

structure Orderly (s : QueueState) : Prop where
  coherent : Coherent s
  disciplined : ∀ runId, RunView.Disciplined (view s runId)

theorem orderly_initial : Orderly initial := by
  refine ⟨coherent_initial, ?_⟩
  intro runId
  rw [view_unknown runId registered_initial rfl]
  exact RunView.disciplined_unknown

section Effects

variable {cfg : Config} {s t : QueueState} {label : Label}

theorem orderly_effect (orderly : Orderly s) (undisturbed : Undisturbed s label)
    (effect : Effect cfg s label t) : Orderly t := by
  have fresh := undisturbed_fresh undisturbed
  refine ⟨coherent_effect orderly.coherent fresh effect, ?_⟩
  intro runId
  have held := orderly.disciplined runId
  cases refined_effect runId orderly.coherent fresh effect with
  | stays same => rwa [same]
  | moves stored known move => exact RunView.disciplined_move held move
  | submits job own submit => exact RunView.disciplined_submit submit
  | settles job known settle =>
      exact RunView.disciplined_settle held settle undisturbed.1 undisturbed.2

/-- A finished run keeps its status and is not started again. -/
theorem finished_effect (orderly : Orderly s) (undisturbed : Undisturbed s label)
    (effect : Effect cfg s label t) (runId : UUID) (finished : (view s runId).Finished) :
    (view t runId).status = (view s runId).status ∧
      (view t runId).started = (view s runId).started := by
  have held := orderly.disciplined runId
  cases refined_effect runId orderly.coherent (undisturbed_fresh undisturbed) effect with
  | stays same => rw [same]; exact ⟨rfl, rfl⟩
  | moves stored known move => exact RunView.finished_move held finished move
  | submits job own submit =>
      obtain ⟨status, stored, _⟩ := finished
      rw [submit.before] at stored
      cases stored
  | settles job known settle =>
      obtain ⟨status, stored, ends⟩ := finished
      obtain rfl := Option.some.inj (stored.symm.trans undisturbed.1)
      cases ends

end Effects

theorem orderly_run {cfg : Config} {s t : QueueState} (orderly : Orderly s)
    (run : Runs cfg Undisturbed s t) : Orderly t :=
  runs_invariant Orderly run orderly (fun _ => trivial)
    (fun _ _ _ held undisturbed effect => orderly_effect held undisturbed effect)

/-- At most one terminal event is recorded for a run, and once its status is terminal neither
the status nor the handler starts change, in any continuation of the run. -/
theorem outcome_final (cfg : Config) (s : QueueState) (run : Runs cfg Undisturbed initial s)
    (runId : UUID) :
    (outcomesOf runId s.events).length ≤ 1 ∧
      ∀ (status : AgentRunStatus) (t : QueueState), s.statuses.get runId = some status →
        status.terminal = true → Runs cfg Undisturbed s t →
        t.statuses.get runId = some status ∧
          attemptsOf runId t.tasks = attemptsOf runId s.tasks := by
  have orderly := orderly_run orderly_initial run
  refine ⟨(orderly.disciplined runId).recorded, ?_⟩
  intro status t stored ends later
  have kept : Orderly t ∧ (view t runId).status = some status ∧
      (view t runId).started = attemptsOf runId s.tasks := by
    refine runs_invariant (fun u => Orderly u ∧ (view u runId).status = some status ∧
      (view u runId).started = attemptsOf runId s.tasks) later ⟨orderly, stored, rfl⟩
      (fun _ => trivial) ?_
    intro u label w held undisturbed effect
    obtain ⟨before, current, started⟩ := held
    obtain ⟨same, unstarted⟩ := finished_effect before undisturbed effect runId
      ⟨status, current, ends⟩
    exact ⟨orderly_effect before undisturbed effect, same.trans current, unstarted.trans started⟩
  exact kept.2

theorem outcome_final_failed : ∃ s t, Runs sampleQueue Undisturbed initial s ∧
    Runs sampleQueue Undisturbed s t ∧ outcomesOf 0 s.events = [.failed] ∧ t.clock = 4 ∧
    t.statuses.get 0 = some .failed ∧ attemptsOf 0 t.tasks = [1] := by
  obtain ⟨s, t, run, later, observed⟩ := runs_observe_both sampleQueue Undisturbed
    (staleOnce 1 (by decide) ++ [.recoverResume 0 accepts, .recoverScan accepts])
    [.tick 2, .recoverStart, .recoverScan accepts, .recoverScan accepts]
    (fun s t => (s.statuses.get 0, outcomesOf 0 s.events, attemptsOf 0 s.tasks, t.clock))
    (some .failed, [.failed], [1], 4) (by decide +kernel)
  simp only [Prod.mk.injEq] at observed
  obtain ⟨status, outcomes, attempts, clock⟩ := observed
  have final := (outcome_final sampleQueue s run 0).2 .failed t status rfl later
  exact ⟨s, t, run, later, outcomes, clock, final.1, final.2.trans attempts⟩

/-- The worker records `SUCCEEDED` while the recovery waits for the handler it cancelled; the
recovery then retries the run, which is started again. -/
theorem outcome_overwritten : ∃ s t, Runs sampleQueue Distinct initial s ∧
    Runs sampleQueue Distinct s t ∧ s.statuses.get 0 = some .succeeded ∧
    attemptsOf 0 s.tasks = [1] ∧ t.statuses.get 0 = some .running ∧
    attemptsOf 0 t.tasks = [1, 2] := by
  obtain ⟨s, t, run, later, observed⟩ := runs_observe_both sampleQueue Distinct
    [.start, .enqueue (sampleJob 2 (by decide)) 0 accepts, .workerGet 0 accepts, .tick 2,
      .recoverStart, .recoverScan accepts, .handlerFinish 0 .returned, .workerResume 0 accepts]
    [.recoverResume 0 accepts, .recoverScan accepts, .workerGet 0 accepts]
    (fun s t => (s.statuses.get 0, attemptsOf 0 s.tasks, t.statuses.get 0, attemptsOf 0 t.tasks))
    (some .succeeded, [1], some .running, [1, 2]) (by decide +kernel)
  simp only [Prod.mk.injEq] at observed
  exact ⟨s, t, run, later, observed⟩

end SynapseOS.Queue
