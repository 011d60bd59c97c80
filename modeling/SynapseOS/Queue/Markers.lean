import SynapseOS.Queue.Cancellation
import SynapseOS.Queue.Turns

/-! The markers of `_recovery_requested`: who sets one, and who answers it. -/

namespace SynapseOS.Queue

def RecoverPc.gathers (runId : UUID) (task : Nat) : RecoverPc → Bool
  | .gathering own _ awaited => decide (own = runId ∧ awaited = task)
  | .scanning | .putting _ | .returned | .raised => false

def Gathers (s : QueueState) (runId : UUID) (task : Nat) : Prop :=
  ∃ call ∈ s.recoveries, call.pc.gathers runId task = true

def Awaited (s : QueueState) (runId : UUID) : Prop :=
  ∃ task job, Gathers s runId task ∧ gathered s task = false ∧ taskJob s.tasks task = some job ∧
    job.runId = runId

def marking (s : QueueState) (call : RecoverCall) : Option UUID :=
  match call.snapshot with
  | (runId, .running) :: _ =>
    match s.jobs.get runId with
    | some job => if heartbeatFresh s call.now runId job then none else some runId
    | none => none
  | _ => none

def WorkerPc.wait : WorkerPc → Option HandlerWait
  | .awaiting wait => some wait
  | .getting | .reputting _ | .sleeping | .retrying _ _ | .done => none

def waitAt (pool : List Worker) (w : Nat) : Option HandlerWait := (pcAt pool w).bind WorkerPc.wait

/-- A worker comes back to `_execute` with what `wait_for` gave: a handler that a recovery waits for
was cancelled, and no other one of its run is running; a `CancelledError` without a recovery finds
no cancelled run; and a worker that a `stop` waits for comes back with a `CancelledError` for that
stop alone. -/
structure Surrendered (s : QueueState) (w : Nat) (wait : HandlerWait) (result : HandlerOutcome) :
    Prop where
  recovered : wait.item.job.runId ∈ s.recoveryRequested → Gathers s wait.item.job.runId wait.task →
    result = .cancelled
  alone : wait.item.job.runId ∈ s.recoveryRequested → result = .cancelled →
    ∀ v < s.pool.length, ∀ other ∈ waitAt s.pool v, other.item.job.runId = wait.item.job.runId →
    v = w
  unflagged : wait.item.job.runId ∉ s.recoveryRequested → result = .cancelled →
    s.cancelEvents.get wait.item.job.runId ≠ some true
  stopped : (∃ workers ∈ s.stops, w ∈ workers) → result = .cancelled ∧
    wait.item.job.runId ∉ s.recoveryRequested

/-- A recovery marks a run only while a worker waits for the handler that is registered for it, and
a worker comes back to `_execute` only as above. -/
def Calm (s : QueueState) : Action → Prop
  | .workerResume w _ =>
      ∀ wait ∈ waitAt s.pool w, ∀ outcome ∈ s.tasks[wait.task]?.bind HandlerTask.outcome,
      Surrendered s w wait (wait.result outcome)
  | .recoverScan _ => ∀ call ∈ s.scanning.bind fun i => s.recoveries[i]?, ∀ runId ∈ marking s call,
      ∃ task ∈ s.handlerTasks.get runId, gathered s task = false
  | _ => True

instance (s : QueueState) (runId : UUID) (task : Nat) : Decidable (Gathers s runId task) :=
  inferInstanceAs (Decidable (∃ call ∈ s.recoveries, call.pc.gathers runId task = true))

instance (s : QueueState) (w : Nat) (wait : HandlerWait) (result : HandlerOutcome) :
    Decidable (Surrendered s w wait result) :=
  decidable_of_iff (_ ∧ _ ∧ _ ∧ _) ⟨fun ⟨a, b, c, d⟩ => ⟨a, b, c, d⟩,
    fun ⟨a, b, c, d⟩ => ⟨a, b, c, d⟩⟩

instance (s : QueueState) (a : Action) : Decidable (Calm s a) :=
  match a with
  | .workerResume w _ =>
      inferInstanceAs
        (Decidable
          (∀ wait ∈ waitAt s.pool w, ∀ outcome ∈ s.tasks[wait.task]?.bind HandlerTask.outcome,
        Surrendered s w wait (wait.result outcome)))
  | .recoverScan _ =>
      inferInstanceAs (Decidable (∀ call ∈ s.scanning.bind fun i => s.recoveries[i]?,
        ∀ runId ∈ marking s call, ∃ task ∈ s.handlerTasks.get runId, gathered s task = false))
  | .enqueue _ _ _ | .start | .stop | .stopReturn _ | .cancel _ _ | .heartbeat _ | .tick _
  | .workerGet _ _ _ | .workerReput _ | .workerWake _ | .workerRetryPut _ | .workerTimeout _
  | .workerCancel _ | .workerCancelled _ | .handlerFinish _ _ | .recoverStart | .recoverResume _ _
  | .recoverPut _ =>
      inferInstanceAs (Decidable True)

section Frames

variable {cfg : Config} {sink : Sink} {s t u : QueueState} {w : Nat}

structure Aside (s t : QueueState) : Prop where
  workers : t.workers = s.workers
  requested : t.recoveryRequested = s.recoveryRequested
  recoveries : t.recoveries = s.recoveries
  stops : t.stops = s.stops

theorem aside_refl : Aside s s := ⟨rfl, rfl, rfl, rfl⟩

theorem Aside.trans (first : Aside s t) (second : Aside t u) : Aside s u :=
  ⟨second.workers.trans first.workers, second.requested.trans first.requested,
    second.recoveries.trans first.recoveries, second.stops.trans first.stops⟩

theorem cancelWorker_aside (w : Nat) (s : QueueState) : Aside s (cancelWorker w s) := by
  unfold cancelWorker
  split
  · split
    · exact ⟨rfl, rfl, rfl, rfl⟩
    · exact ⟨rfl, rfl, rfl, rfl⟩
  · exact aside_refl
  · exact ⟨rfl, rfl, rfl, rfl⟩
  · exact aside_refl

theorem cancelWorkers_aside (workers : List Nat) (s : QueueState) :
    Aside s (workers.foldl (fun s w => cancelWorker w s) s) := by
  induction workers generalizing s with
  | nil => exact aside_refl
  | cons first rest ih => exact (cancelWorker_aside first s).trans (ih (cancelWorker first s))

theorem stop_frame (s : QueueState) :
    (stop s).pool =
      (s.workers.foldl (fun s w => cancelWorker w s) { s with stopping := true }).pool ∧
      (stop s).tasks =
        (s.workers.foldl (fun s w => cancelWorker w s) { s with stopping := true }).tasks ∧
      (stop s).recoveryRequested = s.recoveryRequested ∧ (stop s).recoveries = s.recoveries ∧
      (stop s).workers = s.workers ∧ (stop s).stops = if s.workers = [] then s.stops
        else s.stops ++ [s.workers] := by
  obtain ⟨workers, requested, recoveries, stops⟩ :=
    cancelWorkers_aside s.workers { s with stopping := true }
  unfold stop
  dsimp only
  generalize s.workers.foldl (fun s w => cancelWorker w s) { s with stopping := true } = u at *
  change u.workers = s.workers at workers
  by_cases empty : s.workers = []
  · rw [if_pos (workers.trans empty), if_pos empty]
    exact ⟨rfl, rfl, requested, recoveries, workers, stops⟩
  · rw [if_neg (workers ▸ empty), if_neg empty]
    refine ⟨rfl, rfl, requested, recoveries, workers, ?_⟩
    exact congrArg₂ (fun stops last => stops ++ [last]) stops workers

theorem enqueue_aside (job : AgentRunJob) (handler : RunHandler) :
    Aside s (enqueue cfg sink job handler s).2 := by
  unfold enqueue
  dsimp only
  repeat' split
  all_goals exact ⟨rfl, rfl, rfl, rfl⟩

theorem cancel_aside (runId : UUID) : Aside s (cancel cfg sink runId s).2 := by
  unfold cancel
  dsimp only
  repeat' split
  all_goals exact ⟨rfl, rfl, rfl, rfl⟩

theorem beginExecute_aside (raises : Bool) (item : WorkItem) :
    Aside s (beginExecute cfg sink raises w item s) := by
  unfold beginExecute
  dsimp only
  repeat' split
  all_goals exact ⟨rfl, rfl, rfl, rfl⟩

theorem workerGet_aside {raises : Bool} (taken : workerGet cfg sink raises w s = some t) :
    Aside s t := by
  unfold workerGet at taken
  split at taken
  · next item rest found front =>
      dsimp only at taken
      split at taken
      · obtain rfl := Option.some.inj taken
        exact ⟨rfl, rfl, rfl, rfl⟩
      · split at taken
        · split at taken
          · obtain rfl := Option.some.inj taken
            exact ⟨rfl, rfl, rfl, rfl⟩
          · obtain rfl := Option.some.inj taken
            exact ⟨rfl, rfl, rfl, rfl⟩
        · obtain rfl := Option.some.inj taken
          let locks := s.taskLocks.setDefault item.job.taskId false
          let held : QueueState :=
            { s with queue := rest, taskLocks := locks.set item.job.taskId true }
          have before : Aside s held := ⟨rfl, rfl, rfl, rfl⟩
          exact before.trans (beginExecute_aside raises item)
  · cases taken

theorem workerTimeout_aside (taken : workerTimeout w s = some t) : Aside s t := by
  unfold workerTimeout at taken
  split at taken
  · split at taken
    · split at taken
      · obtain rfl := Option.some.inj taken
        exact ⟨rfl, rfl, rfl, rfl⟩
      · obtain rfl := Option.some.inj taken
        exact ⟨rfl, rfl, rfl, rfl⟩
    · cases taken
  · cases taken

theorem workerCancelled_aside (taken : workerCancelled w s = some t) : Aside s t := by
  unfold workerCancelled at taken
  split at taken
  · exact Option.some.inj taken ▸ ⟨rfl, rfl, rfl, rfl⟩
  · exact Option.some.inj taken ▸ ⟨rfl, rfl, rfl, rfl⟩
  · exact Option.some.inj taken ▸ ⟨rfl, rfl, rfl, rfl⟩
  · exact Option.some.inj taken ▸ ⟨rfl, rfl, rfl, rfl⟩
  · cases taken

def Action.plain : Action → Bool
  | .start | .stop | .stopReturn _ | .workerResume _ _ | .recoverStart | .recoverScan _
  | .recoverResume _ _ | .recoverPut _ => false
  | _ => true

theorem plain_aside {a : Action} (plain : a.plain = true) (taken : step cfg s a = some t) :
    Aside s t := by
  cases a with
  | start | stop | stopReturn | workerResume | recoverStart | recoverScan | recoverResume
  | recoverPut => cases plain
  | enqueue job handler sink =>
      obtain rfl := Option.some.inj (step_idle taken (by simp)).2
      exact enqueue_aside job handler
  | cancel runId sink =>
      obtain rfl := Option.some.inj (step_idle taken (by simp)).2
      exact cancel_aside runId
  | heartbeat runId =>
      obtain rfl := Option.some.inj (step_idle taken (by simp)).2
      unfold heartbeat
      split
      · exact ⟨rfl, rfl, rfl, rfl⟩
      · exact aside_refl
  | tick elapsed =>
      have moved := (step_idle taken (by simp)).2
      simp only [idleStep] at moved
      split at moved
      · obtain rfl := Option.some.inj moved
        exact ⟨rfl, rfl, rfl, rfl⟩
      · cases moved
  | workerGet v sink raises => exact workerGet_aside (step_idle taken (by simp)).2
  | workerReput v =>
      have moved := (step_idle taken (by simp)).2
      simp only [idleStep, workerReput] at moved
      split at moved
      · split at moved
        · obtain rfl := Option.some.inj moved
          exact ⟨rfl, rfl, rfl, rfl⟩
        · cases moved
      · cases moved
  | workerWake v =>
      have moved := (step_idle taken (by simp)).2
      simp only [idleStep, workerWake] at moved
      split at moved
      · obtain rfl := Option.some.inj moved
        exact ⟨rfl, rfl, rfl, rfl⟩
      · cases moved
  | workerRetryPut v =>
      have moved := (step_idle taken (by simp)).2
      simp only [idleStep, workerRetryPut] at moved
      split at moved
      · split at moved
        · obtain rfl := Option.some.inj moved
          exact ⟨rfl, rfl, rfl, rfl⟩
        · cases moved
      · cases moved
  | workerTimeout v => exact workerTimeout_aside (step_idle taken (by simp)).2
  | workerCancel v =>
      obtain rfl := Option.some.inj (step_idle taken (by simp)).2
      exact cancelWorker_aside v s
  | workerCancelled v => exact workerCancelled_aside (step_idle taken (by simp)).2
  | handlerFinish task outcome =>
      have moved := (step_idle taken (by simp)).2
      simp only [idleStep, handlerFinish] at moved
      split at moved
      · obtain rfl := Option.some.inj moved
        exact ⟨rfl, rfl, rfl, rfl⟩
      · cases moved

theorem recordOutcome_aside (job : AgentRunJob) (status : AgentRunStatus) :
    Aside s (recordOutcome cfg sink w job status s) := by
  unfold recordOutcome
  dsimp only
  split <;> exact ⟨rfl, rfl, rfl, rfl⟩

theorem concludeExecute_aside (item : WorkItem) {result : HandlerOutcome}
    (other : result ≠ .cancelled) : Aside s (concludeExecute cfg sink w item result s) := by
  unfold concludeExecute
  dsimp only
  cases result with
  | cancelled => exact absurd rfl other
  | retryable =>
      dsimp only
      split
      · exact recordOutcome_aside item.job .cancelled
      · split
        · unfold retryExecute
          dsimp only
          repeat' split
          all_goals exact ⟨rfl, rfl, rfl, rfl⟩
        · exact recordOutcome_aside item.job .failed
  | timeoutError | exception => exact recordOutcome_aside item.job .failed
  | returned => exact recordOutcome_aside item.job _

/-- A `CancelledError` of a marked run is swallowed. -/
theorem concludeExecute_marked (item : WorkItem) (marked : item.job.runId ∈ s.recoveryRequested) :
    concludeExecute cfg sink w item .cancelled s =
      leaveExecute w item.job
        { s with recoveryRequested := s.recoveryRequested.erase item.job.runId } := by
  unfold concludeExecute
  dsimp only
  rw [if_pos marked]

/-- A `CancelledError` of a run that is neither marked nor cancelled ends the worker. -/
theorem concludeExecute_raised (item : WorkItem) (unmarked : item.job.runId ∉ s.recoveryRequested)
    (unflagged : s.cancelEvents.get item.job.runId ≠ some true) :
    concludeExecute cfg sink w item .cancelled s = crashExecute w item.job s := by
  unfold concludeExecute
  dsimp only
  rw [if_neg unmarked, if_neg unflagged]

end Frames

section Handlers

variable {cfg : Config} {label : Label} {s t : QueueState} {task : Nat}

theorem waitAt_some {pool : List Worker} {w : Nat} {wait : HandlerWait} :
    waitAt pool w = some wait ↔ pcAt pool w = some (.awaiting wait) := by
  unfold waitAt
  cases pcAt pool w with
  | none => exact iff_of_false nofun nofun
  | some pc =>
      cases pc with
      | awaiting other => exact ⟨fun same => congrArg _ (congrArg _ (Option.some.inj same)),
          fun same => congrArg _ (WorkerPc.awaiting.inj (Option.some.inj same))⟩
      | getting | reputting | sleeping | retrying | done => exact iff_of_false nofun nofun

theorem gathered_open (sound : Sound s) :
    gathered s task = false ↔ ∃ w wait, pcAt s.pool w = some (.awaiting wait) ∧
    wait.task = task := by
  have waited : s.pool.any (awaits task) = true ↔
      ∃ w wait, pcAt s.pool w = some (.awaiting wait) ∧ wait.task = task := by
    constructor
    · intro some_
      obtain ⟨⟨pc, flagged⟩, member, waits⟩ := List.any_eq_true.mp some_
      obtain ⟨w, found⟩ := List.mem_iff_getElem?.mp member
      cases pc with
      | awaiting wait => exact ⟨w, wait, pcAt_found found, of_decide_eq_true waits⟩
      | getting | reputting | sleeping | retrying | done => cases waits
    · rintro ⟨w, wait, waits, rfl⟩
      obtain ⟨⟨pc, flagged⟩, found, rfl⟩ := Option.map_eq_some_iff.mp waits
      exact List.any_eq_true.mpr ⟨_, List.mem_of_getElem? found, decide_eq_true rfl⟩
  unfold gathered
  cases pending : s.pending task with
  | false =>
      rw [← waited, Bool.not_false, Bool.true_and, Bool.not_eq_false']
  | true =>
      refine iff_of_true rfl ?_
      exact sound.attended.active task pending

def Owned (s : QueueState) : Prop :=
  ∀ runId task, s.handlerTasks.get runId = some task → ∃ job, taskJob s.tasks task = some job ∧
    job.runId = runId

theorem owned_kept (owned : Owned s) (effect : Effect cfg s label t) : Owned t := by
  intro runId task present
  rcases handlerTasks_effect effect runId task present with before | begun
  · obtain ⟨job, begun, own⟩ := owned runId task before
    exact ⟨job, taskJob_persists effect begun, own⟩
  · exact begun

end Handlers

section Markers

variable {cfg : Config} {sink : Sink} {label : Label} {s t : QueueState} {w : Nat}
    {runId : UUID} {task : Nat}

/-- Each marked run has a recovery that waits for its handler, and a worker that does. -/
def Marked (s : QueueState) : Prop :=
  ∀ runId ∈ s.recoveryRequested, ∃ w wait, pcAt s.pool w = some (.awaiting wait) ∧
    wait.item.job.runId = runId ∧ Gathers s runId wait.task

theorem marked_initial : Marked initial := by
  intro runId member
  exact absurd member (Finset.notMem_empty runId)

/-- Markers stay answered when no recovery and no worker that answers one leaves. -/
theorem marked_kept (marked : Marked s) (requested : t.recoveryRequested ⊆ s.recoveryRequested)
    (workers : ∀ w wait, pcAt s.pool w = some (.awaiting wait) →
      wait.item.job.runId ∈ t.recoveryRequested →
      Gathers s wait.item.job.runId wait.task →
        ∃ later, pcAt t.pool w = some (.awaiting later) ∧ later.item = wait.item ∧
        later.task = wait.task)
    (calls : ∀ w wait, pcAt s.pool w = some (.awaiting wait) → ∀ runId,
      Gathers s runId wait.task → Gathers t runId wait.task) : Marked t := by
  intro runId member
  obtain ⟨w, wait, waits, rfl, gathers⟩ := marked runId (requested member)
  obtain ⟨later, still, item, task⟩ := workers w wait waits member gathers
  refine ⟨w, later, still, by rw [item], ?_⟩
  rw [task]
  exact calls w wait waits _ gathers

theorem marked_grown {a : Action} (marked : Marked s)
    (requested : t.recoveryRequested ⊆ s.recoveryRequested)
    (recoveries : s.recoveries ⊆ t.recoveries) (taken : step cfg s a = some t)
    (other : ∀ w sink, a ≠ .workerResume w sink) : Marked t := by
  refine marked_kept marked requested ?_ ?_
  · intro w wait waits _ _
    exact awaiting_turn waits (turn_step taken w) (other w)
  · intro _ _ _ runId gathers
    obtain ⟨call, member, waits⟩ := gathers
    exact ⟨call, recoveries member, waits⟩

theorem marked_aside {a : Action} (marked : Marked s) (aside : Aside s t)
    (taken : step cfg s a = some t) (other : ∀ w sink, a ≠ .workerResume w sink) : Marked t :=
  marked_grown marked (aside.requested ▸ Finset.Subset.refl _)
    (aside.recoveries ▸ List.Subset.refl _) taken other

theorem gathers_set {i : Nat} {call next : RecoverCall} (found : s.recoveries[i]? = some call)
    (other : call.pc.gathers runId task = false) (gathers : Gathers s runId task)
    (set_ : t.recoveries = s.recoveries.set i next) : Gathers t runId task := by
  obtain ⟨own, member, waits⟩ := gathers
  obtain ⟨j, present⟩ := List.mem_iff_getElem?.mp member
  refine ⟨own, ?_, waits⟩
  rw [set_]
  refine List.mem_of_getElem? (i := j) ?_
  rw [List.getElem?_set_ne, present]
  intro same
  subst same
  rw [found] at present
  obtain rfl := Option.some.inj present
  exact Bool.false_ne_true (other.symm.trans waits)

/-- One iteration of a recovery marks a run and waits for its handler, or settles a run without one,
or goes on. -/
theorem recoverScan_cases (i : Nat) (call : RecoverCall) :
    (∃ runId ∈ marking s call, s.handlerTasks.get runId = none) ∨
      (∃ runId ∈ marking s call, ∃ task ∈ s.handlerTasks.get runId, ∃ rest job,
        recoverScan cfg sink i call s =
        yieldRecovery i { call with snapshot := rest, pc := .gathering runId job task }
          ({ s with recoveryRequested := insert runId s.recoveryRequested }.cancelHandler task)) ∨
      ∃ next scanning, recoverScan cfg sink i call s =
        { s with recoveries := s.recoveries.set i next, scanning } := by
  unfold recoverScan
  split
  · exact Or.inr (Or.inr ⟨_, _, rfl⟩)
  · next runId status rest front =>
      dsimp only
      split
      · exact Or.inr (Or.inr ⟨_, _, rfl⟩)
      · next running =>
          obtain rfl := not_not.mp running
          split
          · exact Or.inr (Or.inr ⟨_, _, rfl⟩)
          · next job stored =>
              split
              · exact Or.inr (Or.inr ⟨_, _, rfl⟩)
              · next stale =>
                  have marks : runId ∈ marking s call := by
                    simp only [marking, front, stored, if_neg stale]
                    rfl
                  split
                  · next task current =>
                      exact Or.inr (Or.inl ⟨runId, marks, task, current, rest, job, rfl⟩)
                  · next absent => exact Or.inl ⟨runId, marks, absent⟩

theorem settle_frame (i : Nat) (call : RecoverCall) (runId : UUID) (job : AgentRunJob) :
    (settle cfg sink i call runId job s).recoveryRequested = s.recoveryRequested ∧
      ∃ next, (settle cfg sink i call runId job s).recoveries = s.recoveries.set i next := by
  unfold settle
  dsimp only
  repeat' split
  all_goals exact ⟨rfl, _, rfl⟩

theorem marked_advanced {a : Action} {i : Nat} {call next : RecoverCall} (marked : Marked s)
    (found : s.recoveries[i]? = some call)
    (other : ∀ w wait, pcAt s.pool w = some (.awaiting wait) → ∀ runId,
      call.pc.gathers runId wait.task = false)
    (requested : t.recoveryRequested = s.recoveryRequested)
    (set_ : t.recoveries = s.recoveries.set i next)
    (taken : step cfg s a = some t) (apart : ∀ w sink, a ≠ .workerResume w sink) : Marked t := by
  refine marked_kept marked (requested ▸ Finset.Subset.refl _) ?_ ?_
  · intro w wait waits _ _
    exact awaiting_turn waits (turn_step taken w) (apart w)
  · intro w wait waits runId gathers
    exact gathers_set found (other w wait waits runId) gathers set_

theorem marked_resumed (marked : Marked s) (calm : Calm s (.workerResume w sink))
    (taken : step cfg s (.workerResume w sink) = some t) : Marked t := by
  have moved : workerResume cfg sink w s = some t := (step_idle taken nofun).2
  unfold workerResume at moved
  split at moved
  · next wait flagged found =>
      obtain ⟨outcome, finished, after⟩ := Option.map_eq_some_iff.mp moved
      have surrendered : Surrendered s w wait (wait.result outcome) :=
        calm wait (waitAt_some.mpr (pcAt_found found)) outcome finished
      have same (other : HandlerWait) (waits : pcAt s.pool w = some (.awaiting other)) :
          other = wait :=
        WorkerPc.awaiting.inj (Option.some.inj (waits.symm.trans (pcAt_found found)))
      have framed : t.recoveries = s.recoveries ∧ t.recoveryRequested ⊆ s.recoveryRequested ∧
          (Gathers s wait.item.job.runId wait.task →
            wait.item.job.runId ∉ t.recoveryRequested) := by
        rw [← after]
        by_cases cancelled : wait.result outcome = .cancelled
        · rw [cancelled]
          by_cases own : wait.item.job.runId ∈ s.recoveryRequested
          · rw [concludeExecute_marked wait.item own]
            refine ⟨rfl, Finset.erase_subset _ _, fun _ => Finset.notMem_erase _ _⟩
          · rw [concludeExecute_raised wait.item own (surrendered.unflagged own cancelled)]
            exact ⟨rfl, Finset.Subset.refl _, fun _ => own⟩
        · have aside := @concludeExecute_aside cfg sink s w wait.item _ cancelled
          refine ⟨aside.recoveries, aside.requested ▸ Finset.Subset.refl _, fun gathers => ?_⟩
          rw [aside.requested]
          exact fun own => cancelled (surrendered.recovered own gathers)
      obtain ⟨recoveries, requested, dropped⟩ := framed
      refine marked_kept marked requested ?_ ?_
      · intro v other waits member gathers
        refine awaiting_turn waits (turn_step taken v) ?_
        rintro _ ⟨rfl, rfl⟩
        obtain rfl := same other waits
        exact absurd member (dropped gathers)
      · intro _ _ _ runId gathers
        unfold Gathers
        rw [recoveries]
        exact gathers
  · cases moved

theorem marked_scanned (sound : Sound s) (owned : Owned s) (marked : Marked s)
    (calm : Calm s (.recoverScan sink))
    (taken : step cfg s (.recoverScan sink) = some t) : Marked t := by
  obtain ⟨i, call, holding, found, scanning, after⟩ := step_scanning taken
  have current : call ∈ s.scanning.bind fun i => s.recoveries[i]? := by
    rw [holding]
    exact found
  have other (runId : UUID) (task : Nat) : call.pc.gathers runId task = false := by
    rw [scanning]
    rfl
  rcases @recoverScan_cases cfg sink s i call with ⟨runId, marks, absent⟩ |
    ⟨runId, marks, task, registered, rest, job, marking_⟩ | ⟨next, hold, onward⟩
  · obtain ⟨task, present, _⟩ := calm call current runId marks
    exact nomatch absent.symm.trans present
  · obtain ⟨same, present, open_⟩ := calm call current runId marks
    obtain rfl : same = task := Option.some.inj (present.symm.trans registered)
    obtain ⟨w, wait, waits, rfl⟩ := (gathered_open sound).mp open_
    have own : wait.item.job.runId = runId := by
      obtain ⟨begun, started, own⟩ := owned runId wait.task registered
      have job := sound.attended.matched w wait waits
      rw [started] at job
      rw [← Option.some.inj job, own]
    rw [marking_] at after
    subst after
    intro key member
    rcases Finset.mem_insert.mp member with rfl | before
    · refine ⟨w, wait, waits, own, _, List.mem_set (List.getElem?_eq_some_iff.mp found).1 _, ?_⟩
      exact decide_eq_true ⟨rfl, rfl⟩
    · obtain ⟨v, waiting, still, mine, gathers⟩ := marked key before
      exact ⟨v, waiting, still, mine, gathers_set found (other key _) gathers rfl⟩
  · rw [onward] at after
    subst after
    exact marked_advanced marked found (fun _ wait _ runId => other runId wait.task) rfl
      rfl taken nofun

theorem marked_gathered {i : Nat} (sound : Sound s) (marked : Marked s)
    (taken : step cfg s (.recoverResume i sink) = some t) : Marked t := by
  have moved : recoverResume cfg sink i s = some t := (step_idle taken nofun).2
  unfold recoverResume at moved
  split at moved
  · next call found =>
      split at moved
      · next runId job task waiting =>
          split at moved
          · next ready =>
              obtain ⟨requested, next, set_⟩ := @settle_frame cfg sink s i call runId job
              rw [Option.some.inj moved] at requested set_
              refine marked_advanced marked found ?_ requested set_ taken nofun
              intro w wait waits key
              rw [waiting]
              refine decide_eq_false fun same => ?_
              have open_ := (gathered_open sound).mpr ⟨w, wait, waits, same.2.symm⟩
              exact nomatch ready.symm.trans open_
          · cases moved
      · cases moved
  · cases moved

theorem marked_put {i : Nat} (marked : Marked s) (taken : step cfg s (.recoverPut i) = some t) :
    Marked t := by
  have moved : recoverPut cfg i s = some t := (step_idle taken nofun).2
  unfold recoverPut at moved
  split at moved
  · next call found =>
      split at moved
      · next item waiting =>
          split at moved
          · have after := Option.some.inj moved
            subst after
            refine marked_advanced marked found ?_ rfl rfl taken nofun
            intro _ _ _ key
            rw [waiting]
            rfl
          · cases moved
      · cases moved
  · cases moved

/-- Every step of a calm run keeps the markers answered. -/
theorem marked_step {a : Action} (sound : Sound s) (owned : Owned s) (marked : Marked s)
    (calm : Calm s a) (taken : step cfg s a = some t) : Marked t := by
  cases a with
  | workerResume w sink => exact marked_resumed marked calm taken
  | recoverScan sink => exact marked_scanned sound owned marked calm taken
  | recoverResume i sink => exact marked_gathered sound marked taken
  | recoverPut i => exact marked_put marked taken
  | start =>
      obtain rfl := Option.some.inj (step_idle taken nofun).2
      refine marked_grown marked ?_ ?_ taken nofun
      · unfold start
        split <;> exact Finset.Subset.refl _
      · unfold start
        split <;> exact List.Subset.refl _
  | stop =>
      obtain rfl := Option.some.inj (step_idle taken nofun).2
      obtain ⟨_, _, requested, recoveries, _⟩ := stop_frame s
      exact marked_grown marked (requested ▸ Finset.Subset.refl _)
        (recoveries ▸ List.Subset.refl _) taken nofun
  | stopReturn i =>
      have moved : stopReturn i s = some t := (step_idle taken nofun).2
      obtain ⟨gathered, _, rest⟩ := Option.bind_eq_some_iff.mp moved
      split at rest
      · obtain rfl := Option.some.inj rest
        exact marked_grown marked (Finset.Subset.refl _) (List.Subset.refl _) taken nofun
      · cases rest
  | recoverStart =>
      obtain rfl := Option.some.inj (step_idle taken nofun).2
      refine marked_grown marked ?_ ?_ taken nofun
      · unfold recoverStart
        dsimp only
        split <;> exact Finset.Subset.refl _
      · unfold recoverStart
        dsimp only
        split <;> exact List.subset_append_left _ _
  | enqueue | cancel | heartbeat | tick | workerGet | workerReput | workerWake | workerRetryPut
  | workerTimeout
  | workerCancel | workerCancelled | handlerFinish =>
      exact marked_aside marked (plain_aside rfl taken) taken nofun

end Markers

end SynapseOS.Queue
