import SynapseOS.Queue.Terminal

/-! What a cancelled run may still do. -/

namespace SynapseOS.Queue

open Transition

def Executed (pool : List Worker) (runId : UUID) : Prop :=
  ∃ w wait, pcAt pool w = some (.awaiting wait) ∧ wait.item.job.runId = runId

/-- No recovery acts on the run, its handler ends neither in a timeout nor in an exception other
than `RetryableRunError`, and a cancelled handler was not cancelled for a recovery. -/
def Heeded (runId : UUID) (s : QueueState) : Label → Prop
  | .submit job => s.jobs.get job.runId = none
  | .resume item result => item.job.runId = runId →
      result ≠ .timeoutError ∧ result ≠ .exception ∧
        (result = .cancelled → runId ∉ s.recoveryRequested)
  | .settle other _ => other ≠ runId
  | .quiet => True

instance (runId : UUID) (s : QueueState) (label : Label) : Decidable (Heeded runId s label) :=
  match label with
  | .submit job => inferInstanceAs (Decidable (s.jobs.get job.runId = none))
  | .resume item result =>
      inferInstanceAs
        (Decidable (item.job.runId = runId → result ≠ .timeoutError ∧ result ≠ .exception ∧
        (result = .cancelled → runId ∉ s.recoveryRequested)))
  | .settle other _ => inferInstanceAs (Decidable (other ≠ runId))
  | .quiet => inferInstanceAs (Decidable True)

theorem heeded_fresh {runId : UUID} {s : QueueState} {label : Label}
    (heeded : Heeded runId s label) : Fresh s label := by
  cases label with
  | submit job => exact heeded
  | quiet | resume | settle => trivial

theorem executed_of_running {pool : List Worker} {runId : UUID} (busy : running runId pool ≠ 0) :
    Executed pool runId := by
  obtain ⟨attempt, member⟩ := Multiset.exists_mem_of_ne_zero busy
  obtain ⟨⟨pc, flagged⟩, present, shared⟩ := (mem_tally _ attempt).mp member
  obtain ⟨job, executing, own, _⟩ := mem_share runId shared
  obtain ⟨w, found⟩ := List.mem_iff_getElem?.mp present
  cases pc with
  | awaiting wait =>
      obtain rfl := Option.some.inj executing
      exact ⟨w, wait, pcAt_found found, own⟩
  | getting | reputting | sleeping | retrying | done => cases executing

theorem running_of_executed {pool : List Worker} {runId : UUID} (executed : Executed pool runId) :
    running runId pool ≠ 0 := by
  obtain ⟨w, wait, waits, own⟩ := executed
  obtain ⟨worker, found, at_⟩ := Option.map_eq_some_iff.mp waits
  have shared : wait.item.job.attempt ∈ share runId worker.pc.executing := by
    rw [at_]
    show wait.item.job.attempt ∈ share runId (some wait.item.job)
    rw [share_own own]
    exact Multiset.mem_singleton_self _
  intro idle
  have member : wait.item.job.attempt ∈ running runId pool :=
    (mem_tally _ _).mpr ⟨worker, List.mem_of_getElem? found, shared⟩
  rw [idle] at member
  exact Multiset.notMem_zero _ member

section Pool

variable {pool : List Worker} {w : Nat} {pc : WorkerPc} {flagged : Bool} {runId : UUID}

theorem executed_set (executed : Executed pool runId) (found : pool[w]? = some ⟨pc, flagged⟩)
    (elsewhere : ∀ wait, pc = .awaiting wait → wait.item.job.runId ≠ runId) (next : WorkerPc)
    (mark : Bool) : Executed (pool.set w ⟨next, mark⟩) runId := by
  obtain ⟨v, wait, waits, own⟩ := executed
  refine ⟨v, wait, ?_, own⟩
  rw [pcAt_set found, Function.update_of_ne]
  · exact waits
  · rintro rfl
    rw [pcAt_found found] at waits
    exact elsewhere wait (Option.some.inj waits) own

theorem executed_spawn (executed : Executed pool runId) (count : Nat) :
    Executed (pool ++ List.replicate count ⟨.getting, false⟩) runId := by
  obtain ⟨v, wait, waits, own⟩ := executed
  refine ⟨v, wait, ?_, own⟩
  rcases pcAt_spawn pool count v with same | ⟨absent, _⟩
  · rw [same, waits]
  · exact nomatch waits.symm.trans absent

end Pool

/-- The run is cancelled, or still has the status it was cancelled under and is executed. -/
def Withdrawn (runId : UUID) (status : Option AgentRunStatus) (s : QueueState) : Prop :=
  s.statuses.get runId = some .cancelled ∨
    s.statuses.get runId = status ∧ Executed s.pool runId

section Effects

variable {cfg : Config} {label : Label} {s t : QueueState} {runId : UUID}
  {status : Option AgentRunStatus}

theorem cancelEvent_persists (fresh : Fresh s label)
    (accepted : ∃ job, s.jobs.get runId = some job) (effect : Effect cfg s label t)
    (flagged : s.cancelEvents.get runId = some true) : t.cancelEvents.get runId = some true := by
  cases effect with
  | submit job handler events new room logged =>
      obtain ⟨stored, present⟩ := accepted
      show (s.cancelEvents.set job.runId false).get runId = some true
      rw [Dict.get_set_other, flagged]
      rintro rfl
      exact nomatch present.symm.trans fresh
  | withdraw other events queued logged =>
      show (s.cancelEvents.set other true).get runId = some true
      rw [Dict.get_set, flagged, ite_self]
  | flag other status active unfinished =>
      show (s.cancelEvents.set other true).get runId = some true
      rw [Dict.get_set, flagged, ite_self]
  | _ => exact flagged

/-- Nobody starts a run that is withdrawn: it is skipped, or its task is locked. -/
theorem withdrawn_unwanted (coherent : Coherent s) (withdrawn : Withdrawn runId status s)
    {item : WorkItem} {rest : List WorkItem} (front : s.queue = item :: rest)
    (wanted : s.statuses.get item.job.runId ≠ some .cancelled)
    (free : s.taskLocks.get item.job.taskId ≠ some true) : item.job.runId ≠ runId := by
  rintro rfl
  rcases withdrawn with cancelled | ⟨_, w, wait, waits, own⟩
  · exact wanted cancelled
  · obtain ⟨worker, found, at_⟩ := Option.map_eq_some_iff.mp waits
    have carried : Known s.jobs wait.item.job := by
      refine coherent.registered.circulating.pool worker (List.mem_of_getElem? found) _ ?_
      rw [at_]
      exact List.mem_cons_self
    have accepted := (everywhere_front coherent.registered.circulating front).1
    have same := known_same carried accepted own
    refine free (same ▸ coherent.sound.exclusive.held w _ ?_)
    simp [holder, waits, WorkerPc.holding]

theorem withdrawn_other (withdrawn : Withdrawn runId status s) (key : UUID) (other : key ≠ runId)
    (value : AgentRunStatus) (statuses : t.statuses = s.statuses.set key value)
    (executed : Executed s.pool runId → Executed t.pool runId) : Withdrawn runId status t := by
  have same : t.statuses.get runId = s.statuses.get runId := by
    rw [statuses, Dict.get_set_other _ _ _ _ other]
  rw [Withdrawn, same]
  exact withdrawn.imp_right (And.imp_right executed)

theorem withdrawn_same (withdrawn : Withdrawn runId status s) (statuses : t.statuses = s.statuses)
    (executed : Executed s.pool runId → Executed t.pool runId) : Withdrawn runId status t := by
  rw [Withdrawn, statuses]
  exact withdrawn.imp_right (And.imp_right executed)

theorem withdrawn_effect (coherent : Coherent s) (heeded : Heeded runId s label)
    (flagged : s.cancelEvents.get runId = some true) (unqueued : status ≠ some .queued)
    (accepted : ∃ job, s.jobs.get runId = some job) (withdrawn : Withdrawn runId status s)
    (effect : Effect cfg s label t) :
    Withdrawn runId status t ∧ attemptsOf runId t.tasks = attemptsOf runId s.tasks := by
  have moved {w : Nat} {pc : WorkerPc} {mark : Bool} (found : s.pool[w]? = some ⟨pc, mark⟩)
      (elsewhere : ∀ wait, pc = .awaiting wait → wait.item.job.runId ≠ runId) (next : WorkerPc)
      (after : Bool) (executed : Executed s.pool runId) :
      Executed (s.pool.set w ⟨next, after⟩) runId :=
    executed_set executed found elsewhere next after
  have others {wait : HandlerWait} (other : wait.item.job.runId ≠ runId) :
      ∀ before, WorkerPc.awaiting wait = .awaiting before → before.item.job.runId ≠ runId := by
    rintro before same
    rwa [← WorkerPc.awaiting.inj same]
  have kept (executed : Executed s.pool runId) : Executed s.pool runId := executed
  cases effect with
  | environment | flag | skip | recover | advance | gather | recoverPut =>
      exact ⟨withdrawn_same withdrawn rfl kept, rfl⟩
  | touch task =>
      refine ⟨withdrawn_same withdrawn rfl kept, attemptsOf_modify runId s.tasks task _ ?_⟩
      intro handler
      split <;> rfl
  | finish task outcome active =>
      exact ⟨withdrawn_same withdrawn rfl kept,
        attemptsOf_modify runId s.tasks task _ fun _ => rfl⟩
  | submit job handler events new room logged =>
      obtain ⟨stored, present⟩ := accepted
      have other : job.runId ≠ runId := by
        rintro rfl
        exact nomatch present.symm.trans heeded
      exact ⟨withdrawn_other withdrawn job.runId other .queued rfl kept, rfl⟩
  | withdraw cancelled events queued logged =>
      have other : cancelled ≠ runId := by
        rintro rfl
        rcases withdrawn with ended | ⟨same, _⟩
        · exact nomatch queued.symm.trans ended
        · exact unqueued (same.symm.trans queued)
      exact ⟨withdrawn_other withdrawn cancelled other .cancelled rfl kept, rfl⟩
  | settle i call other job requested queue new events pc snapshot recovered scanning found suffix
      source logged branch =>
      exact ⟨withdrawn_other withdrawn other heeded new rfl kept, rfl⟩
  | spawn count workers =>
      exact ⟨withdrawn_same withdrawn rfl fun executed => executed_spawn executed count, rfl⟩
  | interrupt w pc mark found suspended =>
      refine ⟨withdrawn_same withdrawn rfl (moved found ?_ pc true), rfl⟩
      rintro wait rfl
      cases suspended
  | mark w wait marked mark found same =>
      refine ⟨withdrawn_same withdrawn rfl ?_, rfl⟩
      rintro ⟨v, before, waits, own⟩
      by_cases here : v = w
      · subst here
        obtain rfl := WorkerPc.awaiting.inj (Option.some.inj (waits.symm.trans (pcAt_found found)))
        refine ⟨v, marked, ?_, same.1 ▸ own⟩
        show pcAt (s.pool.set v ⟨.awaiting marked, false⟩) v = _
        rw [pcAt_set found, Function.update_self]
      · refine ⟨v, before, ?_, own⟩
        show pcAt (s.pool.set w ⟨.awaiting marked, false⟩) v = _
        rw [pcAt_set found, Function.update_of_ne here, waits]
  | contend w item rest locks found front same held =>
      exact ⟨withdrawn_same withdrawn rfl (moved found nofun .sleeping false), rfl⟩
  | contendFull w item rest locks found front same full =>
      exact ⟨withdrawn_same withdrawn rfl (moved found nofun (.reputting item) false), rfl⟩
  | begin w item rest locks heartbeats deadline events found front wanted free taken logged =>
      have other := withdrawn_unwanted coherent withdrawn front wanted free
      refine ⟨withdrawn_other withdrawn item.job.runId other .running rfl
        (moved found nofun (.awaiting { item, task := s.tasks.length, deadline }) false), ?_⟩
      show attemptsOf runId (s.tasks ++ [_]) = _
      rw [attemptsOf_push, if_neg other, List.append_nil]
  | beginFails w item rest locks heartbeats statuses events found front wanted same branch free =>
      have other := withdrawn_unwanted coherent withdrawn front wanted free
      refine ⟨?_, rfl⟩
      rcases branch with ⟨rfl, _⟩ | rfl
      · exact withdrawn_same withdrawn rfl (moved found nofun .done false)
      · exact withdrawn_other withdrawn item.job.runId other .running rfl
          (moved found nofun .done false)
  | reput w item found room =>
      exact ⟨withdrawn_same withdrawn rfl (moved found nofun .sleeping false), rfl⟩
  | wake w found => exact ⟨withdrawn_same withdrawn rfl (moved found nofun .getting false), rfl⟩
  | outcome w wait mark result ended events pc found finished ends cancelled logged next =>
      refine ⟨?_, rfl⟩
      by_cases own : wait.item.job.runId = runId
      · obtain ⟨notTimeout, notException, _⟩ := heeded own
        obtain rfl := cancelled (own ▸ flagged) notTimeout notException
        subst own
        exact Or.inl (Dict.get_set_self _ _ _)
      · exact withdrawn_other withdrawn wait.item.job.runId own ended rfl
          (moved found (others own) pc false)
  | swallow w wait mark found finished requested =>
      refine ⟨withdrawn_same withdrawn rfl (moved found (others ?_) .getting false), rfl⟩
      intro own
      exact (heeded own).2.2 rfl (own ▸ requested)
  | crash w wait mark found finished unflagged =>
      refine ⟨withdrawn_same withdrawn rfl (moved found (others ?_) .done false), rfl⟩
      exact fun own => unflagged (own ▸ flagged)
  | retry w wait mark events remaining found finished unflagged room logged =>
      have other : wait.item.job.runId ≠ runId := fun own => unflagged (own ▸ flagged)
      exact ⟨withdrawn_other withdrawn _ other .retrying rfl (moved found (others other) _ false),
        rfl⟩
  | retryBlocked w wait mark events remaining found finished unflagged full logged =>
      have other : wait.item.job.runId ≠ runId := fun own => unflagged (own ▸ flagged)
      exact ⟨withdrawn_other withdrawn _ other .retrying rfl (moved found (others other) _ false),
        rfl⟩
  | retryLost w wait mark remaining found finished unflagged =>
      have other : wait.item.job.runId ≠ runId := fun own => unflagged (own ▸ flagged)
      exact ⟨withdrawn_other withdrawn _ other .retrying rfl (moved found (others other) _ false),
        rfl⟩
  | retryPut w item retry found room =>
      exact ⟨withdrawn_same withdrawn rfl (moved found nofun .getting false), rfl⟩
  | dropRetry w item retry found =>
      exact ⟨withdrawn_same withdrawn rfl (moved found nofun .done false), rfl⟩
  | die w pc found suspended =>
      refine ⟨withdrawn_same withdrawn rfl (moved found ?_ .done false), rfl⟩
      rcases suspended with rfl | rfl | ⟨item, rfl⟩ <;> exact nofun

end Effects

theorem coherent_run {cfg : Config} {allowed : QueueState → Label → Prop} {s t : QueueState}
    (always : ∀ u, allowed u .quiet) (fresh : ∀ u label, allowed u label → Fresh u label)
    (coherent : Coherent s) (run : Runs cfg allowed s t) : Coherent t :=
  runs_invariant Coherent run coherent always
    (fun u label _ held permitted effect => coherent_effect held (fresh u label permitted) effect)

theorem distinct_fresh {s : QueueState} {label : Label} (distinct : Distinct s label) :
    Fresh s label := by
  cases label with
  | submit job => exact distinct
  | quiet | resume | settle => trivial

theorem cancel_returned (cfg : Config) (sink : Sink) (runId : UUID) (s : QueueState)
    (returned : (cancel cfg sink runId s).1 = .returned true) :
    (cancel cfg sink runId s).2.cancelEvents.get runId = some true ∧
      (cancel cfg sink runId s).2.tasks = s.tasks ∧ (cancel cfg sink runId s).2.pool = s.pool ∧
      (s.statuses.get runId = some .queued ∧
          (cancel cfg sink runId s).2.statuses.get runId = some .cancelled ∨
        s.statuses.get runId ≠ some .queued ∧
          (cancel cfg sink runId s).2.statuses = s.statuses) := by
  unfold cancel at returned ⊢
  dsimp only at returned ⊢
  split at returned
  · next active =>
      rw [if_pos active]
      split at returned
      · cases returned
      split at returned
      · next queued =>
          rw [if_pos queued]
          split at returned
          · cases returned
          split at returned
          · cases returned
          · next event flagged _ job stored accepted =>
              simp only [QueueState.setStatus, accepted]
              exact ⟨Dict.get_set_self _ _ _, rfl, rfl, Or.inl ⟨queued, Dict.get_set_self _ _ _⟩⟩
      · next other =>
          rw [if_neg other]
          exact ⟨Dict.get_set_self _ _ _, rfl, rfl, Or.inr ⟨other, rfl⟩⟩
  · cases returned

theorem withdrawn_run {cfg : Config} {t u : QueueState} {runId : UUID}
    {status : Option AgentRunStatus} (coherent : Coherent t)
    (flagged : t.cancelEvents.get runId = some true) (unqueued : status ≠ some .queued)
    (accepted : ∃ job, t.jobs.get runId = some job) (withdrawn : Withdrawn runId status t)
    (later : Runs cfg (Heeded runId) t u) :
    Withdrawn runId status u ∧ attemptsOf runId u.tasks = attemptsOf runId t.tasks := by
  have kept : Coherent u ∧ u.cancelEvents.get runId = some true ∧
      (∃ job, u.jobs.get runId = some job) ∧ Withdrawn runId status u ∧
      attemptsOf runId u.tasks = attemptsOf runId t.tasks := by
    refine runs_invariant (fun v => Coherent v ∧ v.cancelEvents.get runId = some true ∧
      (∃ job, v.jobs.get runId = some job) ∧ Withdrawn runId status v ∧
      attemptsOf runId v.tasks = attemptsOf runId t.tasks) later
      ⟨coherent, flagged, accepted, withdrawn, rfl⟩ (fun _ => trivial) ?_
    intro v label w held heeded effect
    obtain ⟨before, event, ⟨job, present⟩, still, started⟩ := held
    have fresh := heeded_fresh heeded
    obtain ⟨after, unstarted⟩ :=
      withdrawn_effect before heeded event unqueued ⟨job, present⟩ still effect
    exact ⟨coherent_effect before fresh effect,
      cancelEvent_persists fresh ⟨job, present⟩ effect event,
      ⟨job, jobs_persist effect fresh present⟩, after, unstarted.trans started⟩
  exact kept.2.2.2

/-- After `cancel` has returned `True` no handler of the run is started, and its status is
`CANCELLED` once no worker executes it. -/
theorem cancel_final (cfg : Config) (s t u : QueueState) (run : Runs cfg Distinct initial s)
    (runId : UUID) (sink : Sink) (taken : step cfg s (.cancel runId sink) = some t)
    (returned : (cancel cfg sink runId s).1 = .returned true)
    (reached : s.statuses.get runId = some .queued ∨ Executed s.pool runId)
    (later : Runs cfg (Heeded runId) t u) :
    attemptsOf runId u.tasks = attemptsOf runId s.tasks ∧
      (u.statuses.get runId = some .cancelled ∨
        u.statuses.get runId = s.statuses.get runId ∧ Executed u.pool runId) := by
  have coherent : Coherent s :=
    coherent_run (fun _ => trivial) (fun _ _ => distinct_fresh) coherent_initial run
  have after : t = (cancel cfg sink runId s).2 := by
    unfold step at taken
    split at taken
    · exact (Option.some.inj taken).symm
    · cases taken
  have quiet : Distinct s (labelOf s (.cancel runId sink)) := trivial
  have stepped : Runs cfg Distinct s t := .tail .refl quiet taken
  have coherentAfter : Coherent t :=
    coherent_run (fun _ => trivial) (fun _ _ => distinct_fresh) coherent stepped
  obtain ⟨flagged, tasks, pool, branch⟩ := cancel_returned cfg sink runId s returned
  rw [← after] at flagged tasks pool branch
  rw [← tasks]
  have accepted (status : AgentRunStatus) (stored : t.statuses.get runId = some status) :=
    coherentAfter.registered.listed runId status stored
  rcases branch with ⟨_, cancelled⟩ | ⟨unqueued, same⟩
  · obtain ⟨withdrawn, started⟩ := @withdrawn_run cfg t u runId (some .cancelled) coherentAfter
      flagged nofun (accepted _ cancelled) (Or.inl cancelled) later
    exact ⟨started, Or.inl (withdrawn.elim id And.left)⟩
  · have executed : Executed t.pool runId := by
      rw [pool]
      exact reached.resolve_left unqueued
    obtain ⟨w, wait, waits, own⟩ := executed
    have busy : ∃ job, t.jobs.get runId = some job := by
      obtain ⟨worker, found, at_⟩ := Option.map_eq_some_iff.mp waits
      obtain ⟨job, present, _⟩ : Known t.jobs wait.item.job := by
        refine coherentAfter.registered.circulating.pool worker (List.mem_of_getElem? found) _ ?_
        rw [at_]
        exact List.mem_cons_self
      exact ⟨job, own ▸ present⟩
    obtain ⟨withdrawn, started⟩ := withdrawn_run coherentAfter flagged unqueued busy
      (Or.inr ⟨by rw [same], w, wait, waits, own⟩) later
    exact ⟨started, withdrawn⟩

theorem cancel_taken {cfg : Config} {sink : Sink} {runId : UUID} {s : QueueState}
    (idle : s.scanning = none) :
    step cfg s (.cancel runId sink) = some (cancel cfg sink runId s).2 := by
  simp only [step, idle, idleStep]

theorem cancel_final_running : ∃ s t u, Runs sampleQueue Distinct initial s ∧
    step sampleQueue s (.cancel 0 accepts) = some t ∧ Runs sampleQueue (Heeded 0) t u ∧
    running 0 s.pool ≠ 0 ∧ running 0 u.pool = 0 ∧
    attemptsOf 0 u.tasks = attemptsOf 0 s.tasks ∧ u.statuses.get 0 = some .cancelled := by
  obtain ⟨s, run, observed⟩ := runs_observe sampleQueue Distinct
    [.start, .enqueue (sampleJob 2 (by decide)) 0 accepts, .workerGet 0 accepts]
    (fun s => (s.scanning, (cancel sampleQueue accepts 0 s).1, decide (running 0 s.pool ≠ 0),
      (execute (step sampleQueue) (fun v a => decide (Heeded 0 v (labelOf v a)))
        (cancel sampleQueue accepts 0 s).2
        [.handlerFinish 0 .returned, .workerResume 0 accepts]).map fun u => running 0 u.pool))
    (none, .returned true, true, some 0) (by decide)
  simp only [Prod.mk.injEq, decide_eq_true_eq] at observed
  obtain ⟨idle, returned, busy, ended⟩ := observed
  obtain ⟨u, reached, over_⟩ := Option.map_eq_some_iff.mp ended
  have taken := @cancel_taken sampleQueue accepts 0 s idle
  have later := runs_execute _ _ u reached
  obtain ⟨started, cancelled | ⟨_, executed⟩⟩ := cancel_final sampleQueue s _ u run 0 accepts taken
    returned (Or.inr (executed_of_running busy)) later
  · exact ⟨s, _, u, run, taken, later, busy, over_, started, cancelled⟩
  · exact absurd over_ (running_of_executed executed)

def waiting (s : QueueState) (worker : Worker) : Bool :=
  match worker.pc with
  | .awaiting wait => s.pending wait.task
  | _ => false

/-- A run that is cancelled while it waits for its retry, behind another run that the only worker
executes, is started again, and may fail. -/
theorem cancel_ignored : ∃ s t u, Runs sampleQueue Distinct initial s ∧
    s.pool.all (waiting s) = true ∧ s.statuses.get 0 = some .retrying ∧
    (cancel sampleQueue accepts 0 s).1 = .returned true ∧
    step sampleQueue s (.cancel 0 accepts) = some t ∧ Runs sampleQueue Distinct t u ∧
    attemptsOf 0 s.tasks = [1] ∧ attemptsOf 0 u.tasks = [1, 2] ∧
    u.statuses.get 0 = some .failed := by
  obtain ⟨s, run, observed⟩ := runs_observe sampleQueue Distinct
    [.start, .enqueue (sampleJob 2 (by decide)) 0 accepts, .workerGet 0 accepts,
      .enqueue otherJob 0 accepts, .handlerFinish 0 .retryable, .workerResume 0 accepts,
      .workerGet 0 accepts]
    (fun s => (s.scanning, (cancel sampleQueue accepts 0 s).1, attemptsOf 0 s.tasks,
      (execute (step sampleQueue) (fun v a => decide (Distinct v (labelOf v a)))
        (cancel sampleQueue accepts 0 s).2
        [.handlerFinish 1 .returned, .workerResume 0 accepts, .workerGet 0 accepts,
          .handlerFinish 2 .exception, .workerResume 0 accepts]).map
        fun (u : QueueState) =>
          decide (attemptsOf 0 u.tasks = [1, 2] ∧ u.statuses.get 0 = some .failed),
      decide (s.pool.all (waiting s) = true ∧ s.statuses.get 0 = some .retrying)))
    (none, .returned true, [1], some true, true) (by decide)
  simp only [Prod.mk.injEq, decide_eq_true_eq] at observed
  obtain ⟨idle, returned, attempts, ended, waits, retrying⟩ := observed
  obtain ⟨u, reached, final⟩ := Option.map_eq_some_iff.mp ended
  obtain ⟨restarted, failed⟩ := of_decide_eq_true final
  exact ⟨s, _, u, run, waits, retrying, returned, cancel_taken idle, runs_execute _ _ u reached,
    attempts, restarted, failed⟩

end SynapseOS.Queue
