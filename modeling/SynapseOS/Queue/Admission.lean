import SynapseOS.Queue.Cancellation
import SynapseOS.Queue.Turns

/-! What an `enqueue` call that raises leaves behind, and what a raising audit sink does to a
run. -/

namespace SynapseOS.Queue

open Transition

variable {cfg : Config} {sink : Sink} {s t : QueueState}

/-- The call put its job in the queue and took its key, whether it then returned or raised. -/
def EnqueueReply.taken : EnqueueReply → Bool
  | .accepted | .sinkRaised => true
  | .duplicate | .stopping | .full => false

def EnqueueReply.raised : EnqueueReply → Bool
  | .stopping | .full | .sinkRaised => true
  | .accepted | .duplicate => false

/-- The run is RUNNING and no handler is running for it. -/
def Orphaned (s : QueueState) (runId : UUID) : Prop :=
  s.statuses.get runId = some .running ∧ ¬ Executed s.pool runId

def Action.accepting : Action → Action
  | .enqueue job handler _ => .enqueue job handler accepts
  | .cancel runId _ => .cancel runId accepts
  | .workerGet w _ raises => .workerGet w accepts raises
  | .workerResume w _ => .workerResume w accepts
  | .recoverScan _ => .recoverScan accepts
  | .recoverResume i _ => .recoverResume i accepts
  | a => a

def SinkFails (cfg : Config) (s : QueueState) (a : Action) : Prop :=
  step cfg s a.accepting ≠ step cfg s a

/-- A call that raises leaves nothing of its job, and where the audit sink raises no run becomes one
that is RUNNING without a handler. -/
structure Clean (cfg : Config) (s : QueueState) (a : Action) (t : QueueState) : Prop where
  calls : ∀ job handler sink, a = .enqueue job handler sink →
    (enqueue cfg sink job handler s).1.raised = true → t = s
  runs : SinkFails cfg s a → ∀ runId, Orphaned t runId → Orphaned s runId

/-- The sink raises neither on the QUEUED event of a job that was just queued nor on the RUNNING
event of a run that is started, unless another handler of the run is running or the run was RUNNING
before. -/
def Noted (cfg : Config) (s : QueueState) : Action → Prop
  | .enqueue job _ sink => s.stopping = false → job.idempotencyKey ∉ s.idempotencyKeys →
      s.queue.length < cfg.maxSize → auditRaises cfg sink job .queued = false
  | .workerGet w sink _ => ∀ item, Starts s w item → s.statuses.get item.job.runId ≠ some .running →
      ¬ Executed s.pool item.job.runId → auditRaises cfg sink item.job .running = false
  | _ => True

def takenKeys (cfg : Config) : QueueState → List Action → List String
  | _, [] => []
  | s, a :: rest =>
    match step cfg s a with
    | none => []
    | some t =>
      match a with
      | .enqueue job handler sink =>
        if (enqueue cfg sink job handler s).1.taken then job.idempotencyKey :: takenKeys cfg t rest
        else takenKeys cfg t rest
      | _ => takenKeys cfg t rest

/-! Keys. -/

theorem keys_effect {label : Label} (effect : Effect cfg s label t) :
    s.idempotencyKeys ⊆ t.idempotencyKeys := by
  cases effect with
  | submit => exact Finset.subset_insert _ _
  | _ => exact Finset.Subset.refl _

theorem keys_step {a : Action} (taken : step cfg s a = some t) :
    s.idempotencyKeys ⊆ t.idempotencyKeys := by
  refine @amounts_keeps cfg (fun u => s.idempotencyKeys ⊆ u.idempotencyKeys) s t _ ?_ ?_
    (Finset.Subset.refl _) (step_amounts cfg s t a taken)
  · exact fun u w held effect => held.trans (keys_effect effect)
  · exact fun w held effect => held.trans (keys_effect effect)

theorem enqueue_taken {job : AgentRunJob} {handler : RunHandler}
    (taken : (enqueue cfg sink job handler s).1.taken = true) :
    job.idempotencyKey ∉ s.idempotencyKeys ∧
      job.idempotencyKey ∈ (enqueue cfg sink job handler s).2.idempotencyKeys := by
  unfold enqueue at taken ⊢
  dsimp only at taken ⊢
  by_cases stopping : s.stopping = true
  · rw [if_pos stopping] at taken
    cases taken
  rw [if_neg stopping] at taken ⊢
  by_cases known : job.idempotencyKey ∈ s.idempotencyKeys
  · rw [if_pos known] at taken
    cases taken
  rw [if_neg known] at taken ⊢
  refine ⟨known, ?_⟩
  by_cases room : s.queue.length < cfg.maxSize
  · rw [if_pos room]
    split
    · exact Finset.mem_insert_self _ _
    · exact Finset.mem_insert_self _ _
  · rw [if_neg room] at taken
    cases taken

theorem idle_of_enqueue {job : AgentRunJob} {handler : RunHandler}
    (taken : step cfg s (.enqueue job handler sink) = some t) : t =
      (enqueue cfg sink job handler s).2 := by
  unfold step at taken
  split at taken
  · exact (Option.some.inj taken).symm
  · cases taken

theorem takenKeys_unique (actions : List Action) (s : QueueState) :
    (takenKeys cfg s actions).Nodup ∧ ∀ key ∈ takenKeys cfg s actions, key ∉ s.idempotencyKeys := by
  induction actions generalizing s with
  | nil => exact ⟨List.nodup_nil, nofun⟩
  | cons a rest ih =>
      unfold takenKeys
      cases taken : step cfg s a with
      | none => exact ⟨List.nodup_nil, nofun⟩
      | some t =>
          obtain ⟨unique, fresh⟩ := ih t
          have older : ∀ key ∈ takenKeys cfg t rest, key ∉ s.idempotencyKeys :=
            fun key among held => fresh key among (keys_step taken held)
          dsimp only
          split
          · next job handler sink =>
              split
              · next own =>
                  obtain ⟨new, kept⟩ := enqueue_taken own
                  rw [← idle_of_enqueue taken] at kept
                  refine ⟨List.nodup_cons.mpr ⟨fun again => fresh _ again kept, unique⟩, ?_⟩
                  intro key among
                  rcases List.mem_cons.mp among with rfl | later
                  · exact new
                  · exact older key later
              · exact ⟨unique, older⟩
          · exact ⟨unique, older⟩

/-! Runs that a raising sink leaves RUNNING. -/

theorem orphaned_same (statuses : t.statuses = s.statuses)
    (executed : ∀ runId, Executed s.pool runId → Executed t.pool runId) (runId : UUID)
    (orphaned : Orphaned t runId) : Orphaned s runId := by
  obtain ⟨running, idle⟩ := orphaned
  rw [statuses] at running
  exact ⟨running, fun busy => idle (executed runId busy)⟩

theorem orphaned_stored {own : UUID} {status : AgentRunStatus}
    (stored : t.statuses = s.statuses.set own status)
    (other : status ≠ .running)
    (executed : ∀ runId ≠ own, Executed s.pool runId → Executed t.pool runId)
    (runId : UUID) (orphaned : Orphaned t runId) : Orphaned s runId := by
  obtain ⟨running, idle⟩ := orphaned
  rw [stored, Dict.get_set] at running
  split at running
  · exact absurd (Option.some.inj running) other
  · next apart => exact ⟨running, fun busy => idle (executed runId (Ne.symm apart) busy)⟩

theorem enqueue_statuses (job : AgentRunJob) (handler : RunHandler) :
    (enqueue cfg sink job handler s).2.statuses = s.statuses ∨
      (enqueue cfg sink job handler s).2.statuses = s.statuses.set job.runId .queued := by
  unfold enqueue
  dsimp only
  split
  · exact Or.inl rfl
  · split
    · exact Or.inl rfl
    · split
      · split
        · exact Or.inr rfl
        · exact Or.inr rfl
      · exact Or.inl rfl

theorem cancel_statuses (runId : UUID) :
    (cancel cfg sink runId s).2.statuses = s.statuses ∨
      (cancel cfg sink runId s).2.statuses = s.statuses.set runId .cancelled := by
  unfold cancel
  dsimp only
  split
  · split
    · exact Or.inl rfl
    · split
      · split
        · exact Or.inr rfl
        · split
          · exact Or.inr rfl
          · exact Or.inr rfl
      · exact Or.inl rfl
  · exact Or.inl rfl

theorem settle_statuses (i : Nat) (call : RecoverCall) (runId : UUID) (job : AgentRunJob) :
    ∃ status, status ≠ .running ∧
      (settle cfg sink i call runId job s).statuses = s.statuses.set runId status := by
  unfold settle
  dsimp only
  split
  · refine ⟨.retrying, by simp, ?_⟩
    split
    · rfl
    · split
      · rfl
      · split <;> rfl
  · refine ⟨.failed, by simp, ?_⟩
    split <;> rfl

theorem recoverScan_statuses (i : Nat) (call : RecoverCall) :
    (recoverScan cfg sink i call s).statuses = s.statuses ∨ ∃ runId status, status ≠ .running ∧
      (recoverScan cfg sink i call s).statuses = s.statuses.set runId status := by
  unfold recoverScan
  split
  · exact Or.inl rfl
  · next runId status rest front =>
      dsimp only
      split
      · exact Or.inl rfl
      · split
        · exact Or.inl rfl
        · split
          · exact Or.inl rfl
          · split
            · exact Or.inl rfl
            · obtain ⟨status, other, stored⟩ := @settle_statuses cfg sink
                { s with recoveryRequested := insert runId s.recoveryRequested } i
                { call with snapshot := rest } runId _
              exact Or.inr ⟨runId, status, other, stored⟩

theorem concludeExecute_statuses (w : Nat) (item : WorkItem) (result : HandlerOutcome) :
    (∃ status, status ≠ .running ∧
        (concludeExecute cfg sink w item result s).statuses =
          s.statuses.set item.job.runId status) ∨
      concludeExecute cfg accepts w item result s = concludeExecute cfg sink w item result s := by
  have outcome (status : AgentRunStatus) (other : status ≠ .running) :
      ∃ stored, stored ≠ .running ∧
        (recordOutcome cfg sink w item.job status s).statuses =
          s.statuses.set item.job.runId stored := by
    refine ⟨status, other, ?_⟩
    unfold recordOutcome
    dsimp only
    split <;> rfl
  have retry (remaining : item.job.attempt < item.job.maxAttempts) :
      ∃ status, status ≠ .running ∧
        (retryExecute cfg sink w item remaining s).statuses =
          s.statuses.set item.job.runId status := by
    refine ⟨.retrying, by simp, ?_⟩
    unfold retryExecute
    dsimp only
    split
    · rfl
    · split <;> rfl
  unfold concludeExecute
  dsimp only
  cases result with
  | cancelled =>
      dsimp only
      split
      · exact Or.inr rfl
      · split
        · exact Or.inl (outcome .cancelled (by simp))
        · exact Or.inr rfl
  | retryable =>
      dsimp only
      split
      · exact Or.inl (outcome .cancelled (by simp))
      · split
        · next remaining => exact Or.inl (retry remaining)
        · exact Or.inl (outcome .failed (by simp))
  | timeoutError | exception =>
      dsimp only
      exact Or.inl (outcome .failed (by simp))
  | returned =>
      dsimp only
      refine Or.inl (outcome _ ?_)
      split <;> simp

theorem executed_idle {w : Nat} {runId : UUID} (found : s.pool[w]? = some ⟨.getting, false⟩)
    (next : WorkerPc)
    (executed : Executed s.pool runId) : Executed (s.pool.set w ⟨next, false⟩) runId :=
  executed_set executed found nofun next false

theorem executed_ended {w : Nat} {runId : UUID} (found : s.pool[w]? = some ⟨.getting, false⟩)
    (executed : Executed (s.pool.set w ⟨.done, false⟩) runId) : Executed s.pool runId := by
  obtain ⟨v, wait, waits, own⟩ := executed
  have elsewhere : ∀ wait, WorkerPc.done ≠ .awaiting wait := nofun
  rw [pcAt_set found, awaiting_update elsewhere] at waits
  exact ⟨v, wait, waits.2, own⟩

theorem accepts_raises (job : AgentRunJob) (status : AgentRunStatus) :
    auditRaises cfg accepts job status = false :=
  Bool.and_false _

theorem workerGet_passed {w : Nat} {raises : Bool}
    (passed : ∀ item, Starts s w item → auditRaises cfg sink item.job .running = false) :
    workerGet cfg accepts raises w s = workerGet cfg sink raises w s := by
  unfold workerGet
  split
  · next item rest found front =>
      dsimp only
      split
      · rfl
      next wanted =>
        split
        · rfl
        · next open_ =>
            have free : s.taskLocks.get item.job.taskId ≠ some true := fun locked =>
              open_ ((sameLocks_setDefault s.taskLocks item.job.taskId item.job.taskId).mpr locked)
            unfold beginExecute
            dsimp only
            split
            · rfl
            · next flag present =>
                have first : s.queue.head? = some item := by rw [front, List.head?_cons]
                have event : s.cancelEvents.get item.job.runId ≠ none := by
                  rw [present]
                  exact Option.some_ne_none flag
                rw [passed item ⟨found, first, wanted, free, event⟩, accepts_raises]
  · rfl

theorem workerGet_started {w : Nat} {raises : Bool} {item : WorkItem} (starts : Starts s w item)
    (taken : workerGet cfg sink raises w s = some t) :
    t.statuses = s.statuses.set item.job.runId .running ∧
      if auditRaises cfg sink item.job .running = true then
        t.events = s.events ∧ t.pool = s.pool.set w ⟨.done, false⟩
      else t.events = (s.record cfg item.job .running).events := by
  obtain ⟨idle, front, wanted, free, event⟩ := starts
  obtain ⟨rest, queue⟩ := List.head?_eq_some_iff.mp front
  obtain ⟨flag, present⟩ := Option.ne_none_iff_exists'.mp event
  have open_ : (s.taskLocks.setDefault item.job.taskId false).get item.job.taskId ≠ some true :=
    fun locked =>
      free ((sameLocks_setDefault s.taskLocks item.job.taskId item.job.taskId).mp locked)
  simp only [workerGet, idle, queue, if_neg wanted, if_neg open_, Option.some.injEq] at taken
  subst taken
  unfold beginExecute
  simp only [present]
  split
  · exact ⟨rfl, rfl, rfl⟩
  · split
    · exact ⟨rfl, rfl⟩
    · exact ⟨rfl, rfl⟩

theorem workerResume_orphans {w : Nat} (taken : workerResume cfg sink w s = some t)
    (differs : workerResume cfg accepts w s ≠ some t) (runId : UUID) (orphaned : Orphaned t runId) :
    Orphaned s runId := by
  unfold workerResume at taken differs
  split at taken
  · next wait flagged found =>
      obtain ⟨outcome, ended, rfl⟩ := Option.map_eq_some_iff.mp taken
      rcases @concludeExecute_statuses cfg sink s w wait.item (wait.result outcome) with
        ⟨status, other, stored⟩ | same
      · obtain ⟨pc, moved, _⟩ := @concludeExecute_pc cfg sink s w wait.item (wait.result outcome)
        refine orphaned_stored stored other ?_ runId orphaned
        intro elsewhere apart executed
        rw [moved]
        refine executed_set executed found ?_ pc false
        intro own holds
        obtain rfl := WorkerPc.awaiting.inj holds
        exact Ne.symm apart
      · simp only [found, ended, Option.map_some, same] at differs
        exact absurd rfl differs
  · cases taken

theorem recoverResume_statuses {i : Nat} (taken : recoverResume cfg sink i s = some t) :
    t.pool = s.pool ∧ ∃ runId status, status ≠ .running ∧
    t.statuses = s.statuses.set runId status := by
  unfold recoverResume at taken
  split at taken
  · next call found =>
      split at taken
      · next runId job task waiting =>
          split at taken
          · obtain rfl := Option.some.inj taken
            obtain ⟨status, other, stored⟩ := @settle_statuses cfg sink s i call runId job
            exact ⟨settle_pool i call runId job, runId, status, other, stored⟩
          · cases taken
      · cases taken
  · cases taken

theorem failing_orphans {a : Action} (taken : step cfg s a = some t) (fails : SinkFails cfg s a)
    (other : ∀ w sink raises, a ≠ .workerGet w sink raises) (runId : UUID)
    (orphaned : Orphaned t runId) : Orphaned s runId := by
  cases a with
  | start | stop | stopReturn | heartbeat | tick | workerReput | workerWake | workerRetryPut
  | workerTimeout
  | workerCancel | workerCancelled | handlerFinish | recoverStart | recoverPut =>
      exact absurd rfl fails
  | workerGet w sink raises => exact absurd rfl (other w sink raises)
  | enqueue job handler sink =>
      obtain rfl := idle_of_enqueue taken
      have executed : ∀ runId, Executed s.pool runId →
          Executed (enqueue cfg sink job handler s).2.pool runId := by
        rw [enqueue_pool]
        exact fun _ busy => busy
      rcases @enqueue_statuses cfg sink s job handler with same | stored
      · exact orphaned_same same executed runId orphaned
      · exact orphaned_stored stored nofun (fun runId _ => executed runId) runId orphaned
  | cancel key sink =>
      obtain ⟨_, moved⟩ := step_idle taken nofun
      obtain rfl := Option.some.inj moved
      have executed : ∀ runId, Executed s.pool runId →
          Executed (cancel cfg sink key s).2.pool runId := by
        rw [cancel_pool]
        exact fun _ busy => busy
      rcases @cancel_statuses cfg sink s key with same | stored
      · exact orphaned_same same executed runId orphaned
      · exact orphaned_stored stored nofun (fun runId _ => executed runId) runId orphaned
  | workerResume w sink =>
      obtain ⟨idle, moved⟩ := step_idle taken nofun
      refine workerResume_orphans moved ?_ runId orphaned
      intro same
      apply fails
      rw [taken]
      exact (step_resting idle).trans same
  | recoverScan sink =>
      obtain ⟨i, call, _, _, _, rfl⟩ := step_scanning taken
      have executed :
          ∀ runId, Executed s.pool runId → Executed (recoverScan cfg sink i call s).pool runId := by
        rw [recoverScan_pool]
        exact fun _ busy => busy
      rcases @recoverScan_statuses cfg sink s i call with same | ⟨key, status, other, stored⟩
      · exact orphaned_same same executed runId orphaned
      · exact orphaned_stored stored other (fun runId _ => executed runId) runId orphaned
  | recoverResume i sink =>
      obtain ⟨_, moved⟩ := step_idle taken nofun
      obtain ⟨pool, key, status, other, stored⟩ := recoverResume_statuses moved
      exact orphaned_stored stored other (by rw [pool]; exact fun _ _ busy => busy) runId orphaned

theorem enqueue_raised {job : AgentRunJob} {handler : RunHandler}
    (raised : (enqueue cfg sink job handler s).1.raised = true) :
    (enqueue cfg sink job handler s).2 = s ↔
    (s.stopping = false → job.idempotencyKey ∉ s.idempotencyKeys →
      s.queue.length < cfg.maxSize → auditRaises cfg sink job .queued = false) := by
  unfold enqueue at raised ⊢
  dsimp only at raised ⊢
  by_cases stopping : s.stopping = true
  · rw [if_pos stopping, stopping]
    exact iff_of_true rfl (by simp)
  rw [if_neg stopping] at raised ⊢
  by_cases known : job.idempotencyKey ∈ s.idempotencyKeys
  · rw [if_pos known] at raised
    cases raised
  rw [if_neg known] at raised ⊢
  by_cases room : s.queue.length < cfg.maxSize
  · rw [if_pos room] at raised ⊢
    cases refused : auditRaises cfg sink job .queued with
    | false =>
        rw [refused] at raised
        cases raised
    | true =>
        refine iff_of_false ?_ fun noted => ?_
        · intro same
          have longer := congrArg (fun u : QueueState => u.queue.length) same
          simp [QueueState.push] at longer
        · cases noted (Bool.not_eq_true _ ▸ stopping) known room
  · rw [if_neg room]
    exact iff_of_true rfl fun _ _ more => absurd more room

theorem enqueue_unraised {job : AgentRunJob} {handler : RunHandler}
    (returned : (enqueue cfg sink job handler s).1.raised = false) :
    s.stopping = false → job.idempotencyKey ∉ s.idempotencyKeys →
      s.queue.length < cfg.maxSize → auditRaises cfg sink job .queued = false := by
  intro running fresh room
  unfold enqueue at returned
  dsimp only at returned
  rw [if_neg (by rw [running]; exact Bool.false_ne_true), if_neg fresh, if_pos room] at returned
  cases refused : auditRaises cfg sink job .queued with
  | false => rfl
  | true =>
      rw [refused] at returned
      cases returned

theorem start_refused {w : Nat} {raises : Bool} {item : WorkItem} (idle : s.scanning = none)
    (moved : workerGet cfg sink raises w s = some t) (starts : Starts s w item)
    (refused : auditRaises cfg sink item.job .running = true) :
    Clean cfg s (.workerGet w sink raises) t ↔ Noted cfg s (.workerGet w sink raises) := by
  obtain ⟨statuses, after⟩ := workerGet_started starts moved
  rw [if_pos refused] at after
  obtain ⟨events, pool⟩ := after
  have still (runId : UUID) : Executed t.pool runId ↔ Executed s.pool runId := by
    rw [pool]
    exact ⟨executed_ended starts.idle, executed_idle starts.idle .done⟩
  have fails : SinkFails cfg s (.workerGet w sink raises) := by
    intro equal
    rw [step_resting idle, step_resting idle] at equal
    have logged := (workerGet_started starts (equal.trans moved)).2
    rw [if_neg (by rw [accepts_raises]; exact Bool.false_ne_true), events] at logged
    have present : cfg.auditSink = true := (Bool.and_eq_true_iff.mp refused).1
    have longer := congrArg List.length logged
    simp [QueueState.record, present] at longer
  constructor
  · intro clean other begun quiet alone
    obtain rfl : other = item := Option.some.inj (begun.front.symm.trans starts.front)
    have orphaned : Orphaned t other.job.runId := by
      refine ⟨?_, fun busy => alone ((still _).mp busy)⟩
      rw [statuses, Dict.get_set_self]
    exact absurd (clean.runs fails _ orphaned).1 quiet
  · intro noted
    refine ⟨by simp, fun _ runId orphaned => ?_⟩
    obtain ⟨running, alone⟩ := orphaned
    rw [still] at alone
    by_cases own : item.job.runId = runId
    · subst own
      refine ⟨?_, alone⟩
      by_contra quiet
      have passed := noted item starts quiet alone
      rw [refused] at passed
      cases passed
    · rw [statuses, Dict.get_set_other _ _ _ _ own] at running
      exact ⟨running, alone⟩

theorem start_passed {w : Nat} {raises : Bool} (idle : s.scanning = none)
    (passed : ∀ item, Starts s w item → auditRaises cfg sink item.job .running = false) :
    Clean cfg s (.workerGet w sink raises) t ↔ Noted cfg s (.workerGet w sink raises) := by
  have same : ¬ SinkFails cfg s (.workerGet w sink raises) := by
    refine not_not.mpr ?_
    rw [step_resting idle, step_resting idle]
    exact workerGet_passed passed
  refine iff_of_true ⟨by simp, fun fails => absurd fails same⟩ ?_
  exact fun item starts _ _ => passed item starts

/-- A step is clean exactly when the sink lets the QUEUED and the RUNNING event pass. -/
theorem clean_iff {a : Action} (taken : step cfg s a = some t) :
    Clean cfg s a t ↔ Noted cfg s a := by
  cases a with
  | enqueue job handler sink =>
      have after := idle_of_enqueue taken
      have runs := fun fails => failing_orphans taken fails nofun
      cases raised : (enqueue cfg sink job handler s).1.raised with
      | false =>
          refine iff_of_true ⟨?_, runs⟩ (enqueue_unraised raised)
          intro other otherHandler otherSink same told
          obtain ⟨rfl, rfl, rfl⟩ := Action.enqueue.inj same
          exact absurd (told.symm.trans raised) nofun
      | true =>
          refine Iff.trans ?_ (enqueue_raised raised)
          rw [← after]
          refine ⟨fun clean => clean.calls job handler sink rfl raised, fun same => ⟨?_, runs⟩⟩
          exact fun _ _ _ _ _ => same
  | workerGet w sink raises =>
      obtain ⟨idle, moved⟩ := step_idle taken nofun
      by_cases refused : ∃ item, Starts s w item ∧ auditRaises cfg sink item.job .running = true
      · obtain ⟨item, starts, raised⟩ := refused
        exact start_refused idle moved starts raised
      · refine start_passed idle fun item starts => ?_
        exact Bool.eq_false_iff.mpr fun raised => refused ⟨item, starts, raised⟩
  | start | stop | stopReturn | cancel | heartbeat | tick | workerReput | workerWake | workerResume
  | workerRetryPut
  | workerTimeout | workerCancel | workerCancelled | handlerFinish | recoverStart | recoverScan
  | recoverResume
  | recoverPut => exact iff_of_true ⟨nofun, fun fails => failing_orphans taken fails nofun⟩ trivial

/-- In every run each idempotency key is taken by one call at most; and its steps are all clean
exactly when the audit sink lets the QUEUED event of each queued job and the RUNNING event of each
started run pass. -/
theorem enqueue_atomic (cfg : Config) (actions : List Action) :
    (takenKeys cfg initial actions).Nodup ∧
    (Along (step cfg) (Clean cfg) initial actions ↔
      Along (step cfg) (fun s a _ => Noted cfg s a) initial actions) :=
  ⟨(takenKeys_unique actions initial).1,
    along_congr (fun s a t taken => @clean_iff cfg s t a taken) initial actions⟩

def refuses : Sink := fun _ => true

/-- The call raised, but its job is queued and run, and its key is taken; and a run is RUNNING
although its worker has ended without starting a handler. -/
theorem enqueue_torn :
    (∃ s, execute (step sampleQueue) (fun _ _ => true) initial
        [.start, .enqueue (sampleJob 1 (by decide)) 0 refuses, .workerGet 0 accepts] = some s ∧
      s.tasks = [⟨sampleJob 1 (by decide), 0, none, false⟩] ∧
      (enqueue sampleQueue accepts (sampleJob 1 (by decide)) 0 s).1 = .duplicate) ∧
    (∃ s, execute (step sampleQueue) (fun _ _ => true) initial
        [.start, .enqueue (sampleJob 1 (by decide)) 0 accepts, .workerGet 0 refuses] = some s ∧
      s.statuses.get 0 = some .running ∧ s.tasks = [] ∧ s.pool = [⟨.done, false⟩]) ∧
    ¬ Along (step sampleQueue) (Clean sampleQueue) initial
        [.start, .enqueue (sampleJob 1 (by decide)) 0 refuses] := by
  refine ⟨?_, ?_, ?_⟩
  · obtain ⟨s, reached, observed⟩ := Option.map_eq_some_iff.mp
      (show (execute (step sampleQueue) (fun _ _ => true) initial
          [.start, .enqueue (sampleJob 1 (by decide)) 0 refuses, .workerGet 0 accepts]).map
          (fun s => (s.tasks, (enqueue sampleQueue accepts (sampleJob 1 (by decide)) 0 s).1)) =
        some ([⟨sampleJob 1 (by decide), 0, none, false⟩], .duplicate) by decide)
    obtain ⟨tasks, reply⟩ := Prod.mk.inj observed
    exact ⟨s, reached, tasks, reply⟩
  · obtain ⟨s, reached, observed⟩ := Option.map_eq_some_iff.mp
      (show (execute (step sampleQueue) (fun _ _ => true) initial
          [.start, .enqueue (sampleJob 1 (by decide)) 0 accepts, .workerGet 0 refuses]).map
          (fun s => (s.statuses.get 0, s.tasks, s.pool)) = some (some .running, [],
            [⟨.done, false⟩]) by
        decide)
    obtain ⟨running, rest⟩ := Prod.mk.inj observed
    obtain ⟨tasks, pool⟩ := Prod.mk.inj rest
    exact ⟨s, reached, running, tasks, pool⟩
  · intro along
    have clean := ((along _ rfl).2 _ rfl).1
    have same := clean.calls _ _ _ rfl (by decide)
    exact absurd (congrArg (fun u : QueueState => u.queue.length) same) (by decide)

end SynapseOS.Queue
