import SynapseOS.Queue.InMemory

/-! What one step of the event loop can do to the queue, said once. Every invariant is
derived from these effects and never unfolds the step function again. -/

namespace SynapseOS.Queue

open Relation

inductive Label
  | quiet
  | submit (job : AgentRunJob)
  | resume (item : WorkItem) (result : HandlerOutcome)
  | settle (runId : UUID) (job : AgentRunJob)
  deriving DecidableEq

def settling (s : QueueState) (call : RecoverCall) : Option (UUID × AgentRunJob) :=
  match call.pc, call.snapshot with
  | .gathering runId job _, _ => some (runId, job)
  | .scanning, (runId, .running) :: _ =>
    match s.jobs.get runId, s.handlerTasks.get runId with
    | some job, none => if heartbeatFresh s call.now runId job then none else some (runId, job)
    | _, _ => none
  | _, _ => none

def settleLabel (s : QueueState) (call : Option RecoverCall) : Label :=
  match call.bind (settling s) with
  | some (runId, job) => .settle runId job
  | none => .quiet

def labelOf (s : QueueState) : Action → Label
  | .enqueue job _ _ => if job.idempotencyKey ∈ s.idempotencyKeys then .quiet else .submit job
  | .workerResume w _ =>
    match s.pool[w]? with
    | some ⟨.awaiting wait, _⟩ =>
      match s.tasks[wait.task]?.bind HandlerTask.outcome with
      | some outcome => .resume wait.item (wait.result outcome)
      | none => .quiet
    | _ => .quiet
  | .recoverScan _ => settleLabel s (s.scanning.bind fun i => s.recoveries[i]?)
  | .recoverResume i _ => settleLabel s s.recoveries[i]?
  | _ => .quiet

def Logs (before : List QueueAuditEvent) (event : QueueAuditEvent)
    (after : List QueueAuditEvent) : Prop :=
  after = before ∨ after = before ++ [event]

def SameLocks (before after : Dict UUID Bool) : Prop :=
  ∀ taskId, after.get taskId = some true ↔ before.get taskId = some true

def WorkerPc.interruptible : WorkerPc → Bool
  | .getting | .sleeping | .reputting _ | .retrying _ _ => true
  | .awaiting _ | .done => false

def WorkerPc.idle : WorkerPc → Bool
  | .getting | .sleeping | .done => true
  | .reputting _ | .awaiting _ | .retrying _ _ => false

def RecoverPc.plain : RecoverPc → Bool
  | .scanning | .returned | .raised => true
  | .gathering _ _ _ | .putting _ => false

inductive Effect (cfg : Config) (s : QueueState) : Label → QueueState → Prop
  | environment (clock : ℚ) (heartbeats : Dict UUID ℚ) (started stopping : Bool)
      (stops : List (List Nat)) (workers : List Nat) (scanning : Option Nat) :
      Effect cfg s .quiet { s with clock, heartbeats, started, stopping, stops, workers, scanning }
  | submit (job : AgentRunJob) (handler : RunHandler) (events : List QueueAuditEvent)
      (fresh : job.idempotencyKey ∉ s.idempotencyKeys) (room : s.queue.length < cfg.maxSize)
      (logged : Logs s.events (auditEvent job .queued) events) :
      Effect cfg s (.submit job)
        { s with
          queue := s.queue ++ [⟨job, handler⟩]
          idempotencyKeys := insert job.idempotencyKey s.idempotencyKeys
          statuses := s.statuses.set job.runId .queued
          jobs := s.jobs.set job.runId job
          handlers := s.handlers.set job.runId handler
          cancelEvents := s.cancelEvents.set job.runId false
          events }
  | withdraw (runId : UUID) (events : List QueueAuditEvent)
      (queued : s.statuses.get runId = some .queued)
      (logged : events = s.events ∨ ∃ job, s.jobs.get runId = some job ∧
        events = s.events ++ [auditEvent job .cancelled]) :
      Effect cfg s .quiet
        { s with
          cancelEvents := s.cancelEvents.set runId true
          statuses := s.statuses.set runId .cancelled
          events }
  | flag (runId : UUID) (status : AgentRunStatus)
      (active : s.statuses.get runId = some status) (unfinished : status.terminal = false) :
      Effect cfg s .quiet { s with cancelEvents := s.cancelEvents.set runId true }
  | spawn (count : Nat) (workers : List Nat) :
      Effect cfg s .quiet
        { s with pool := s.pool ++ List.replicate count ⟨.getting, false⟩, workers }
  | interrupt (w : Nat) (pc : WorkerPc) (flagged : Bool) (found : s.pool[w]? = some ⟨pc, flagged⟩)
      (suspended : pc.interruptible = true) :
      Effect cfg s .quiet { s with pool := s.pool.set w ⟨pc, true⟩ }
  | mark (w : Nat) (wait marked : HandlerWait) (flagged : Bool)
      (found : s.pool[w]? = some ⟨.awaiting wait, flagged⟩)
      (same : marked.item = wait.item ∧ marked.task = wait.task) :
      Effect cfg s .quiet (s.setPc w (.awaiting marked))
  | touch (task : Nat) : Effect cfg s .quiet (s.cancelHandler task)
  | skip (w : Nat) (item : WorkItem) (rest : List WorkItem)
      (found : s.pool[w]? = some ⟨.getting, false⟩) (front : s.queue = item :: rest)
      (withdrawn : s.statuses.get item.job.runId = some .cancelled) :
      Effect cfg s .quiet { s with queue := rest }
  | contend (w : Nat) (item : WorkItem) (rest : List WorkItem) (locks : Dict UUID Bool)
      (found : s.pool[w]? = some ⟨.getting, false⟩) (front : s.queue = item :: rest)
      (same : SameLocks s.taskLocks locks) (held : s.taskLocks.get item.job.taskId = some true) :
      Effect cfg s .quiet
        ({ s with queue := rest ++ [item], taskLocks := locks }.setPc w .sleeping)
  | contendFull (w : Nat) (item : WorkItem) (rest : List WorkItem) (locks : Dict UUID Bool)
      (found : s.pool[w]? = some ⟨.getting, false⟩) (front : s.queue = item :: rest)
      (same : SameLocks s.taskLocks locks) (full : ¬ rest.length < cfg.maxSize) :
      Effect cfg s .quiet ({ s with queue := rest, taskLocks := locks }.setPc w (.reputting item))
  | begin (w : Nat) (item : WorkItem) (rest : List WorkItem) (locks : Dict UUID Bool)
      (heartbeats : Dict UUID ℚ) (deadline : ℚ) (events : List QueueAuditEvent)
      (found : s.pool[w]? = some ⟨.getting, false⟩) (front : s.queue = item :: rest)
      (wanted : s.statuses.get item.job.runId ≠ some .cancelled)
      (free : s.taskLocks.get item.job.taskId ≠ some true)
      (taken : ∀ taskId, locks.get taskId = some true ↔
        taskId = item.job.taskId ∨ s.taskLocks.get taskId = some true)
      (logged : Logs s.events (auditEvent item.job .running) events) :
      Effect cfg s .quiet
        ({ s with
          queue := rest
          taskLocks := locks
          statuses := s.statuses.set item.job.runId .running
          heartbeats
          tasks := s.tasks ++ [{ job := item.job, handler := item.handler : HandlerTask }]
          handlerTasks := s.handlerTasks.set item.job.runId s.tasks.length
          events }.setPc w (.awaiting { item, task := s.tasks.length, deadline }))
  | beginFails (w : Nat) (item : WorkItem) (rest : List WorkItem) (locks : Dict UUID Bool)
      (heartbeats : Dict UUID ℚ) (statuses : Dict UUID AgentRunStatus)
      (events : List QueueAuditEvent)
      (found : s.pool[w]? = some ⟨.getting, false⟩) (front : s.queue = item :: rest)
      (wanted : s.statuses.get item.job.runId ≠ some .cancelled)
      (same : SameLocks s.taskLocks locks)
      (status : (statuses = s.statuses ∧ s.cancelEvents.get item.job.runId = none) ∨
        statuses = s.statuses.set item.job.runId .running)
      (free : s.taskLocks.get item.job.taskId ≠ some true)
      (logged : Logs s.events (auditEvent item.job .running) events) :
      Effect cfg s .quiet
        ({ s with queue := rest, taskLocks := locks, statuses, heartbeats, events }.setPc w .done)
  | reput (w : Nat) (item : WorkItem) (found : s.pool[w]? = some ⟨.reputting item, false⟩)
      (room : s.queue.length < cfg.maxSize) :
      Effect cfg s .quiet ((s.push item).setPc w .sleeping)
  | wake (w : Nat) (found : s.pool[w]? = some ⟨.sleeping, false⟩) :
      Effect cfg s .quiet (s.setPc w .getting)
  | outcome (w : Nat) (wait : HandlerWait) (flagged : Bool) (result : HandlerOutcome)
      (status : AgentRunStatus) (events : List QueueAuditEvent) (pc : WorkerPc)
      (found : s.pool[w]? = some ⟨.awaiting wait, flagged⟩)
      (finished : s.pending wait.task = false)
      (ends : status.terminal = true)
      (cancelled : s.cancelEvents.get wait.item.job.runId = some true →
        result ≠ .timeoutError → result ≠ .exception → status = .cancelled)
      (logged : Logs s.events (auditEvent wait.item.job status) events)
      (next : pc = .getting ∨ pc = .done) :
      Effect cfg s (.resume wait.item result)
        ((closeExecute wait.item.job
          { s with statuses := s.statuses.set wait.item.job.runId status, events }).setPc w pc)
  | swallow (w : Nat) (wait : HandlerWait) (flagged : Bool)
      (found : s.pool[w]? = some ⟨.awaiting wait, flagged⟩)
      (finished : s.pending wait.task = false)
      (requested : wait.item.job.runId ∈ s.recoveryRequested) :
      Effect cfg s (.resume wait.item .cancelled)
        ((closeExecute wait.item.job
          { s with recoveryRequested := s.recoveryRequested.erase wait.item.job.runId }).setPc w
            .getting)
  | crash (w : Nat) (wait : HandlerWait) (flagged : Bool)
      (found : s.pool[w]? = some ⟨.awaiting wait, flagged⟩)
      (finished : s.pending wait.task = false)
      (unflagged : s.cancelEvents.get wait.item.job.runId ≠ some true) :
      Effect cfg s (.resume wait.item .cancelled)
        ((closeExecute wait.item.job s).setPc w .done)
  | retry (w : Nat) (wait : HandlerWait) (flagged : Bool) (events : List QueueAuditEvent)
      (remaining : wait.item.job.attempt < wait.item.job.maxAttempts)
      (found : s.pool[w]? = some ⟨.awaiting wait, flagged⟩)
      (finished : s.pending wait.task = false)
      (unflagged : s.cancelEvents.get wait.item.job.runId ≠ some true)
      (room : s.queue.length < cfg.maxSize)
      (logged : Logs s.events (auditEvent wait.item.job .retrying) events) :
      Effect cfg s (.resume wait.item .retryable)
        ((closeExecute wait.item.job
          { s with
            statuses := s.statuses.set wait.item.job.runId .retrying
            queue := s.queue ++ [⟨wait.item.job.retry remaining, wait.item.handler⟩]
            events }).setPc w .getting)
  | retryBlocked (w : Nat) (wait : HandlerWait) (flagged : Bool) (events : List QueueAuditEvent)
      (remaining : wait.item.job.attempt < wait.item.job.maxAttempts)
      (found : s.pool[w]? = some ⟨.awaiting wait, flagged⟩)
      (finished : s.pending wait.task = false)
      (unflagged : s.cancelEvents.get wait.item.job.runId ≠ some true)
      (full : ¬ s.queue.length < cfg.maxSize)
      (logged : Logs s.events (auditEvent wait.item.job .retrying) events) :
      Effect cfg s (.resume wait.item .retryable)
        ({ s with statuses := s.statuses.set wait.item.job.runId .retrying, events }.setPc w
          (.retrying wait.item ⟨wait.item.job.retry remaining, wait.item.handler⟩))
  | retryLost (w : Nat) (wait : HandlerWait) (flagged : Bool)
      (remaining : wait.item.job.attempt < wait.item.job.maxAttempts)
      (found : s.pool[w]? = some ⟨.awaiting wait, flagged⟩)
      (finished : s.pending wait.task = false)
      (unflagged : s.cancelEvents.get wait.item.job.runId ≠ some true) :
      Effect cfg s (.resume wait.item .retryable)
        ((closeExecute wait.item.job
          { s with statuses := s.statuses.set wait.item.job.runId .retrying }).setPc w .done)
  | retryPut (w : Nat) (item retry : WorkItem)
      (found : s.pool[w]? = some ⟨.retrying item retry, false⟩)
      (room : s.queue.length < cfg.maxSize) :
      Effect cfg s .quiet ((closeExecute item.job (s.push retry)).setPc w .getting)
  | dropRetry (w : Nat) (item retry : WorkItem)
      (found : s.pool[w]? = some ⟨.retrying item retry, true⟩) :
      Effect cfg s .quiet ((closeExecute item.job s).setPc w .done)
  | die (w : Nat) (pc : WorkerPc) (found : s.pool[w]? = some ⟨pc, true⟩)
      (suspended : pc = .getting ∨ pc = .sleeping ∨ ∃ item, pc = .reputting item) :
      Effect cfg s .quiet (s.setPc w .done)
  | finish (task : Nat) (outcome : HandlerOutcome) (active : s.pending task = true) :
      Effect cfg s .quiet
        { s with tasks := s.tasks.modify task fun t => { t with outcome := some outcome } }
  | recover (call : RecoverCall) (scanning : Option Nat) (fresh : call.pc = .scanning)
      (snapshot : call.snapshot = s.statuses.entries) :
      Effect cfg s .quiet { s with recoveries := s.recoveries ++ [call], scanning }
  | advance (i : Nat) (call : RecoverCall) (next : RecoverPc) (recovered : Nat)
      (snapshot : List (UUID × AgentRunStatus)) (scanning : Option Nat)
      (found : s.recoveries[i]? = some call) (plain : call.pc.plain = true)
      (onward : next.plain = true) (suffix : snapshot ⊆ call.snapshot) :
      Effect cfg s .quiet
        { s with
          recoveries := s.recoveries.set i ⟨call.now, snapshot, recovered, next⟩
          scanning }
  | gather (i : Nat) (call : RecoverCall) (runId : UUID) (job : AgentRunJob) (task : Nat)
      (rest : List (UUID × AgentRunStatus)) (scanning : Option Nat)
      (found : s.recoveries[i]? = some call) (plain : call.pc.plain = true)
      (front : call.snapshot = (runId, .running) :: rest)
      (stored : s.jobs.get runId = some job) (current : s.handlerTasks.get runId = some task) :
      Effect cfg s .quiet
        { s with
          recoveryRequested := insert runId s.recoveryRequested
          recoveries := s.recoveries.set i ⟨call.now, rest, call.recovered,
            .gathering runId job task⟩
          scanning }
  | settle (i : Nat) (call : RecoverCall) (runId : UUID) (job : AgentRunJob)
      (recoveryRequested : Finset UUID) (queue : List WorkItem) (status : AgentRunStatus)
      (events : List QueueAuditEvent) (pc : RecoverPc) (snapshot : List (UUID × AgentRunStatus))
      (recovered : Nat) (scanning : Option Nat)
      (found : s.recoveries[i]? = some call)
      (suffix : snapshot ⊆ call.snapshot)
      (source : (s.jobs.get runId = some job ∧ s.handlerTasks.get runId = none ∧
          call.pc = .scanning ∧ (runId, .running) ∈ call.snapshot) ∨
        ∃ task, call.pc = .gathering runId job task ∧ gathered s task = true)
      (logged : Logs s.events (auditEvent job status) events)
      (branch : (∃ (remaining : job.attempt < job.maxAttempts) (handler : RunHandler),
          status = .retrying ∧
          ((queue = s.queue ++ [⟨job.retry remaining, handler⟩] ∧ s.queue.length < cfg.maxSize ∧
              pc = .scanning) ∨
            (queue = s.queue ∧ ¬ s.queue.length < cfg.maxSize ∧
              pc = .putting ⟨job.retry remaining, handler⟩))) ∨
        (job.attempt < job.maxAttempts ∧ status = .retrying ∧ queue = s.queue ∧ pc = .raised) ∨
        (¬ job.attempt < job.maxAttempts ∧ status = .failed ∧ queue = s.queue ∧
          pc.plain = true)) :
      Effect cfg s (.settle runId job)
        { s with
          recoveryRequested
          queue
          statuses := s.statuses.set runId status
          events
          recoveries := s.recoveries.set i ⟨call.now, snapshot, recovered, pc⟩
          scanning }
  | recoverPut (i : Nat) (call : RecoverCall) (item : WorkItem) (recovered : Nat)
      (scanning : Option Nat) (found : s.recoveries[i]? = some call)
      (waiting : call.pc = .putting item) (room : s.queue.length < cfg.maxSize) :
      Effect cfg s .quiet
        { s with
          queue := s.queue ++ [item]
          recoveries := s.recoveries.set i ⟨call.now, call.snapshot, recovered, .scanning⟩
          scanning }

/-- A sequence of effects that no property of runs asks about. -/
abbrev Quiet (cfg : Config) : QueueState → QueueState → Prop :=
  ReflTransGen (fun s t => Effect cfg s .quiet t)

def Label.settles : Label → Bool
  | .settle _ _ => true
  | .quiet | .submit _ | .resume _ _ => false

/-- What a step amounts to: quiet effects, or the one effect its label announces. A step that
is to settle a run does. -/
def Amounts (cfg : Config) (s : QueueState) (label : Label) (t : QueueState) : Prop :=
  Quiet cfg s t ∧ label.settles = false ∨ Effect cfg s label t

theorem amounts_quiet {cfg : Config} {s t : QueueState} {label : Label} (quiet : Quiet cfg s t)
    (other : label.settles = false) : Amounts cfg s label t :=
  Or.inl ⟨quiet, other⟩

theorem record_logs (s : QueueState) (cfg : Config) (job : AgentRunJob) (status : AgentRunStatus) :
    Logs s.events (auditEvent job status) (s.record cfg job status).events := by
  unfold QueueState.record Logs
  by_cases present : cfg.auditSink = true
  · exact Or.inr (if_pos present)
  · exact Or.inl (if_neg present)

theorem logs_refl (events : List QueueAuditEvent) (event : QueueAuditEvent) :
    Logs events event events := Or.inl rfl

/-! Callers. -/

theorem enqueue_amounts (cfg : Config) (sink : Sink) (job : AgentRunJob) (handler : RunHandler)
    (s : QueueState) :
    Amounts cfg s (labelOf s (.enqueue job handler sink)) (enqueue cfg sink job handler s).2 := by
  show Amounts cfg s (if job.idempotencyKey ∈ s.idempotencyKeys then .quiet else .submit job) _
  by_cases stopping : s.stopping = true
  · simp only [enqueue, if_pos stopping]
    refine amounts_quiet .refl ?_
    split <;> rfl
  by_cases duplicate : job.idempotencyKey ∈ s.idempotencyKeys
  · simp only [enqueue, if_neg stopping, if_pos duplicate]
    exact amounts_quiet .refl rfl
  simp only [enqueue, if_neg stopping, if_neg duplicate]
  split
  · next room =>
      split
      · exact Or.inr (.submit job handler s.events duplicate room (logs_refl _ _))
      · exact Or.inr (.submit job handler _ duplicate room (record_logs s cfg job .queued))
  · exact amounts_quiet .refl rfl

theorem cancel_effects (cfg : Config) (sink : Sink) (runId : UUID) (s : QueueState) :
    Quiet cfg s (cancel cfg sink runId s).2 := by
  unfold cancel
  dsimp only
  split
  · next active =>
      split
      · exact .refl
      split
      · next queued =>
          split
          · exact .single (.withdraw runId s.events queued (Or.inl rfl))
          · next job stored =>
              split
              · exact .single (.withdraw runId s.events queued (Or.inl rfl))
              · refine .single (.withdraw runId _ queued ?_)
                rcases record_logs s cfg job .cancelled with same | appended
                · exact Or.inl same
                · exact Or.inr ⟨job, stored, appended⟩
      · next notQueued =>
          rcases active with queued | running | retrying
          · exact absurd queued notQueued
          · exact .single (.flag runId .running running rfl)
          · exact .single (.flag runId .retrying retrying rfl)
  · exact .refl

theorem heartbeat_effects (cfg : Config) (runId : UUID) (s : QueueState) :
    Quiet cfg s (heartbeat runId s).2 := by
  unfold heartbeat
  split
  · exact .single (.environment s.clock _ s.started s.stopping s.stops s.workers s.scanning)
  · exact .refl

theorem start_effects (cfg : Config) (s : QueueState) : Quiet cfg s (start cfg s) := by
  unfold start
  split
  · exact .refl
  · refine .tail (.single (.environment s.clock s.heartbeats true false s.stops [] s.scanning)) ?_
    exact .spawn cfg.workerCount _

theorem cancelWorker_effects (cfg : Config) (w : Nat) (s : QueueState) :
    Quiet cfg s (cancelWorker w s) := by
  unfold cancelWorker
  split
  · next wait flagged found =>
      split
      · have marked := @Effect.mark cfg s w wait { wait with cancelled := true } flagged found
          ⟨rfl, rfl⟩
        exact .tail (.single marked) (.touch wait.task)
      · exact .single (.mark w wait _ flagged found ⟨rfl, rfl⟩)
  · exact .refl
  · next pc flagged waiting finished found =>
      refine .single (.interrupt w pc flagged found ?_)
      cases pc with
      | getting | sleeping | reputting item | retrying item retry => rfl
      | awaiting wait => exact (waiting wait rfl).elim
      | done => exact (finished rfl).elim
  · exact .refl

theorem cancelWorkers_effects (cfg : Config) (workers : List Nat) (s : QueueState) :
    Quiet cfg s (workers.foldl (fun s w => cancelWorker w s) s) := by
  induction workers generalizing s with
  | nil => exact .refl
  | cons w rest ih => exact (cancelWorker_effects cfg w s).trans (ih _)

theorem stop_effects (cfg : Config) (s : QueueState) : Quiet cfg s (stop s) := by
  unfold stop
  have closing : Quiet cfg s { s with stopping := true } :=
    .single (.environment s.clock s.heartbeats s.started true s.stops s.workers s.scanning)
  refine (closing.trans (cancelWorkers_effects cfg s.workers _)).trans ?_
  generalize s.workers.foldl (fun s w => cancelWorker w s) { s with stopping := true } = u
  dsimp only
  split
  · exact .single (.environment u.clock u.heartbeats false u.stopping u.stops u.workers u.scanning)
  · exact .single (.environment u.clock u.heartbeats u.started u.stopping _ u.workers u.scanning)

theorem stopReturn_effects (cfg : Config) (i : Nat) (s t : QueueState)
    (taken : stopReturn i s = some t) : Quiet cfg s t := by
  unfold stopReturn at taken
  obtain ⟨gathered, _, rest⟩ := Option.bind_eq_some_iff.mp taken
  split at rest
  · obtain rfl := Option.some.inj rest
    exact .single (.environment s.clock s.heartbeats false s.stopping _ [] s.scanning)
  · cases rest

/-! Workers. -/

theorem sameLocks_setDefault (locks : Dict UUID Bool) (taskId : UUID) :
    SameLocks locks (locks.setDefault taskId false) := by
  intro other
  rw [Dict.get_setDefault]
  by_cases same : taskId = other
  · subst same
    cases locks.get taskId <;> simp
  · simp only [if_neg same]

theorem sameLocks_cycle (locks before : Dict UUID Bool) (taskId : UUID)
    (same : SameLocks before locks) (free : locks.get taskId ≠ some true) :
    SameLocks before ((locks.set taskId true).set taskId false) := by
  intro other
  rw [Dict.get_set, Dict.get_set, ← same other]
  by_cases hit : taskId = other
  · subst hit
    simp [free]
  · simp only [if_neg hit]

theorem taken_set (locks before : Dict UUID Bool) (taskId other : UUID)
    (same : SameLocks before locks) :
    (locks.set taskId true).get other = some true ↔
      other = taskId ∨ before.get other = some true := by
  rw [Dict.get_set, ← same other]
  by_cases hit : taskId = other
  · simp [hit]
  · simp [hit, Ne.symm hit]

theorem workerGet_effects (cfg : Config) (sink : Sink) (raises : Bool) (w : Nat) (s t : QueueState)
    (taken : workerGet cfg sink raises w s = some t) : Quiet cfg s t := by
  unfold workerGet at taken
  split at taken
  · next item rest found front =>
      have defaulted := sameLocks_setDefault s.taskLocks item.job.taskId
      dsimp only at taken
      split at taken
      · next withdrawn =>
          obtain rfl := Option.some.inj taken
          exact .single (.skip w item rest found front withdrawn)
      next wanted =>
      split at taken
      · next held =>
          split at taken
          · obtain rfl := Option.some.inj taken
            exact .single (.contend w item rest _ found front defaulted ((defaulted _).mp held))
          · next full =>
              obtain rfl := Option.some.inj taken
              exact .single (.contendFull w item rest _ found front defaulted full)
      · next free =>
          have cycle := sameLocks_cycle _ _ item.job.taskId defaulted free
          have unlocked : s.taskLocks.get item.job.taskId ≠ some true :=
            fun held => free ((defaulted _).mpr held)
          obtain rfl := Option.some.inj taken
          unfold beginExecute
          dsimp only
          split
          · next missing =>
              exact .single (.beginFails w item rest _ s.heartbeats s.statuses s.events found front
                wanted cycle (Or.inl ⟨rfl, missing⟩) unlocked (logs_refl _ _))
          · split
            · exact .single (.beginFails w item rest _ _ _ s.events found front wanted cycle
                (Or.inr rfl) unlocked (logs_refl _ _))
            · split
              · exact .single (.beginFails w item rest _ _ _ _ found front wanted cycle
                  (Or.inr rfl) unlocked (record_logs s cfg item.job .running))
              · refine .single (.begin w item rest _ _ _ _ found front wanted unlocked ?_ ?_)
                · exact fun other => taken_set _ _ _ other defaulted
                · exact record_logs s cfg item.job .running
  · cases taken

theorem workerReput_effects (cfg : Config) (w : Nat) (s t : QueueState)
    (taken : workerReput cfg w s = some t) : Quiet cfg s t := by
  unfold workerReput at taken
  split at taken
  · next item found =>
      split at taken
      · next room =>
          obtain rfl := Option.some.inj taken
          exact .single (.reput w item found room)
      · cases taken
  · cases taken

theorem workerWake_effects (cfg : Config) (w : Nat) (s t : QueueState)
    (taken : workerWake w s = some t) : Quiet cfg s t := by
  unfold workerWake at taken
  split at taken
  · next found =>
      obtain rfl := Option.some.inj taken
      exact .single (.wake w found)
  · cases taken

section Resume

variable (cfg : Config) (sink : Sink) (w : Nat) (wait : HandlerWait) (flagged : Bool)
  (s : QueueState) (found : s.pool[w]? = some ⟨.awaiting wait, flagged⟩)
  (finished : s.pending wait.task = false)

include found finished

theorem recordOutcome_effect (status : AgentRunStatus) (result : HandlerOutcome)
    (ends : status.terminal = true)
    (cancelled : s.cancelEvents.get wait.item.job.runId = some true →
      result ≠ .timeoutError → result ≠ .exception → status = .cancelled) :
    Effect cfg s (.resume wait.item result) (recordOutcome cfg sink w wait.item.job status s) := by
  unfold recordOutcome
  dsimp only
  split
  · exact .outcome w wait flagged result status s.events .done found finished ends cancelled
      (logs_refl _ _) (Or.inr rfl)
  · exact .outcome w wait flagged result status _ .getting found finished ends cancelled
      (record_logs s cfg wait.item.job status) (Or.inl rfl)

theorem retryExecute_effect (remaining : wait.item.job.attempt < wait.item.job.maxAttempts)
    (unflagged : s.cancelEvents.get wait.item.job.runId ≠ some true) :
    Effect cfg s (.resume wait.item .retryable)
      (retryExecute cfg sink w wait.item remaining s) := by
  unfold retryExecute
  dsimp only
  split
  · exact .retryLost w wait flagged remaining found finished unflagged
  · split
    · next room =>
        exact .retry w wait flagged _ remaining found finished unflagged room
          (record_logs s cfg wait.item.job .retrying)
    · next full =>
        exact .retryBlocked w wait flagged _ remaining found finished unflagged full
          (record_logs s cfg wait.item.job .retrying)

theorem concludeExecute_effect (result : HandlerOutcome) :
    Effect cfg s (.resume wait.item result)
      (concludeExecute cfg sink w wait.item result s) := by
  have outcome := recordOutcome_effect cfg sink w wait flagged s found finished
  unfold concludeExecute
  cases result with
  | cancelled =>
      dsimp only
      split
      · next requested => exact .swallow w wait flagged found finished requested
      split
      · exact outcome .cancelled .cancelled rfl (fun _ _ _ => rfl)
      · next unflagged => exact .crash w wait flagged found finished unflagged
  | retryable =>
      dsimp only
      split
      · exact outcome .cancelled .retryable rfl (fun _ _ _ => rfl)
      next unflagged =>
        split
        · next remaining =>
            exact retryExecute_effect cfg sink w wait flagged s found finished remaining unflagged
        · exact outcome .failed .retryable rfl (fun set => absurd set unflagged)
  | timeoutError => exact outcome .failed .timeoutError rfl (fun _ other => absurd rfl other)
  | exception => exact outcome .failed .exception rfl (fun _ _ other => absurd rfl other)
  | returned =>
      dsimp only
      split
      · exact outcome .cancelled .returned rfl (fun _ _ _ => rfl)
      · next unflagged => exact outcome .succeeded .returned rfl (fun set => absurd set unflagged)

end Resume

theorem workerResume_amounts (cfg : Config) (sink : Sink) (w : Nat) (s t : QueueState)
    (taken : workerResume cfg sink w s = some t) :
    Amounts cfg s (labelOf s (.workerResume w sink)) t := by
  unfold workerResume at taken
  split at taken
  · next wait flagged found =>
      obtain ⟨outcome, ended, rfl⟩ := Option.map_eq_some_iff.mp taken
      have finished : s.pending wait.task = false := by
        obtain ⟨task, present, ending⟩ := Option.bind_eq_some_iff.mp ended
        simp [QueueState.pending, live, present, ending]
      have label : labelOf s (.workerResume w sink) =
          .resume wait.item (wait.result outcome) := by
        simp only [labelOf, found, ended]
      rw [label]
      exact Or.inr (concludeExecute_effect cfg sink w wait flagged s found finished _)
  · cases taken

theorem workerRetryPut_effects (cfg : Config) (w : Nat) (s t : QueueState)
    (taken : workerRetryPut cfg w s = some t) : Quiet cfg s t := by
  unfold workerRetryPut at taken
  split at taken
  · next item retry found =>
      split at taken
      · next room =>
          obtain rfl := Option.some.inj taken
          exact .single (.retryPut w item retry found room)
      · cases taken
  · cases taken

theorem workerTimeout_effects (cfg : Config) (w : Nat) (s t : QueueState)
    (taken : workerTimeout w s = some t) : Quiet cfg s t := by
  unfold workerTimeout at taken
  split at taken
  · next wait flagged found =>
      split at taken
      · split at taken
        · obtain rfl := Option.some.inj taken
          have marked := @Effect.mark cfg s w wait { wait with expired := true } flagged found
            ⟨rfl, rfl⟩
          exact .tail (.single marked) (.touch wait.task)
        · obtain rfl := Option.some.inj taken
          exact .single (.mark w wait _ flagged found ⟨rfl, rfl⟩)
      · cases taken
  · cases taken

theorem workerCancelled_effects (cfg : Config) (w : Nat) (s t : QueueState)
    (taken : workerCancelled w s = some t) : Quiet cfg s t := by
  unfold workerCancelled at taken
  split at taken
  · next item retry found =>
      obtain rfl := Option.some.inj taken
      exact .single (.dropRetry w item retry found)
  · next found =>
      obtain rfl := Option.some.inj taken
      exact .single (.die w _ found (Or.inl rfl))
  · next found =>
      obtain rfl := Option.some.inj taken
      exact .single (.die w _ found (Or.inr (Or.inl rfl)))
  · next item found =>
      obtain rfl := Option.some.inj taken
      exact .single (.die w _ found (Or.inr (Or.inr ⟨item, rfl⟩)))
  · cases taken

theorem handlerFinish_effects (cfg : Config) (task : Nat) (outcome : HandlerOutcome)
    (s t : QueueState) (taken : handlerFinish task outcome s = some t) : Quiet cfg s t := by
  unfold handlerFinish at taken
  split at taken
  · next active =>
      obtain rfl := Option.some.inj taken
      exact .single (.finish task outcome active)
  · cases taken

/-! Stale recovery. -/

theorem recoverStart_effects (cfg : Config) (s : QueueState) :
    Quiet cfg s (recoverStart cfg s) := by
  have registered (u : QueueState) : Quiet cfg u
      { u with
        recoveries := u.recoveries ++
          [{ now := u.clock, snapshot := u.statuses.entries : RecoverCall }]
        scanning := some u.recoveries.length } :=
    .single (.recover _ _ rfl rfl)
  have spawned (count : Nat) (workers : List Nat) :
      Quiet cfg s (spawn count { s with workers }) := .single (.spawn count _)
  unfold recoverStart
  dsimp only
  split
  · exact (spawned _ _).trans (registered _)
  · exact registered s

theorem settle_effect (cfg : Config) (sink : Sink) (i : Nat) (call before : RecoverCall)
    (runId : UUID) (job : AgentRunJob) (s : QueueState) (requested : Finset UUID)
    (found : s.recoveries[i]? = some before) (now : call.now = before.now)
    (suffix : call.snapshot ⊆ before.snapshot)
    (source : (s.jobs.get runId = some job ∧ s.handlerTasks.get runId = none ∧
        before.pc = .scanning ∧ (runId, .running) ∈ before.snapshot) ∨
      ∃ task, before.pc = .gathering runId job task ∧ gathered s task = true) :
    Effect cfg s (.settle runId job)
      (settle cfg sink i call runId job { s with recoveryRequested := requested }) := by
  have shape (queue : List WorkItem) (status : AgentRunStatus) (events : List QueueAuditEvent)
      (pc : RecoverPc) (recovered : Nat) (scanning : Option Nat) :=
    @Effect.settle cfg s i before runId job requested queue status events pc call.snapshot
      recovered scanning found suffix source
  rw [← now] at shape
  unfold settle
  dsimp only
  split
  · next remaining =>
      split
      · exact shape s.queue .retrying s.events .raised _ _ (logs_refl _ _)
          (Or.inr (Or.inl ⟨remaining, rfl, rfl, rfl⟩))
      have logged := record_logs s cfg job .retrying
      split
      · exact shape s.queue .retrying _ .raised _ _ logged
          (Or.inr (Or.inl ⟨remaining, rfl, rfl, rfl⟩))
      · next handler stored =>
          split
          · next room =>
              exact shape _ .retrying _ .scanning _ _ logged
                (Or.inl ⟨remaining, handler, rfl, Or.inl ⟨rfl, room, rfl⟩⟩)
          · next full =>
              exact shape s.queue .retrying _ _ _ _ logged
                (Or.inl ⟨remaining, handler, rfl, Or.inr ⟨rfl, full, rfl⟩⟩)
  · next spent =>
      split
      · exact shape s.queue .failed s.events .raised _ _ (logs_refl _ _)
          (Or.inr (Or.inr ⟨spent, rfl, rfl, rfl⟩))
      · exact shape s.queue .failed _ .scanning _ _ (record_logs s cfg job .failed)
          (Or.inr (Or.inr ⟨spent, rfl, rfl, rfl⟩))

theorem recoverScan_amounts (cfg : Config) (sink : Sink) (i : Nat) (call : RecoverCall)
    (s : QueueState) (found : s.recoveries[i]? = some call) (scanning : call.pc = .scanning) :
    Amounts cfg s (settleLabel s (some call)) (recoverScan cfg sink i call s) := by
  have plain : call.pc.plain = true := by rw [scanning]; rfl
  have onward (next : RecoverPc) (rest : List (UUID × AgentRunStatus)) (hold : Option Nat)
      (ok : next.plain = true) (suffix : rest ⊆ call.snapshot) :
      Effect cfg s .quiet
        { s with
          recoveries := s.recoveries.set i ⟨call.now, rest, call.recovered, next⟩
          scanning := hold } :=
    .advance i call next call.recovered rest hold found plain ok suffix
  unfold recoverScan
  split
  · next ended =>
      refine amounts_quiet (.single (onward .returned call.snapshot none rfl (List.Subset.refl _)))
        ?_
      simp [settleLabel, settling, scanning, ended, Label.settles]
  · next runId status rest front =>
      have suffix : rest ⊆ call.snapshot := by rw [front]; exact List.subset_cons_self _ _
      have continued : Quiet cfg s (scanOn i { call with snapshot := rest } s) :=
        .single (onward call.pc rest (some i) plain suffix)
      dsimp only
      split
      · refine amounts_quiet continued ?_
        cases status <;> first | contradiction | simp [settleLabel, settling, scanning, front,
          Label.settles]
      next running =>
        obtain rfl : status = .running := not_not.mp running
        split
        · next absent =>
            refine amounts_quiet (.single (onward .raised rest none rfl suffix)) ?_
            simp [settleLabel, settling, scanning, front, absent, Label.settles]
        next job stored =>
          split
          · next fresh =>
              refine amounts_quiet continued ?_
              cases current : s.handlerTasks.get runId <;>
                simp [settleLabel, settling, scanning, front, stored, current, fresh, Label.settles]
          next stale =>
            split
            · next task current =>
                have gathers := @Effect.gather cfg s i call runId job task rest none found plain
                  front stored current
                refine amounts_quiet (.tail (.single gathers) (.touch task)) ?_
                simp [settleLabel, settling, scanning, front, stored, current, Label.settles]
            · next absent =>
                have label : settleLabel s (some call) = .settle runId job := by
                  simp [settleLabel, settling, scanning, front, stored, absent, stale]
                rw [label]
                refine Or.inr (settle_effect cfg sink i _ call runId job s _ found rfl suffix ?_)
                exact Or.inl ⟨stored, absent, scanning, by rw [front]; exact List.mem_cons_self⟩

theorem recoverResume_amounts (cfg : Config) (sink : Sink) (i : Nat) (s t : QueueState)
    (taken : recoverResume cfg sink i s = some t) :
    Amounts cfg s (labelOf s (.recoverResume i sink)) t := by
  unfold recoverResume at taken
  split at taken
  · next call found =>
      split at taken
      · next runId job task waiting =>
          split at taken
          · next ready =>
              obtain rfl := Option.some.inj taken
              have label : labelOf s (.recoverResume i sink) = .settle runId job := by
                simp [labelOf, settleLabel, settling, found, waiting]
              rw [label]
              exact Or.inr (settle_effect cfg sink i call call runId job s s.recoveryRequested
                found rfl (List.Subset.refl _) (Or.inr ⟨task, waiting, ready⟩))
          · cases taken
      · cases taken
  · cases taken

theorem recoverPut_effects (cfg : Config) (i : Nat) (s t : QueueState)
    (taken : recoverPut cfg i s = some t) : Quiet cfg s t := by
  unfold recoverPut at taken
  split at taken
  · next call found =>
      split at taken
      · next item waiting =>
          split at taken
          · next room =>
              obtain rfl := Option.some.inj taken
              exact .single (.recoverPut i call item _ _ found waiting room)
          · cases taken
      · cases taken
  · cases taken

/-- The inversion lemma of the whole model. -/
theorem step_amounts (cfg : Config) (s t : QueueState) (a : Action)
    (taken : step cfg s a = some t) : Amounts cfg s (labelOf s a) t := by
  unfold step at taken
  split at taken
  · cases a with
    | enqueue job handler sink =>
        obtain rfl := Option.some.inj taken
        exact enqueue_amounts cfg sink job handler s
    | start => exact amounts_quiet (Option.some.inj taken ▸ start_effects cfg s) rfl
    | stop => exact amounts_quiet (Option.some.inj taken ▸ stop_effects cfg s) rfl
    | stopReturn i => exact amounts_quiet (stopReturn_effects cfg i s t taken) rfl
    | cancel runId sink =>
        exact amounts_quiet (Option.some.inj taken ▸ cancel_effects cfg sink runId s) rfl
    | heartbeat runId =>
        exact amounts_quiet (Option.some.inj taken ▸ heartbeat_effects cfg runId s) rfl
    | tick elapsed =>
        simp only [idleStep] at taken
        split at taken
        · obtain rfl := Option.some.inj taken
          exact amounts_quiet (.single (.environment _ s.heartbeats s.started s.stopping s.stops
            s.workers s.scanning)) rfl
        · cases taken
    | workerGet w sink raises =>
        exact amounts_quiet (workerGet_effects cfg sink raises w s t taken) rfl
    | workerReput w => exact amounts_quiet (workerReput_effects cfg w s t taken) rfl
    | workerWake w => exact amounts_quiet (workerWake_effects cfg w s t taken) rfl
    | workerResume w sink => exact workerResume_amounts cfg sink w s t taken
    | workerRetryPut w => exact amounts_quiet (workerRetryPut_effects cfg w s t taken) rfl
    | workerTimeout w => exact amounts_quiet (workerTimeout_effects cfg w s t taken) rfl
    | workerCancel w =>
        exact amounts_quiet (Option.some.inj taken ▸ cancelWorker_effects cfg w s) rfl
    | workerCancelled w => exact amounts_quiet (workerCancelled_effects cfg w s t taken) rfl
    | handlerFinish task outcome =>
        exact amounts_quiet (handlerFinish_effects cfg task outcome s t taken) rfl
    | recoverStart => exact amounts_quiet (Option.some.inj taken ▸ recoverStart_effects cfg s) rfl
    | recoverScan sink => cases taken
    | recoverResume i sink => exact recoverResume_amounts cfg sink i s t taken
    | recoverPut i => exact amounts_quiet (recoverPut_effects cfg i s t taken) rfl
  · next i holding =>
      split at taken
      · next sink call found =>
          split at taken
          · next scanning =>
              obtain rfl := Option.some.inj taken
              have label : labelOf s (.recoverScan sink) = settleLabel s (some call) := by
                simp only [labelOf, holding, Option.bind_some, found]
              rw [label]
              exact recoverScan_amounts cfg sink i call s found scanning
          · cases taken
      · cases taken

end SynapseOS.Queue
