import SynapseOS.Lib.Dict
import SynapseOS.Lib.Transition
import SynapseOS.Queue.Types

/-! The in-memory AgentRun queue (`infrastructure/queue/in_memory.py`) on its event loop.

A coroutine runs without interruption from one suspension to the next, and an action is such
a segment or the first part of one: a worker that leaves `_execute` or is done with a contended
item goes on to `queue.get()` in a further action. Other actions may come between the two, so
the model has every run of the loop and some more. `Queue.put` suspends on a full queue only,
`Lock.acquire` on a held lock only. -/

namespace SynapseOS.Queue

structure Config where
  workerCount : Nat
  maxSize : Nat
  auditSink : Bool
  worker_bounds : 1 ≤ workerCount ∧ workerCount ≤ 128
  size_bounds : 1 ≤ maxSize ∧ maxSize ≤ 10000

/-- `InMemoryAgentRunQueue.__init__`, with the message of the `ValueError` it may raise. -/
def construct (workerCount maxSize : Int) (auditSink : Bool) : Except String Config :=
  if workers : 1 ≤ workerCount ∧ workerCount ≤ 128 then
    if size : 1 ≤ maxSize ∧ maxSize ≤ 10000 then
      .ok ⟨workerCount.toNat, maxSize.toNat, auditSink, by omega, by omega⟩
    else .error "queue size is invalid"
  else .error "worker count is invalid"

inductive HandlerOutcome
  | returned
  | retryable
  | timeoutError
  | exception
  | cancelled
  deriving DecidableEq, Repr

/-- The `asyncio.Task` of one handler call; `outcome` is `none` until it has finished. -/
structure HandlerTask where
  job : AgentRunJob
  handler : RunHandler
  outcome : Option HandlerOutcome := none
  cancelRequested : Bool := false
  deriving DecidableEq

/-- `not handler_task.done()`. -/
def live (tasks : List HandlerTask) (task : Nat) : Bool :=
  match tasks[task]? with
  | some t => decide (t.outcome = none)
  | none => false

structure HandlerWait where
  item : WorkItem
  task : Nat
  deadline : ℚ
  /-- The timeout has fired and cancelled the worker. -/
  expired : Bool := false
  /-- `Task.cancel` was called on the worker since it began to wait. -/
  cancelled : Bool := false
  /-- A cancellation arrived after the handler had finished. -/
  mustCancel : Bool := false
  deriving DecidableEq

/-- What `wait_for` gives back for a handler outcome: a pending cancellation replaces it, and
`asyncio.timeout` turns the `CancelledError` it caused alone into `TimeoutError`. -/
def HandlerWait.result (wait : HandlerWait) (outcome : HandlerOutcome) : HandlerOutcome :=
  let raised := if wait.mustCancel then .cancelled else outcome
  if wait.expired && !wait.cancelled && decide (raised = .cancelled) then .timeoutError else raised

inductive WorkerPc
  /-- In `await self._queue.get()`, or about to start. -/
  | getting
  /-- In `await self._queue.put(item)` with an item whose task is locked. -/
  | reputting (item : WorkItem)
  /-- In `await asyncio.sleep(0.001)`. -/
  | sleeping
  /-- In `_execute`, waiting for the handler; the task lock is held. -/
  | awaiting (wait : HandlerWait)
  /-- In `_execute`, in `await self._queue.put(retry)`; the task lock is held. -/
  | retrying (item retry : WorkItem)
  | done
  deriving DecidableEq

structure Worker where
  pc : WorkerPc
  cancelRequested : Bool := false
  deriving DecidableEq

inductive RecoverPc
  /-- Between two iterations of the loop over the snapshot. -/
  | scanning
  /-- In `await asyncio.gather(handler_task, ...)`. -/
  | gathering (runId : UUID) (job : AgentRunJob) (task : Nat)
  /-- In `await self._queue.put(...)`. -/
  | putting (item : WorkItem)
  | returned
  | raised
  deriving DecidableEq

structure RecoverCall where
  now : ℚ
  snapshot : List (UUID × AgentRunStatus)
  recovered : Nat := 0
  pc : RecoverPc := .scanning
  deriving DecidableEq

structure QueueState where
  queue : List WorkItem := []
  /-- Every worker task ever created; `workers` holds the members of `self._workers`. -/
  pool : List Worker := []
  workers : List Nat := []
  statuses : Dict UUID AgentRunStatus := .empty
  jobs : Dict UUID AgentRunJob := .empty
  handlers : Dict UUID RunHandler := .empty
  cancelEvents : Dict UUID Bool := .empty
  heartbeats : Dict UUID ℚ := .empty
  handlerTasks : Dict UUID Nat := .empty
  recoveryRequested : Finset UUID := ∅
  taskLocks : Dict UUID Bool := .empty
  idempotencyKeys : Finset String := ∅
  started : Bool := false
  stopping : Bool := false
  /-- The reading of `monotonic()`. -/
  clock : ℚ := 0
  /-- Every handler task in the order of its start. -/
  tasks : List HandlerTask := []
  recoveries : List RecoverCall := []
  /-- The `stop` calls that wait for their workers. -/
  stops : List (List Nat) := []
  /-- What the audit sink has accepted. -/
  events : List QueueAuditEvent := []
  /-- The recovery that has the event loop; nobody else runs meanwhile. -/
  scanning : Option Nat := none

namespace QueueState

def setPc (s : QueueState) (w : Nat) (pc : WorkerPc) : QueueState :=
  { s with pool := s.pool.set w ⟨pc, false⟩ }

def setStatus (s : QueueState) (runId : UUID) (status : AgentRunStatus) : QueueState :=
  { s with statuses := s.statuses.set runId status }

def push (s : QueueState) (item : WorkItem) : QueueState :=
  { s with queue := s.queue ++ [item] }

/-- `Task.cancel` on a handler task. The handler sees it, but may end in any way. -/
def cancelHandler (s : QueueState) (task : Nat) : QueueState :=
  { s with tasks := s.tasks.modify task fun t =>
      if t.outcome = none then { t with cancelRequested := true } else t }

def pending (s : QueueState) (task : Nat) : Bool := live s.tasks task

end QueueState

def auditEvent (job : AgentRunJob) (status : AgentRunStatus) : QueueAuditEvent :=
  ⟨job.runId, job.taskId, status, job.attempt, job.attempt_bounds⟩

def auditRaises (cfg : Config) (sink : Sink) (job : AgentRunJob) (status : AgentRunStatus) : Bool :=
  cfg.auditSink && sink (auditEvent job status)

/-- `_record` when it does not raise. -/
def QueueState.record (s : QueueState) (cfg : Config) (job : AgentRunJob)
    (status : AgentRunStatus) : QueueState :=
  { s with events := if cfg.auditSink then s.events ++ [auditEvent job status] else s.events }

/-! Callers: `enqueue`, `start`, `stop`, `cancel`, `heartbeat`. -/

inductive EnqueueReply
  | accepted
  | duplicate
  | stopping
  | full
  | sinkRaised
  deriving DecidableEq, Repr

def enqueue (cfg : Config) (sink : Sink) (job : AgentRunJob) (handler : RunHandler)
    (s : QueueState) : EnqueueReply × QueueState :=
  if s.stopping then (.stopping, s)
  else if job.idempotencyKey ∈ s.idempotencyKeys then (.duplicate, s)
  else if s.queue.length < cfg.maxSize then
    let s := s.push ⟨job, handler⟩
    let s := { s with
      idempotencyKeys := insert job.idempotencyKey s.idempotencyKeys
      statuses := s.statuses.set job.runId .queued
      jobs := s.jobs.set job.runId job
      handlers := s.handlers.set job.runId handler
      cancelEvents := s.cancelEvents.set job.runId false }
    if auditRaises cfg sink job .queued then (.sinkRaised, s)
    else (.accepted, s.record cfg job .queued)
  else (.full, s)

def spawn (count : Nat) (s : QueueState) : QueueState :=
  { s with
    pool := s.pool ++ List.replicate count ⟨.getting, false⟩
    workers := s.workers ++ List.range' s.pool.length count }

def start (cfg : Config) (s : QueueState) : QueueState :=
  if s.started then s
  else spawn cfg.workerCount { s with started := true, stopping := false, workers := [] }

/-- `Task.cancel` on a worker: a worker that waits for its handler passes it on. -/
def cancelWorker (w : Nat) (s : QueueState) : QueueState :=
  match s.pool[w]? with
  | some ⟨.awaiting wait, _⟩ =>
    if s.pending wait.task then
      (s.setPc w (.awaiting { wait with cancelled := true })).cancelHandler wait.task
    else s.setPc w (.awaiting { wait with cancelled := true, mustCancel := true })
  | some ⟨.done, _⟩ => s
  | some ⟨pc, _⟩ => { s with pool := s.pool.set w ⟨pc, true⟩ }
  | none => s

def stop (s : QueueState) : QueueState :=
  let s := s.workers.foldl (fun s w => cancelWorker w s) { s with stopping := true }
  if s.workers = [] then { s with started := false }
  else { s with stops := s.stops ++ [s.workers] }

def workerDone (s : QueueState) (w : Nat) : Bool :=
  match s.pool[w]? with
  | some ⟨.done, _⟩ => true
  | _ => false

def stopReturn (i : Nat) (s : QueueState) : Option QueueState := do
  let gathered ← s.stops[i]?
  if gathered.all (workerDone s) then
    some { s with stops := s.stops.eraseIdx i, workers := [], started := false }
  else none

inductive CancelReply
  | returned (accepted : Bool)
  | sinkRaised
  | keyError
  deriving DecidableEq, Repr

def cancel (cfg : Config) (sink : Sink) (runId : UUID) (s : QueueState) :
    CancelReply × QueueState :=
  let status := s.statuses.get runId
  if status = some .queued ∨ status = some .running ∨ status = some .retrying then
    match s.cancelEvents.get runId with
    | none => (.keyError, s)
    | some _ =>
      let s := { s with cancelEvents := s.cancelEvents.set runId true }
      if status = some .queued then
        let s := s.setStatus runId .cancelled
        match s.jobs.get runId with
        | none => (.keyError, s)
        | some job =>
          if auditRaises cfg sink job .cancelled then (.sinkRaised, s)
          else (.returned true, s.record cfg job .cancelled)
      else (.returned true, s)
  else (.returned false, s)

def heartbeat (runId : UUID) (s : QueueState) : Bool × QueueState :=
  if s.statuses.get runId = some .running then
    (true, { s with heartbeats := s.heartbeats.set runId s.clock })
  else (false, s)

/-! Workers: `_worker` and `_execute`. -/

def releaseLock (taskId : UUID) (s : QueueState) : QueueState :=
  { s with taskLocks := s.taskLocks.set taskId false }

/-- The `finally` of `_execute` and the release of the lock around it, whatever follows. -/
def closeExecute (job : AgentRunJob) (s : QueueState) : QueueState :=
  releaseLock job.taskId { s with handlerTasks := s.handlerTasks.pop job.runId }

def leaveExecute (w : Nat) (job : AgentRunJob) (s : QueueState) : QueueState :=
  (closeExecute job s).setPc w .getting

def crashExecute (w : Nat) (job : AgentRunJob) (s : QueueState) : QueueState :=
  (closeExecute job s).setPc w .done

/-- `_execute` until it waits for the handler. The lock is held. `raises` says whether
`asyncio.ensure_future(item.handler(job, cancel_event))` raises; no `try` is around it. -/
def beginExecute (cfg : Config) (sink : Sink) (raises : Bool) (w : Nat) (item : WorkItem)
    (s : QueueState) : QueueState :=
  let job := item.job
  match s.cancelEvents.get job.runId with
  | none => (releaseLock job.taskId s).setPc w .done
  | some _ =>
    let s := s.setStatus job.runId .running
    let s := { s with heartbeats := s.heartbeats.set job.runId s.clock }
    if auditRaises cfg sink job .running then (releaseLock job.taskId s).setPc w .done
    else
      let s := s.record cfg job .running
      if raises then (releaseLock job.taskId s).setPc w .done
      else
        let task := s.tasks.length
        let s := { s with
          tasks := s.tasks ++ [{ job := job, handler := item.handler : HandlerTask }]
          handlerTasks := s.handlerTasks.set job.runId task }
        let deadline := s.clock + job.timeoutSeconds
        s.setPc w (.awaiting { item, task, deadline })

/-- `_worker` from `queue.get()` to its next suspension. -/
def workerGet (cfg : Config) (sink : Sink) (raises : Bool) (w : Nat) (s : QueueState) :
    Option QueueState :=
  match s.pool[w]?, s.queue with
  | some ⟨.getting, false⟩, item :: rest =>
    let job := item.job
    let s := { s with queue := rest }
    if s.statuses.get job.runId = some .cancelled then some s
    else
      let s := { s with taskLocks := s.taskLocks.setDefault job.taskId false }
      if s.taskLocks.get job.taskId = some true then
        if s.queue.length < cfg.maxSize then some ((s.push item).setPc w .sleeping)
        else some (s.setPc w (.reputting item))
      else
        let s := { s with taskLocks := s.taskLocks.set job.taskId true }
        some (beginExecute cfg sink raises w item s)
  | _, _ => none

/-- The put of a contended item gets its place. -/
def workerReput (cfg : Config) (w : Nat) (s : QueueState) : Option QueueState :=
  match s.pool[w]? with
  | some ⟨.reputting item, false⟩ =>
    if s.queue.length < cfg.maxSize then some ((s.push item).setPc w .sleeping) else none
  | _ => none

def workerWake (w : Nat) (s : QueueState) : Option QueueState :=
  match s.pool[w]? with
  | some ⟨.sleeping, false⟩ => some (s.setPc w .getting)
  | _ => none

def recordOutcome (cfg : Config) (sink : Sink) (w : Nat) (job : AgentRunJob)
    (status : AgentRunStatus) (s : QueueState) : QueueState :=
  let s := s.setStatus job.runId status
  if auditRaises cfg sink job status then crashExecute w job s
  else leaveExecute w job (s.record cfg job status)

/-- The retry branch of `except RetryableRunError`. -/
def retryExecute (cfg : Config) (sink : Sink) (w : Nat) (item : WorkItem)
    (remaining : item.job.attempt < item.job.maxAttempts) (s : QueueState) : QueueState :=
  let job := item.job
  let retry : WorkItem := ⟨job.retry remaining, item.handler⟩
  let s := s.setStatus job.runId .retrying
  if auditRaises cfg sink job .retrying then crashExecute w job s
  else
    let s := s.record cfg job .retrying
    if s.queue.length < cfg.maxSize then leaveExecute w job (s.push retry)
    else s.setPc w (.retrying item retry)

/-- The handlers of `_execute` after `wait_for` has returned or raised. -/
def concludeExecute (cfg : Config) (sink : Sink) (w : Nat) (item : WorkItem)
    (result : HandlerOutcome) (s : QueueState) : QueueState :=
  let job := item.job
  let cancelSet := s.cancelEvents.get job.runId = some true
  match result with
  | .cancelled =>
    if job.runId ∈ s.recoveryRequested then
      leaveExecute w job { s with recoveryRequested := s.recoveryRequested.erase job.runId }
    else if cancelSet then recordOutcome cfg sink w job .cancelled s
    else crashExecute w job s
  | .retryable =>
    if cancelSet then recordOutcome cfg sink w job .cancelled s
    else if remaining : job.attempt < job.maxAttempts then
      retryExecute cfg sink w item remaining s
    else recordOutcome cfg sink w job .failed s
  | .timeoutError => recordOutcome cfg sink w job .failed s
  | .exception => recordOutcome cfg sink w job .failed s
  | .returned => recordOutcome cfg sink w job (if cancelSet then .cancelled else .succeeded) s

def workerResume (cfg : Config) (sink : Sink) (w : Nat) (s : QueueState) : Option QueueState :=
  match s.pool[w]? with
  | some ⟨.awaiting wait, _⟩ =>
    (s.tasks[wait.task]?.bind HandlerTask.outcome).map fun outcome =>
      concludeExecute cfg sink w wait.item (wait.result outcome) s
  | _ => none

def workerRetryPut (cfg : Config) (w : Nat) (s : QueueState) : Option QueueState :=
  match s.pool[w]? with
  | some ⟨.retrying item retry, false⟩ =>
    if s.queue.length < cfg.maxSize then some (leaveExecute w item.job (s.push retry)) else none
  | _ => none

def workerTimeout (w : Nat) (s : QueueState) : Option QueueState :=
  match s.pool[w]? with
  | some ⟨.awaiting wait, _⟩ =>
    if wait.expired = false ∧ wait.deadline ≤ s.clock then
      if s.pending wait.task then
        some ((s.setPc w (.awaiting { wait with expired := true })).cancelHandler wait.task)
      else some (s.setPc w (.awaiting { wait with expired := true, mustCancel := true }))
    else none
  | _ => none

def workerCancelled (w : Nat) (s : QueueState) : Option QueueState :=
  match s.pool[w]? with
  | some ⟨.retrying item _, true⟩ => some (crashExecute w item.job s)
  | some ⟨.getting, true⟩ | some ⟨.sleeping, true⟩ | some ⟨.reputting _, true⟩ =>
    some (s.setPc w .done)
  | _ => none

def handlerFinish (task : Nat) (outcome : HandlerOutcome) (s : QueueState) : Option QueueState :=
  if s.pending task then
    some { s with tasks := s.tasks.modify task fun t => { t with outcome := some outcome } }
  else none

/-! Stale recovery: `recover_stale_runs`. -/

def recoverStart (cfg : Config) (s : QueueState) : QueueState :=
  let s :=
    if s.started && !s.stopping then
      let alive := s.workers.filter (fun w => !workerDone s w)
      spawn (cfg.workerCount - alive.length) { s with workers := alive }
    else s
  { s with
    recoveries := s.recoveries ++ [{ now := s.clock, snapshot := s.statuses.entries : RecoverCall }]
    scanning := some s.recoveries.length }

/-- Recovery `i` suspends, or ends, as `call`. -/
def yieldRecovery (i : Nat) (call : RecoverCall) (s : QueueState) : QueueState :=
  { s with recoveries := s.recoveries.set i call, scanning := none }

/-- Recovery `i` goes on with its loop as `call`. -/
def scanOn (i : Nat) (call : RecoverCall) (s : QueueState) : QueueState :=
  { s with recoveries := s.recoveries.set i call, scanning := some i }

/-- The end of the loop body: the run is retried or failed. -/
def settle (cfg : Config) (sink : Sink) (i : Nat) (call : RecoverCall) (runId : UUID)
    (job : AgentRunJob) (s : QueueState) : QueueState :=
  if remaining : job.attempt < job.maxAttempts then
    let s := s.setStatus runId .retrying
    if auditRaises cfg sink job .retrying then yieldRecovery i { call with pc := .raised } s
    else
      let s := s.record cfg job .retrying
      match s.handlers.get runId with
      | none => yieldRecovery i { call with pc := .raised } s
      | some handler =>
        let item : WorkItem := ⟨job.retry remaining, handler⟩
        if s.queue.length < cfg.maxSize then
          scanOn i { call with recovered := call.recovered + 1, pc := .scanning } (s.push item)
        else yieldRecovery i { call with pc := .putting item } s
  else
    let s := s.setStatus runId .failed
    if auditRaises cfg sink job .failed then yieldRecovery i { call with pc := .raised } s
    else
      scanOn i { call with recovered := call.recovered + 1, pc := .scanning }
        (s.record cfg job .failed)

/-- `now - heartbeat <= job.heartbeat_timeout_seconds`. -/
def heartbeatFresh (s : QueueState) (now : ℚ) (runId : UUID) (job : AgentRunJob) : Bool :=
  decide (now - (s.heartbeats.get runId).getD now ≤ job.heartbeatTimeoutSeconds)

def recoverScan (cfg : Config) (sink : Sink) (i : Nat) (call : RecoverCall) (s : QueueState) :
    QueueState :=
  match call.snapshot with
  | [] => yieldRecovery i { call with pc := .returned } s
  | (runId, status) :: rest =>
    let call := { call with snapshot := rest }
    if status ≠ .running then scanOn i call s
    else
      match s.jobs.get runId with
      | none => yieldRecovery i { call with pc := .raised } s
      | some job =>
        if heartbeatFresh s call.now runId job then scanOn i call s
        else
          let s := { s with recoveryRequested := insert runId s.recoveryRequested }
          match s.handlerTasks.get runId with
          | some task =>
            yieldRecovery i { call with pc := .gathering runId job task } (s.cancelHandler task)
          | none => settle cfg sink i call runId job s

def awaits (task : Nat) (worker : Worker) : Bool :=
  match worker.pc with
  | .awaiting wait => decide (wait.task = task)
  | _ => false

/-- The gathered task has finished, and the worker that waited for it has been woken first:
its callback was registered before that of the gather. -/
def gathered (s : QueueState) (task : Nat) : Bool :=
  !s.pending task && !s.pool.any (awaits task)

def recoverResume (cfg : Config) (sink : Sink) (i : Nat) (s : QueueState) : Option QueueState :=
  match s.recoveries[i]? with
  | some call =>
    match call.pc with
    | .gathering runId job task =>
      if gathered s task then some (settle cfg sink i call runId job s) else none
    | _ => none
  | none => none

def recoverPut (cfg : Config) (i : Nat) (s : QueueState) : Option QueueState :=
  match s.recoveries[i]? with
  | some call =>
    match call.pc with
    | .putting item =>
      if s.queue.length < cfg.maxSize then
        some (scanOn i { call with recovered := call.recovered + 1, pc := .scanning } (s.push item))
      else none
    | _ => none
  | none => none

/-! The event loop. -/

inductive Action
  | enqueue (job : AgentRunJob) (handler : RunHandler) (sink : Sink)
  | start
  | stop
  | stopReturn (i : Nat)
  | cancel (runId : UUID) (sink : Sink)
  | heartbeat (runId : UUID)
  | tick (elapsed : ℚ)
  | workerGet (w : Nat) (sink : Sink) (raises : Bool := false)
  | workerReput (w : Nat)
  | workerWake (w : Nat)
  | workerResume (w : Nat) (sink : Sink)
  | workerRetryPut (w : Nat)
  | workerTimeout (w : Nat)
  | workerCancel (w : Nat)
  | workerCancelled (w : Nat)
  | handlerFinish (task : Nat) (outcome : HandlerOutcome)
  | recoverStart
  | recoverScan (sink : Sink)
  | recoverResume (i : Nat) (sink : Sink)
  | recoverPut (i : Nat)

/-- The actions of a loop that no recovery is holding. -/
def idleStep (cfg : Config) (s : QueueState) : Action → Option QueueState
  | .enqueue job handler sink => some (enqueue cfg sink job handler s).2
  | .start => some (start cfg s)
  | .stop => some (stop s)
  | .stopReturn i => stopReturn i s
  | .cancel runId sink => some (cancel cfg sink runId s).2
  | .heartbeat runId => some (heartbeat runId s).2
  | .tick elapsed => if 0 ≤ elapsed then some { s with clock := s.clock + elapsed } else none
  | .workerGet w sink raises => workerGet cfg sink raises w s
  | .workerReput w => workerReput cfg w s
  | .workerWake w => workerWake w s
  | .workerResume w sink => workerResume cfg sink w s
  | .workerRetryPut w => workerRetryPut cfg w s
  | .workerTimeout w => workerTimeout w s
  | .workerCancel w => some (cancelWorker w s)
  | .workerCancelled w => workerCancelled w s
  | .handlerFinish task outcome => handlerFinish task outcome s
  | .recoverStart => some (recoverStart cfg s)
  | .recoverScan _ => none
  | .recoverResume i sink => recoverResume cfg sink i s
  | .recoverPut i => recoverPut cfg i s

def step (cfg : Config) (s : QueueState) (a : Action) : Option QueueState :=
  match s.scanning with
  | none => idleStep cfg s a
  | some i =>
    match a, s.recoveries[i]? with
    | .recoverScan sink, some call =>
      if call.pc = .scanning then some (recoverScan cfg sink i call s) else none
    | _, _ => none

def initial : QueueState := {}

end SynapseOS.Queue
