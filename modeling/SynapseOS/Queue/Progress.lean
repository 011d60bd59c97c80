import SynapseOS.Queue.Attempts

/-! Workers consume the bounded queue and also produce into it: when they can all be stuck. -/

namespace SynapseOS.Queue

open Transition

def WorkerPc.putting : WorkerPc → Bool
  | .reputting _ | .retrying _ _ => true
  | .getting | .sleeping | .awaiting _ | .done => false

def WorkerPc.serving : WorkerPc → Bool
  | .getting | .sleeping | .awaiting _ => true
  | .reputting _ | .retrying _ _ | .done => false

def Alive (pool : List Worker) : Prop := ∃ worker ∈ pool, worker.pc ≠ .done

def Served (pool : List Worker) : Prop := ∃ worker ∈ pool, worker.pc.serving = true

/-- A worker other than `w` is live and not suspended in a put. -/
def Spared (pool : List Worker) (w : Nat) : Prop :=
  ∃ worker ∈ pool.eraseIdx w, worker.pc.serving = true

/-- Every live worker is suspended in a put on the full queue. -/
def Deadlocked (cfg : Config) (s : QueueState) : Prop :=
  Alive s.pool ∧ (∀ worker ∈ s.pool, worker.pc ≠ .done → worker.pc.putting = true) ∧
    ¬ s.queue.length < cfg.maxSize

structure Starts (s : QueueState) (w : Nat) (item : WorkItem) : Prop where
  idle : s.pool[w]? = some ⟨.getting, false⟩
  front : s.queue.head? = some item
  wanted : s.statuses.get item.job.runId ≠ some .cancelled
  free : s.taskLocks.get item.job.taskId ≠ some true
  event : s.cancelEvents.get item.job.runId ≠ none

/-- The run is retried on a full queue, or an exception ends the worker: that of the audit sink on
the status which is recorded, or a `CancelledError` that neither a recovery nor a cancel asked
for. -/
def Withheld (cfg : Config) (sink : Sink) (s : QueueState) (item : WorkItem) :
    HandlerOutcome → Prop
  | .cancelled => item.job.runId ∉ s.recoveryRequested ∧
      (s.cancelEvents.get item.job.runId = some true →
        auditRaises cfg sink item.job .cancelled = true)
  | .retryable =>
      if s.cancelEvents.get item.job.runId = some true then
        auditRaises cfg sink item.job .cancelled = true
      else if item.job.attempt < item.job.maxAttempts then
        auditRaises cfg sink item.job .retrying = true ∨ ¬ s.queue.length < cfg.maxSize
      else auditRaises cfg sink item.job .failed = true
  | .timeoutError | .exception => auditRaises cfg sink item.job .failed = true
  | .returned =>
      if s.cancelEvents.get item.job.runId = some true then
        auditRaises cfg sink item.job .cancelled = true
      else auditRaises cfg sink item.job .succeeded = true

def Undirected : Action → Prop
  | .stop | .stopReturn _ | .workerCancel _ | .workerCancelled _ => False
  | _ => True

/-- A worker that would block, or end, when it resumes leaves another one behind. -/
def Relieved (cfg : Config) (sink : Sink) (w : Nat) (s : QueueState) : Label → Prop
  | .resume item result => Withheld cfg sink s item result → Spared s.pool w
  | .quiet | .submit _ | .settle _ _ => True

/-- A worker whose start of a run ends it leaves another one behind: the sink raises on the RUNNING
event, or the call of the handler does. -/
def Backed (cfg : Config) (sink : Sink) (raises : Bool) (w : Nat) (s : QueueState) : Prop :=
  ∀ item ∈ s.queue.head?, Starts s w item →
    auditRaises cfg sink item.job .running = true ∨ raises = true → Spared s.pool w

/-- Moreover a worker retries on a full queue, or is ended by an exception, only while another
live worker is not suspended in a put. -/
def Unblocked (cfg : Config) (s : QueueState) (a : Action) : Prop :=
  Undirected a ∧
    match a with
    | .workerGet w sink raises => Backed cfg sink raises w s
    | .workerResume w sink => Relieved cfg sink w s (labelOf s (.workerResume w sink))
    | _ => True

instance (pool : List Worker) (w : Nat) : Decidable (Spared pool w) :=
  inferInstanceAs (Decidable (∃ worker ∈ pool.eraseIdx w, worker.pc.serving = true))

theorem starts_iff (s : QueueState) (w : Nat) (item : WorkItem) : Starts s w item ↔
    s.pool[w]? = some ⟨.getting, false⟩ ∧ s.queue.head? = some item ∧
      s.statuses.get item.job.runId ≠ some .cancelled ∧
      s.taskLocks.get item.job.taskId ≠ some true ∧ s.cancelEvents.get item.job.runId ≠ none := by
  constructor
  · intro starts
    exact ⟨starts.idle, starts.front, starts.wanted, starts.free, starts.event⟩
  · rintro ⟨idle, front, wanted, free, event⟩
    exact ⟨idle, front, wanted, free, event⟩

instance (s : QueueState) (w : Nat) (item : WorkItem) : Decidable (Starts s w item) :=
  decidable_of_iff _ (starts_iff s w item).symm

instance (cfg : Config) (sink : Sink) (s : QueueState) (item : WorkItem)
    (result : HandlerOutcome) : Decidable (Withheld cfg sink s item result) :=
  match result with
  | .retryable =>
      inferInstanceAs (Decidable (if s.cancelEvents.get item.job.runId = some true then
          auditRaises cfg sink item.job .cancelled = true
        else if item.job.attempt < item.job.maxAttempts then
          auditRaises cfg sink item.job .retrying = true ∨ ¬ s.queue.length < cfg.maxSize
        else auditRaises cfg sink item.job .failed = true))
  | .cancelled =>
      inferInstanceAs (Decidable (item.job.runId ∉ s.recoveryRequested ∧
        (s.cancelEvents.get item.job.runId = some true →
          auditRaises cfg sink item.job .cancelled = true)))
  | .timeoutError | .exception =>
      inferInstanceAs (Decidable (auditRaises cfg sink item.job .failed = true))
  | .returned =>
      inferInstanceAs (Decidable (if s.cancelEvents.get item.job.runId = some true then
          auditRaises cfg sink item.job .cancelled = true
        else auditRaises cfg sink item.job .succeeded = true))

instance (cfg : Config) (sink : Sink) (w : Nat) (s : QueueState) (label : Label) :
    Decidable (Relieved cfg sink w s label) :=
  match label with
  | .resume item result =>
      inferInstanceAs (Decidable (Withheld cfg sink s item result → Spared s.pool w))
  | .quiet | .submit _ | .settle _ _ => inferInstanceAs (Decidable True)

instance (a : Action) : Decidable (Undirected a) :=
  match a with
  | .stop | .stopReturn _ | .workerCancel _ | .workerCancelled _ =>
      inferInstanceAs (Decidable False)
  | .enqueue _ _ _ | .start | .cancel _ _ | .heartbeat _ | .tick _ | .workerGet _ _ _
  | .workerReput _ | .workerWake _ | .workerResume _ _ | .workerRetryPut _ | .workerTimeout _
  | .handlerFinish _ _ | .recoverStart | .recoverScan _ | .recoverResume _ _ | .recoverPut _ =>
      inferInstanceAs (Decidable True)

instance (cfg : Config) (sink : Sink) (raises : Bool) (w : Nat) (s : QueueState) :
    Decidable (Backed cfg sink raises w s) :=
  inferInstanceAs (Decidable (∀ item ∈ s.queue.head?, Starts s w item →
    auditRaises cfg sink item.job .running = true ∨ raises = true → Spared s.pool w))

instance (cfg : Config) (s : QueueState) (a : Action) : Decidable (Unblocked cfg s a) :=
  match a with
  | .workerGet w sink raises =>
      inferInstanceAs (Decidable (Undirected (.workerGet w sink raises) ∧
        Backed cfg sink raises w s))
  | .workerResume w sink =>
      inferInstanceAs (Decidable (Undirected (.workerResume w sink) ∧
        Relieved cfg sink w s (labelOf s (.workerResume w sink))))
  | .enqueue _ _ _ | .start | .stop | .stopReturn _ | .cancel _ _ | .heartbeat _ | .tick _
  | .workerReput _ | .workerWake _ | .workerRetryPut _ | .workerTimeout _ | .workerCancel _
  | .workerCancelled _ | .handlerFinish _ _ | .recoverStart | .recoverScan _ | .recoverResume _ _
  | .recoverPut _ => inferInstanceAs (Decidable (Undirected _ ∧ True))

section Pool

variable {pool : List Worker} {w : Nat}

theorem served_landed {old : Worker} (found : pool[w]? = some old) (pc : WorkerPc) (mark : Bool)
    (serving : pc.serving = true) : Served (pool.set w ⟨pc, mark⟩) := by
  have inside : w < pool.length := (List.getElem?_eq_some_iff.mp found).1
  refine ⟨⟨pc, mark⟩, List.mem_of_getElem? (i := w) ?_, serving⟩
  rw [List.getElem?_set_self inside]

theorem served_spared (spared : Spared pool w) (worker : Worker) : Served (pool.set w worker) := by
  obtain ⟨other, member, serving⟩ := spared
  obtain ⟨v, different, present⟩ := List.mem_eraseIdx_iff_getElem?.mp member
  refine ⟨other, List.mem_of_getElem? (i := v) ?_, serving⟩
  rw [List.getElem?_set_ne (Ne.symm different), present]

theorem served_append (served : Served pool) (more : List Worker) : Served (pool ++ more) := by
  obtain ⟨worker, member, serving⟩ := served
  exact ⟨worker, List.mem_append_left more member, serving⟩

theorem served_spawn (served : pool ≠ [] → Served pool) (count : Nat)
    (staffed : pool ++ List.replicate count ⟨.getting, false⟩ ≠ []) :
    Served (pool ++ List.replicate count ⟨.getting, false⟩) := by
  by_cases empty : pool = []
  · obtain ⟨worker, member⟩ := List.exists_mem_of_ne_nil _ staffed
    refine ⟨worker, member, ?_⟩
    rw [empty, List.nil_append] at member
    rw [List.eq_of_mem_replicate member]
    rfl
  · exact served_append (served empty) _

theorem not_deadlocked {cfg : Config} {s : QueueState} (served : s.pool ≠ [] → Served s.pool) :
    ¬ Deadlocked cfg s := by
  rintro ⟨⟨worker, present, _⟩, putting, _⟩
  obtain ⟨⟨pc, flagged⟩, member, serving⟩ := served (List.ne_nil_of_mem present)
  have stuck := putting _ member
  cases pc with
  | getting | sleeping | awaiting => exact Bool.false_ne_true (stuck nofun)
  | reputting | retrying | done => cases serving

end Pool

structure Evented (s : QueueState) : Prop where
  circulating : Everywhere (fun job => (s.cancelEvents.get job.runId).isSome = true) s
  stored : ∀ runId job, s.jobs.get runId = some job →
    (s.cancelEvents.get job.runId).isSome = true

theorem evented_initial : Evented initial := by
  refine ⟨everywhere_initial _, ?_⟩
  simp [initial]

section Effects

variable {cfg : Config} {label : Label} {s t : QueueState}

theorem isSome_set {flags : Dict UUID Bool} {runId : UUID} (key : UUID) (value : Bool)
    (present : (flags.get runId).isSome = true) :
    ((flags.set key value).get runId).isSome = true := by
  rw [Dict.get_set]
  split
  · rfl
  · exact present

theorem cancelEvents_grow (effect : Effect cfg s label t) {runId : UUID}
    (present : (s.cancelEvents.get runId).isSome = true) :
    (t.cancelEvents.get runId).isSome = true := by
  cases effect with
  | submit | withdraw | flag => exact isSome_set _ _ present
  | _ => exact present

theorem evented_effect (evented : Evented s) (effect : Effect cfg s label t) : Evented t := by
  have grown (job : AgentRunJob) := @cancelEvents_grow cfg label s t effect job.runId
  have submitted (job : AgentRunJob) (same : label = .submit job) :
      (t.cancelEvents.get job.runId).isSome = true := by
    subst same
    cases effect
    exact congrArg Option.isSome (Dict.get_set_self _ _ _)
  constructor
  · refine everywhere_effect (everywhere_mono evented.circulating grown) submitted ?_ ?_ effect
    · exact fun job remaining present => present
    · exact fun runId job present => grown job (evented.stored runId job present)
  · intro runId job present
    rcases jobs_effect effect with same | ⟨new, own, added⟩
    · exact grown job (evented.stored runId job (same ▸ present))
    · rw [added, Dict.get_set] at present
      split at present
      · rw [← Option.some.inj present]
        exact submitted new own
      · exact grown job (evented.stored runId job present)

theorem bounded_effect (bounded : s.queue.length ≤ cfg.maxSize) (effect : Effect cfg s label t) :
    t.queue.length ≤ cfg.maxSize := by
  have pushed {item : WorkItem} (room : s.queue.length < cfg.maxSize) :
      (s.queue ++ [item]).length ≤ cfg.maxSize := by
    rw [List.length_append, List.length_singleton]
    omega
  have popped {item : WorkItem} {rest : List WorkItem} (front : s.queue = item :: rest) :
      rest.length + 1 ≤ cfg.maxSize := by
    rw [front, List.length_cons] at bounded
    exact bounded
  cases effect with
  | submit job handler events new room => exact pushed room
  | skip w item rest found front => exact Nat.le_of_succ_le (popped front)
  | contend w item rest locks found front =>
      show (rest ++ [item]).length ≤ cfg.maxSize
      rw [List.length_append, List.length_singleton]
      exact popped front
  | contendFull w item rest locks found front => exact Nat.le_of_succ_le (popped front)
  | begin w item rest locks heartbeats deadline events found front =>
      exact Nat.le_of_succ_le (popped front)
  | beginFails w item rest locks heartbeats statuses events found front =>
      exact Nat.le_of_succ_le (popped front)
  | reput w item found room => exact pushed room
  | retry w wait flagged events remaining found finished unflagged room => exact pushed room
  | retryPut w item retry found room => exact pushed room
  | settle i call runId job requested queue status events pc snapshot recovered scanning found
      suffix source logged branch =>
      rcases branch with ⟨_, _, _, ⟨rfl, room, _⟩ | ⟨rfl, _⟩⟩ | ⟨_, _, rfl, _⟩ | ⟨_, _, rfl, _⟩
      · exact pushed room
      · exact bounded
      · exact bounded
      · exact bounded
  | recoverPut i call item recovered scanning found waiting room => exact pushed room
  | _ => exact bounded

end Effects

/-! Which steps take the last serving worker away. -/

section Steps

variable {cfg : Config} {sink : Sink} {s t : QueueState} {w : Nat}

theorem enqueue_pool (job : AgentRunJob) (handler : RunHandler) :
    (enqueue cfg sink job handler s).2.pool = s.pool := by
  unfold enqueue
  dsimp only
  repeat' split
  all_goals rfl

theorem cancel_pool (runId : UUID) : (cancel cfg sink runId s).2.pool = s.pool := by
  unfold cancel
  dsimp only
  repeat' split
  all_goals rfl

theorem settle_pool (i : Nat) (call : RecoverCall) (runId : UUID) (job : AgentRunJob) :
    (settle cfg sink i call runId job s).pool = s.pool := by
  unfold settle
  dsimp only
  repeat' split
  all_goals rfl

theorem recoverScan_pool (i : Nat) (call : RecoverCall) :
    (recoverScan cfg sink i call s).pool = s.pool := by
  unfold recoverScan
  dsimp only
  repeat' split
  all_goals first | rfl | exact settle_pool i _ _ _

theorem beginExecute_pc (raises : Bool) (w : Nat) (item : WorkItem) :
    ∃ pc, (beginExecute cfg sink raises w item s).pool = s.pool.set w ⟨pc, false⟩ ∧
      (pc.serving = true ↔ s.cancelEvents.get item.job.runId ≠ none ∧
        ¬ (auditRaises cfg sink item.job .running = true ∨ raises = true)) := by
  unfold beginExecute
  dsimp only
  split
  · next absent => exact ⟨_, rfl, by simp [WorkerPc.serving, absent]⟩
  · next present =>
      split
      · next raised => exact ⟨_, rfl, by simp [WorkerPc.serving, raised]⟩
      · next passed =>
          split
          · next raised => exact ⟨_, rfl, by simp [WorkerPc.serving, raised]⟩
          · next called => exact ⟨_, rfl, by simp [WorkerPc.serving, present, passed, called]⟩

theorem recordOutcome_pc (w : Nat) (item : WorkItem) (status : AgentRunStatus) :
    ∃ pc, (recordOutcome cfg sink w item.job status s).pool = s.pool.set w ⟨pc, false⟩ ∧
      (pc.serving = true ↔ ¬ auditRaises cfg sink item.job status = true) := by
  unfold recordOutcome
  dsimp only
  split
  · next raised => exact ⟨_, rfl, by simp [WorkerPc.serving, raised]⟩
  · next passed => exact ⟨_, rfl, by simp [WorkerPc.serving, passed]⟩

theorem retryExecute_pc (w : Nat) (item : WorkItem)
    (remaining : item.job.attempt < item.job.maxAttempts) :
    ∃ pc, (retryExecute cfg sink w item remaining s).pool = s.pool.set w ⟨pc, false⟩ ∧
      (pc.serving = true ↔ ¬ (auditRaises cfg sink item.job .retrying = true ∨
        ¬ s.queue.length < cfg.maxSize)) := by
  unfold retryExecute
  dsimp only
  split
  · next raised => exact ⟨_, rfl, by simp [WorkerPc.serving, raised]⟩
  · next passed =>
      split
      · next room =>
          change s.queue.length < cfg.maxSize at room
          exact ⟨_, rfl, by simp [WorkerPc.serving, passed, room]⟩
      · next full =>
          change ¬ s.queue.length < cfg.maxSize at full
          exact ⟨_, rfl, by simp [WorkerPc.serving, full]⟩

theorem concludeExecute_pc (w : Nat) (item : WorkItem) (result : HandlerOutcome) :
    ∃ pc, (concludeExecute cfg sink w item result s).pool = s.pool.set w ⟨pc, false⟩ ∧
      (pc.serving = true ↔ ¬ Withheld cfg sink s item result) := by
  have recorded := @recordOutcome_pc cfg sink s w item
  unfold concludeExecute Withheld
  cases result with
  | timeoutError | exception => exact recorded .failed
  | returned =>
      dsimp only
      split
      · exact recorded .cancelled
      · exact recorded .succeeded
  | cancelled =>
      dsimp only
      split
      · next requested => exact ⟨_, rfl, by simp [WorkerPc.serving, requested]⟩
      next unrequested =>
        split
        · next asked =>
            obtain ⟨pc, moved, serves⟩ := recorded .cancelled
            exact ⟨pc, moved, by simp [serves, unrequested, asked]⟩
        · next unasked => exact ⟨_, rfl, by simp [WorkerPc.serving, unrequested, unasked]⟩
  | retryable =>
      dsimp only
      split
      · exact recorded .cancelled
      · split
        · next remaining => exact retryExecute_pc w item remaining
        · exact recorded .failed

theorem workerGet_served {raises : Bool} (evented : Evented s)
    (bounded : s.queue.length ≤ cfg.maxSize) (served : s.pool ≠ [] → Served s.pool)
    (backed : Backed cfg sink raises w s) (taken : workerGet cfg sink raises w s = some t) :
    Served t.pool := by
  unfold workerGet at taken
  split at taken
  · next item rest found front =>
      dsimp only at taken
      split at taken
      · obtain rfl := Option.some.inj taken
        exact served (List.ne_nil_of_mem (List.mem_of_getElem? found))
      next wanted =>
      split at taken
      · split at taken
        · obtain rfl := Option.some.inj taken
          exact served_landed found .sleeping false rfl
        · next full =>
            -- the item has just left the queue, so there is room for it
            rw [front, List.length_cons] at bounded
            exact absurd bounded full
      · next open_ =>
        have first : s.queue.head? = some item := by rw [front, List.head?_cons]
        have event : s.cancelEvents.get item.job.runId ≠ none :=
          Option.isSome_iff_ne_none.mp
            (evented.circulating.queue item (by rw [front]; exact List.mem_cons_self))
        have free : s.taskLocks.get item.job.taskId ≠ some true := fun locked =>
          open_ ((sameLocks_setDefault s.taskLocks item.job.taskId item.job.taskId).mpr locked)
        obtain rfl := Option.some.inj taken
        obtain ⟨pc, moved, serves⟩ := @beginExecute_pc cfg sink _ raises w item
        rw [moved]
        by_cases ends : auditRaises cfg sink item.job .running = true ∨ raises = true
        · exact served_spared (backed item first ⟨found, first, wanted, free, event⟩ ends) _
        · exact served_landed found pc false (serves.mpr ⟨event, ends⟩)
  · cases taken

theorem workerResume_served (relieved : Relieved cfg sink w s (labelOf s (.workerResume w sink)))
    (taken : workerResume cfg sink w s = some t) : Served t.pool := by
  unfold workerResume at taken
  split at taken
  · next wait flagged found =>
      obtain ⟨outcome, ended, rfl⟩ := Option.map_eq_some_iff.mp taken
      have label : labelOf s (.workerResume w sink) = .resume wait.item (wait.result outcome) := by
        simp only [labelOf, found, ended]
      rw [label] at relieved
      obtain ⟨pc, moved, serves⟩ := @concludeExecute_pc cfg sink s w wait.item (wait.result outcome)
      rw [moved]
      by_cases withheld : Withheld cfg sink s wait.item (wait.result outcome)
      · exact served_spared (relieved withheld) _
      · exact served_landed found pc false (serves.mpr withheld)
  · cases taken

theorem served_step {a : Action} (evented : Evented s) (bounded : s.queue.length ≤ cfg.maxSize)
    (served : s.pool ≠ [] → Served s.pool) (unblocked : Unblocked cfg s a)
    (taken : step cfg s a = some t) (staffed : t.pool ≠ []) : Served t.pool := by
  have same {u : QueueState} (pool : u.pool = s.pool) (staffed : u.pool ≠ []) :
      Served u.pool := by
    rw [pool] at staffed ⊢
    exact served staffed
  obtain ⟨undirected, condition⟩ := unblocked
  unfold step at taken
  split at taken
  · cases a with
    | stop | stopReturn | workerCancel | workerCancelled => exact undirected.elim
    | enqueue job handler sink =>
        obtain rfl := Option.some.inj taken
        exact same (enqueue_pool job handler) staffed
    | start =>
        obtain rfl := Option.some.inj taken
        revert staffed
        simp only [start]
        split
        · exact served
        · exact served_spawn served cfg.workerCount
    | cancel runId sink =>
        obtain rfl := Option.some.inj taken
        exact same (cancel_pool runId) staffed
    | heartbeat runId =>
        obtain rfl := Option.some.inj taken
        refine same ?_ staffed
        unfold heartbeat
        split <;> rfl
    | tick elapsed =>
        simp only [idleStep] at taken
        split at taken
        · obtain rfl := Option.some.inj taken
          exact served staffed
        · cases taken
    | workerGet w sink raises => exact workerGet_served evented bounded served condition taken
    | workerReput w =>
        simp only [idleStep, workerReput] at taken
        split at taken
        · next item found =>
            split at taken
            · obtain rfl := Option.some.inj taken
              exact served_landed found .sleeping false rfl
            · cases taken
        · cases taken
    | workerWake w =>
        simp only [idleStep, workerWake] at taken
        split at taken
        · next found =>
            obtain rfl := Option.some.inj taken
            exact served_landed found .getting false rfl
        · cases taken
    | workerResume w sink => exact workerResume_served condition taken
    | workerRetryPut w =>
        simp only [idleStep, workerRetryPut] at taken
        split at taken
        · next item retry found =>
            split at taken
            · obtain rfl := Option.some.inj taken
              exact served_landed found .getting false rfl
            · cases taken
        · cases taken
    | workerTimeout w =>
        simp only [idleStep, workerTimeout] at taken
        split at taken
        · next wait flagged found =>
            split at taken
            · split at taken
              · obtain rfl := Option.some.inj taken
                exact served_landed found (.awaiting { wait with expired := true }) false rfl
              · obtain rfl := Option.some.inj taken
                exact served_landed found
                  (.awaiting { wait with expired := true, mustCancel := true }) false rfl
            · cases taken
        · cases taken
    | handlerFinish task outcome =>
        simp only [idleStep, handlerFinish] at taken
        split at taken
        · obtain rfl := Option.some.inj taken
          exact served staffed
        · cases taken
    | recoverStart =>
        obtain rfl := Option.some.inj taken
        revert staffed
        simp only [recoverStart]
        split
        · exact served_spawn served _
        · exact served
    | recoverScan sink => cases taken
    | recoverResume i sink =>
        simp only [idleStep, recoverResume] at taken
        split at taken
        · split at taken
          · split at taken
            · obtain rfl := Option.some.inj taken
              exact same (settle_pool i _ _ _) staffed
            · cases taken
          · cases taken
        · cases taken
    | recoverPut i =>
        simp only [idleStep, recoverPut] at taken
        split at taken
        · split at taken
          · split at taken
            · obtain rfl := Option.some.inj taken
              exact served staffed
            · cases taken
          · cases taken
        · cases taken
  · split at taken
    · split at taken
      · obtain rfl := Option.some.inj taken
        exact same (recoverScan_pool _ _) staffed
      · cases taken
    · cases taken

end Steps

structure Supplied (cfg : Config) (s : QueueState) : Prop where
  sound : Sound s
  evented : Evented s
  bounded : s.queue.length ≤ cfg.maxSize
  served : s.pool ≠ [] → Served s.pool

theorem supplied_initial (cfg : Config) : Supplied cfg initial :=
  ⟨sound_initial, evented_initial, Nat.zero_le _, fun staffed => absurd rfl staffed⟩

theorem supplied_step {cfg : Config} {s t : QueueState} {a : Action} (supplied : Supplied cfg s)
    (unblocked : Unblocked cfg s a) (taken : step cfg s a = some t) : Supplied cfg t := by
  have amounts := step_amounts cfg s t a taken
  refine ⟨?_, ?_, ?_, ?_⟩
  · exact amounts_keeps (fun _ _ held effect => sound_effect held effect)
      (fun _ held effect => sound_effect held effect) supplied.sound amounts
  · exact amounts_keeps (fun _ _ held effect => evented_effect held effect)
      (fun _ held effect => evented_effect held effect) supplied.evented amounts
  · exact @amounts_keeps cfg (fun u => u.queue.length ≤ cfg.maxSize) s t _
      (fun _ _ held effect => bounded_effect held effect)
      (fun _ held effect => bounded_effect held effect) supplied.bounded amounts
  · exact served_step supplied.evented supplied.bounded supplied.served unblocked taken

def Action.byWorker (w : Nat) : Action → Prop
  | .workerGet v _ _ | .workerReput v | .workerWake v | .workerResume v _ | .workerRetryPut v
  | .workerCancelled v => v = w
  | _ => False

theorem getting_progress {cfg : Config} {s : QueueState} {w : Nat}
    (found : s.pool[w]? = some ⟨.getting, false⟩) (queued : s.queue ≠ []) :
    ∃ t, workerGet cfg accepts false w s = some t := by
  obtain ⟨item, rest, front⟩ := List.exists_cons_of_ne_nil queued
  simp only [workerGet, found, front]
  repeat' split
  all_goals exact ⟨_, rfl⟩

/-- A worker that is not suspended in a put has something to do. -/
theorem serving_progress {cfg : Config} {s : QueueState} (sound : Sound s)
    (idle : s.scanning = none) (queued : s.queue ≠ [])
    (quiet : ∀ task, live s.tasks task = false) (served : Served s.pool) :
    ∃ w a t, Action.byWorker w a ∧ step cfg s a = some t := by
  obtain ⟨⟨pc, flagged⟩, member, serving⟩ := served
  obtain ⟨w, found⟩ := List.mem_iff_getElem?.mp member
  have idly (a : Action) : step cfg s a = idleStep cfg s a := by
    unfold step
    rw [idle]
  have ended (suspended : pc = .getting ∨ pc = .sleeping) (marked : flagged = true) :
      ∃ t, step cfg s (.workerCancelled w) = some t := by
    subst marked
    rw [idly]
    rcases suspended with rfl | rfl
    · exact ⟨_, by simp only [idleStep, workerCancelled, found]; rfl⟩
    · exact ⟨_, by simp only [idleStep, workerCancelled, found]; rfl⟩
  cases pc with
  | reputting | retrying | done => cases serving
  | getting =>
      cases flagged with
      | false =>
          obtain ⟨t, taken⟩ := getting_progress found queued
          exact ⟨w, .workerGet w accepts, t, rfl, (idly _).trans taken⟩
      | true =>
          obtain ⟨t, taken⟩ := ended (Or.inl rfl) rfl
          exact ⟨w, .workerCancelled w, t, rfl, taken⟩
  | sleeping =>
      cases flagged with
      | false =>
          refine ⟨w, .workerWake w, s.setPc w .getting, rfl, (idly _).trans ?_⟩
          simp only [idleStep, workerWake, found]
      | true =>
          obtain ⟨t, taken⟩ := ended (Or.inr rfl) rfl
          exact ⟨w, .workerCancelled w, t, rfl, taken⟩
  | awaiting wait =>
      have begun := sound.attended.matched w wait (pcAt_found found)
      obtain ⟨handler, present, _⟩ := Option.map_eq_some_iff.mp begun
      have finished := quiet wait.task
      simp only [live, present, decide_eq_false_iff_not] at finished
      obtain ⟨outcome, over_⟩ := Option.ne_none_iff_exists'.mp finished
      refine ⟨w, .workerResume w accepts,
        concludeExecute cfg accepts w wait.item (wait.result outcome) s, rfl, (idly _).trans ?_⟩
      simp only [idleStep, workerResume, found, present, Option.bind_some, over_, Option.map_some]

/-- Workers are never all stuck in puts, and once there are workers, work that waits is worked
on. -/
theorem workers_progress (cfg : Config) (s : QueueState)
    (run : Reaches (step cfg) (Unblocked cfg) initial s) :
    ¬ Deadlocked cfg s ∧
      (s.scanning = none → s.pool ≠ [] → s.queue ≠ [] → (∀ task, live s.tasks task = false) →
        ∃ w a t, Action.byWorker w a ∧ step cfg s a = some t) := by
  have supplied : Supplied cfg s := run.invariant (Supplied cfg) (supplied_initial cfg)
    (fun _ _ _ held unblocked taken => supplied_step held unblocked taken)
  refine ⟨not_deadlocked supplied.served, ?_⟩
  intro idle staffed queued quiet
  exact serving_progress supplied.sound idle queued quiet (supplied.served staffed)

def retryOnFull : List Action :=
  [.start, .enqueue (sampleJob 2 two_attempts) 0 accepts, .workerGet 0 accepts,
    .enqueue otherJob 0 accepts, .handlerFinish 0 .retryable, .workerResume 0 accepts]

def retryItem : WorkItem := ⟨(sampleJob 2 two_attempts).retry (by decide), 0⟩

def twoWorkers : Config := sampleConfig 2 1 (by decide) (by decide)

def oneWorker : Config := sampleConfig 1 1 one_worker (by decide)

theorem ended_quiet {tasks : List HandlerTask} (ended : ∀ task ∈ tasks, task.outcome ≠ none)
    (task : Nat) : live tasks task = false := by
  unfold live
  cases present : tasks[task]? with
  | none => rfl
  | some handler => exact decide_eq_false (ended handler (List.mem_of_getElem? present))

theorem workers_progress_spared : ∃ s, Reaches (step twoWorkers) (Unblocked twoWorkers) initial s ∧
    s.pool[0]? = some ⟨.retrying ⟨sampleJob 2 (by decide), 0⟩ retryItem, false⟩ ∧
    s.queue = [⟨otherJob, 0⟩] ∧ ¬ Deadlocked twoWorkers s ∧
    ∃ w a t, Action.byWorker w a ∧ step twoWorkers s a = some t := by
  obtain ⟨s, executed, observed⟩ := Option.map_eq_some_iff.mp
    (show (execute (step twoWorkers) (fun u a => decide (Unblocked twoWorkers u a)) initial
        retryOnFull).map (fun s => (s.pool[0]?, s.queue, s.scanning,
          decide (s.pool ≠ []),
          decide (∀ task ∈ s.tasks, task.outcome ≠ none))) =
      some (some ⟨.retrying ⟨sampleJob 2 (by decide), 0⟩ retryItem, false⟩, [⟨otherJob, 0⟩], none,
        true, true) by decide)
  simp only [Prod.mk.injEq, decide_eq_true_eq] at observed
  obtain ⟨suspended, queue, idle, staffed, ended⟩ := observed
  have run := execute_reaches (fun _ _ passed => of_decide_eq_true passed) retryOnFull initial s
    executed
  obtain ⟨free, progress⟩ := workers_progress twoWorkers s run
  refine ⟨s, run, suspended, queue, free, progress idle staffed ?_ (ended_quiet ended)⟩
  rw [queue]
  exact List.cons_ne_nil _ _

theorem suspended_stuck {cfg : Config} {s : QueueState} {w : Nat} {item retry : WorkItem}
    (at_ : s.pool[w]? = none ∨ s.pool[w]? = some ⟨.retrying item retry, false⟩)
    (full : ¬ s.queue.length < cfg.maxSize) (a : Action) (own : Action.byWorker w a) :
    idleStep cfg s a = none := by
  cases a with
  | workerGet v sink raises =>
      obtain rfl := own
      rcases at_ with absent | stuck
      · simp only [idleStep, workerGet, absent]
      · simp only [idleStep, workerGet, stuck]
  | workerReput v =>
      obtain rfl := own
      rcases at_ with absent | stuck
      · simp only [idleStep, workerReput, absent]
      · simp only [idleStep, workerReput, stuck]
  | workerWake v =>
      obtain rfl := own
      rcases at_ with absent | stuck
      · simp only [idleStep, workerWake, absent]
      · simp only [idleStep, workerWake, stuck]
  | workerResume v sink =>
      obtain rfl := own
      rcases at_ with absent | stuck
      · simp only [idleStep, workerResume, absent]
      · simp only [idleStep, workerResume, stuck]
  | workerRetryPut v =>
      obtain rfl := own
      rcases at_ with absent | stuck
      · simp only [idleStep, workerRetryPut, absent]
      · simp only [idleStep, workerRetryPut, stuck, if_neg full]
  | workerCancelled v =>
      obtain rfl := own
      rcases at_ with absent | stuck
      · simp only [idleStep, workerCancelled, absent]
      · simp only [idleStep, workerCancelled, stuck]
  | _ => exact own.elim

/-- With one worker and one place the same run is stuck for good: the only consumer of the queue
waits for a place in it. -/
theorem workers_deadlock : ∃ s, Reaches (step oneWorker) (fun _ a => Undirected a) initial s ∧
    Deadlocked oneWorker s ∧ s.queue ≠ [] ∧ (∀ task, live s.tasks task = false) ∧
    ∀ w a, Action.byWorker w a → step oneWorker s a = none := by
  obtain ⟨s, executed, observed⟩ := Option.map_eq_some_iff.mp
    (show (execute (step oneWorker) (fun _ a => decide (Undirected a)) initial retryOnFull).map
        (fun s => (s.pool, s.queue, s.scanning, decide (∀ task ∈ s.tasks, task.outcome ≠ none))) =
      some ([⟨.retrying ⟨sampleJob 2 (by decide), 0⟩ retryItem, false⟩], [⟨otherJob, 0⟩], none,
        true) by decide)
  simp only [Prod.mk.injEq, decide_eq_true_eq] at observed
  obtain ⟨pool, queue, idle, ended⟩ := observed
  have run := @execute_reaches _ _ (step oneWorker) _ (fun _ a => Undirected a)
    (fun _ _ passed => of_decide_eq_true passed) retryOnFull initial s executed
  refine ⟨s, run, ⟨?_, ?_, ?_⟩, ?_, ended_quiet ended, ?_⟩
  · rw [pool]
    exact ⟨_, List.mem_cons_self, by simp⟩
  · rw [pool]
    intro worker member _
    rw [List.mem_singleton.mp member]
    rfl
  · rw [queue]
    decide
  · rw [queue]
    exact List.cons_ne_nil _ _
  · intro w a own
    have full : ¬ s.queue.length < oneWorker.maxSize := by
      rw [queue]
      decide
    have at_ : s.pool[w]? = none ∨
        s.pool[w]? = some ⟨.retrying ⟨sampleJob 2 (by decide), 0⟩ retryItem, false⟩ := by
      rw [pool]
      cases w with
      | zero => exact Or.inr rfl
      | succ w => exact Or.inl rfl
    simp only [step, idle]
    exact suspended_stuck at_ full a own

end SynapseOS.Queue
