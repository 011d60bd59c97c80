import SynapseOS.Queue.Progress

/-! What one step of the event loop does to one worker, said once. -/

namespace SynapseOS.Queue

variable {cfg : Config} {sink : Sink} {s t : QueueState} {w v : Nat}

theorem step_idle {a : Action} (taken : step cfg s a = some t)
    (other : ∀ sink, a ≠ .recoverScan sink) : s.scanning = none ∧ idleStep cfg s a = some t := by
  unfold step at taken
  split at taken
  · next idle => exact ⟨idle, taken⟩
  · split at taken
    · next sink call found => exact absurd rfl (other sink)
    · cases taken

theorem step_resting {a : Action} (idle : s.scanning = none) : step cfg s a = idleStep cfg s a := by
  unfold step
  rw [idle]

theorem step_scanning (taken : step cfg s (.recoverScan sink) = some t) :
    ∃ i call, s.scanning = some i ∧ s.recoveries[i]? = some call ∧ call.pc = .scanning ∧
      t = recoverScan cfg sink i call s := by
  unfold step at taken
  split at taken
  · cases taken
  · next i holding =>
      cases found : s.recoveries[i]? with
      | none =>
          rw [found] at taken
          cases taken
      | some call =>
          rw [found] at taken
          dsimp only at taken
          split at taken
          · next scanning => exact ⟨i, call, holding, found, scanning, (Option.some.inj taken).symm⟩
          · cases taken

inductive Pushed (old new : Option Worker) : Prop
  | still (same : new = old)
  | marked (wait marked : HandlerWait) (flagged mark : Bool)
      (found : old = some ⟨.awaiting wait, flagged⟩)
      (now : new = some ⟨.awaiting marked, mark⟩)
      (same : marked.item = wait.item ∧ marked.task = wait.task)
      (kept : wait.cancelled = true → marked.cancelled = true)
  | flagged (pc : WorkerPc) (flagged : Bool) (found : old = some ⟨pc, flagged⟩)
      (suspended : pc.interruptible = true) (now : new = some ⟨pc, true⟩)

inductive Turn (cfg : Config) (s : QueueState) (a : Action) (t : QueueState) (w : Nat) : Prop
  | pushed (pushed : Pushed s.pool[w]? t.pool[w]?)
  | moved (pc : WorkerPc) (found : s.pool[w]? = some ⟨pc, false⟩)
      (suspended : pc.interruptible = true)
  | ended (pc : WorkerPc) (own : a = .workerCancelled w) (found : s.pool[w]? = some ⟨pc, true⟩)
      (suspended : pc.interruptible = true) (now : t.pool[w]? = some ⟨.done, false⟩)
  | resumed (sink : Sink) (wait : HandlerWait) (flagged : Bool) (outcome : HandlerOutcome)
      (own : a = .workerResume w sink) (found : s.pool[w]? = some ⟨.awaiting wait, flagged⟩)
      (finished : s.tasks[wait.task]?.bind HandlerTask.outcome = some outcome)
      (after : t = concludeExecute cfg sink w wait.item (wait.result outcome) s)
  | spawned (absent : s.pool[w]? = none)

theorem Pushed.trans {old middle new : Option Worker} (first : Pushed old middle)
    (second : Pushed middle new) : Pushed old new := by
  cases second with
  | still same =>
      rw [same]
      exact first
  | marked wait marked flagged mark found now same kept =>
      cases first with
      | still equal => exact .marked wait marked flagged mark (equal ▸ found) now same kept
      | marked before between _ _ here there equal held =>
          obtain ⟨rfl, _⟩ : between = wait ∧ _ := by
            have both := Option.some.inj (there.symm.trans found)
            exact ⟨WorkerPc.awaiting.inj (congrArg Worker.pc both), trivial⟩
          exact .marked before marked _ mark here now ⟨same.1.trans equal.1, same.2.trans equal.2⟩
            fun cancelled => kept (held cancelled)
      | flagged pc _ _ suspended there =>
          have both := congrArg Worker.pc (Option.some.inj (there.symm.trans found))
          obtain rfl : pc = .awaiting wait := both
          cases suspended
  | flagged pc flagged found suspended now =>
      cases first with
      | still equal => exact .flagged pc flagged (equal ▸ found) suspended now
      | marked _ between _ _ _ there =>
          have both := congrArg Worker.pc (Option.some.inj (there.symm.trans found))
          obtain rfl : .awaiting between = pc := both
          cases suspended
      | flagged before _ here _ there =>
          have both := congrArg Worker.pc (Option.some.inj (there.symm.trans found))
          obtain rfl : before = pc := both
          exact .flagged before _ here suspended now

theorem pushed_set {pool : List Worker} {next : Worker} (other : v ≠ w) :
    Pushed pool[w]? (pool.set v next)[w]? :=
  .still (List.getElem?_set_ne other)

theorem set_found {pool : List Worker} {old next : Worker} (found : pool[w]? = some old) :
    (pool.set w next)[w]? = some next :=
  List.getElem?_set_self (List.getElem?_eq_some_iff.mp found).1

theorem cancelWorker_pushed (v w : Nat) (s : QueueState) : Pushed s.pool[w]?
    (cancelWorker v s).pool[w]? := by
  unfold cancelWorker
  split
  · next wait flagged found =>
      by_cases own : v = w
      · subst own
        split
        · exact .marked wait _ flagged false found (set_found found) ⟨rfl, rfl⟩ fun _ => rfl
        · exact .marked wait _ flagged false found (set_found found) ⟨rfl, rfl⟩ fun _ => rfl
      · split
        · exact pushed_set own
        · exact pushed_set own
  · exact .still rfl
  · next pc flagged waiting done found =>
      by_cases own : v = w
      · subst own
        refine .flagged pc flagged found ?_ (set_found found)
        cases pc with
        | getting | reputting | sleeping | retrying => rfl
        | awaiting wait => exact absurd rfl (waiting wait)
        | done => exact absurd rfl done
      · exact pushed_set own
  · exact .still rfl

theorem cancelWorkers_pushed (workers : List Nat) (w : Nat) (s : QueueState) :
    Pushed s.pool[w]? (workers.foldl (fun s w => cancelWorker w s) s).pool[w]? := by
  induction workers generalizing s with
  | nil => exact .still rfl
  | cons first rest ih => exact (cancelWorker_pushed first w s).trans (ih (cancelWorker first s))

theorem stop_pushed (w : Nat) (s : QueueState) : Pushed s.pool[w]? (stop s).pool[w]? := by
  have all := cancelWorkers_pushed s.workers w { s with stopping := true }
  unfold stop
  dsimp only
  split
  · exact all
  · exact all

theorem spawn_turn {a : Action} {count : Nat}
    (pool : t.pool = s.pool ++ List.replicate count ⟨.getting, false⟩)
    (w : Nat) : Turn cfg s a t w := by
  by_cases inside : w < s.pool.length
  · refine .pushed (.still ?_)
    rw [pool, List.getElem?_append_left inside]
  · exact .spawned (List.getElem?_eq_none (Nat.not_lt.mp inside))

theorem moved_turn {a : Action} {pc : WorkerPc} {next : Worker}
    (found : s.pool[v]? = some ⟨pc, false⟩)
    (suspended : pc.interruptible = true) (pool : t.pool = s.pool.set v next)
    (w : Nat) : Turn cfg s a t w := by
  by_cases own : v = w
  · subst own
    exact .moved pc found suspended
  · refine .pushed (.still ?_)
    rw [pool, List.getElem?_set_ne own]

theorem same_turn {a : Action} (pool : t.pool = s.pool) (w : Nat) : Turn cfg s a t w := by
  refine .pushed (.still ?_)
  rw [pool]

theorem workerGet_turn {a : Action} {raises : Bool} (taken : workerGet cfg sink raises v s = some t)
    (w : Nat) : Turn cfg s a t w := by
  unfold workerGet at taken
  split at taken
  · next item rest found front =>
      dsimp only at taken
      split at taken
      · obtain rfl := Option.some.inj taken
        exact .pushed (.still rfl)
      · split at taken
        · split at taken
          · obtain rfl := Option.some.inj taken
            exact moved_turn found rfl rfl w
          · obtain rfl := Option.some.inj taken
            exact moved_turn found rfl rfl w
        · obtain rfl := Option.some.inj taken
          let locks := s.taskLocks.setDefault item.job.taskId false
          obtain ⟨next, pool, _⟩ := @beginExecute_pc cfg sink
            { s with queue := rest, taskLocks := locks.set item.job.taskId true } raises v item
          exact moved_turn found rfl pool w
  · cases taken

theorem workerTimeout_turn {a : Action} (taken : workerTimeout v s = some t)
    (w : Nat) : Turn cfg s a t w := by
  unfold workerTimeout at taken
  split at taken
  · next wait flagged found =>
      split at taken
      · by_cases own : v = w
        · subst own
          split at taken
          · obtain rfl := Option.some.inj taken
            exact .pushed (.marked wait _ flagged false found (set_found found) ⟨rfl, rfl⟩ id)
          · obtain rfl := Option.some.inj taken
            exact .pushed (.marked wait _ flagged false found (set_found found) ⟨rfl, rfl⟩ id)
        · split at taken
          · obtain rfl := Option.some.inj taken
            exact .pushed (pushed_set own)
          · obtain rfl := Option.some.inj taken
            exact .pushed (pushed_set own)
      · cases taken
  · cases taken

theorem workerCancelled_turn (taken : workerCancelled v s = some t) (w : Nat) :
    Turn cfg s (.workerCancelled v) t w := by
  have ends {pc : WorkerPc} (found : s.pool[v]? = some ⟨pc, true⟩)
      (suspended : pc.interruptible = true)
      (pool : t.pool = s.pool.set v ⟨.done, false⟩) : Turn cfg s (.workerCancelled v) t w := by
    by_cases own : v = w
    · subst own
      refine .ended pc rfl found suspended ?_
      rw [pool]
      exact set_found found
    · refine .pushed (.still ?_)
      rw [pool, List.getElem?_set_ne own]
  unfold workerCancelled at taken
  split at taken
  · next item retry found => exact ends found rfl (Option.some.inj taken ▸ rfl)
  · next found => exact ends found rfl (Option.some.inj taken ▸ rfl)
  · next found => exact ends found rfl (Option.some.inj taken ▸ rfl)
  · next item found => exact ends found rfl (Option.some.inj taken ▸ rfl)
  · cases taken

theorem workerResume_turn (taken : workerResume cfg sink v s = some t) (w : Nat) :
    Turn cfg s (.workerResume v sink) t w := by
  unfold workerResume at taken
  split at taken
  · next wait flagged found =>
      obtain ⟨outcome, finished, rfl⟩ := Option.map_eq_some_iff.mp taken
      by_cases own : v = w
      · subst own
        exact .resumed sink wait flagged outcome rfl found finished rfl
      · obtain ⟨next, pool, _⟩ := @concludeExecute_pc cfg sink s v wait.item (wait.result outcome)
        refine .pushed (.still ?_)
        rw [pool, List.getElem?_set_ne own]
  · cases taken

theorem recoverResume_pool {i : Nat} (taken : recoverResume cfg sink i s = some t) :
    t.pool = s.pool := by
  unfold recoverResume at taken
  split at taken
  · next call found =>
      split at taken
      · split at taken
        · obtain rfl := Option.some.inj taken
          exact settle_pool i call _ _
        · cases taken
      · cases taken
  · cases taken

theorem recoverPut_pool {i : Nat} (taken : recoverPut cfg i s = some t) : t.pool = s.pool := by
  unfold recoverPut at taken
  split at taken
  · split at taken
    · split at taken
      · obtain rfl := Option.some.inj taken
        rfl
      · cases taken
    · cases taken
  · cases taken

theorem stopReturn_pool {i : Nat} (taken : stopReturn i s = some t) : t.pool = s.pool := by
  unfold stopReturn at taken
  obtain ⟨gathered, _, rest⟩ := Option.bind_eq_some_iff.mp taken
  split at rest
  · obtain rfl := Option.some.inj rest
    rfl
  · cases rest

theorem turn_step {a : Action} (taken : step cfg s a = some t) (w : Nat) : Turn cfg s a t w := by
  cases a with
  | recoverScan sink =>
      obtain ⟨i, call, _, _, _, rfl⟩ := step_scanning taken
      exact same_turn (recoverScan_pool i call) w
  | enqueue job handler sink =>
      obtain rfl := Option.some.inj (step_idle taken (by simp)).2
      exact same_turn (enqueue_pool job handler) w
  | cancel runId sink =>
      obtain rfl := Option.some.inj (step_idle taken (by simp)).2
      exact same_turn (cancel_pool runId) w
  | start =>
      obtain rfl := Option.some.inj (step_idle taken (by simp)).2
      unfold start
      split
      · exact .pushed (.still rfl)
      · exact spawn_turn rfl w
  | stop => exact .pushed (Option.some.inj (step_idle taken (by simp)).2 ▸ stop_pushed w s)
  | stopReturn i => exact same_turn (stopReturn_pool (step_idle taken (by simp)).2) w
  | heartbeat runId =>
      obtain rfl := Option.some.inj (step_idle taken (by simp)).2
      unfold heartbeat
      split
      · exact .pushed (.still rfl)
      · exact .pushed (.still rfl)
  | tick elapsed =>
      have moved := (step_idle taken (by simp)).2
      simp only [idleStep] at moved
      split at moved
      · obtain rfl := Option.some.inj moved
        exact .pushed (.still rfl)
      · cases moved
  | workerGet v sink raises => exact workerGet_turn (step_idle taken (by simp)).2 w
  | workerReput v =>
      have moved := (step_idle taken (by simp)).2
      simp only [idleStep, workerReput] at moved
      split at moved
      · next item found =>
          split at moved
          · obtain rfl := Option.some.inj moved
            exact moved_turn found rfl rfl w
          · cases moved
      · cases moved
  | workerWake v =>
      have moved := (step_idle taken (by simp)).2
      simp only [idleStep, workerWake] at moved
      split at moved
      · next found =>
          obtain rfl := Option.some.inj moved
          exact moved_turn found rfl rfl w
      · cases moved
  | workerResume v sink => exact workerResume_turn (step_idle taken (by simp)).2 w
  | workerRetryPut v =>
      have moved := (step_idle taken (by simp)).2
      simp only [idleStep, workerRetryPut] at moved
      split at moved
      · next item retry found =>
          split at moved
          · obtain rfl := Option.some.inj moved
            exact moved_turn found rfl rfl w
          · cases moved
      · cases moved
  | workerTimeout v => exact workerTimeout_turn (step_idle taken (by simp)).2 w
  | workerCancel v =>
      exact .pushed (Option.some.inj (step_idle taken (by simp)).2 ▸ cancelWorker_pushed v w s)
  | workerCancelled v => exact workerCancelled_turn (step_idle taken (by simp)).2 w
  | handlerFinish task outcome =>
      have moved := (step_idle taken (by simp)).2
      simp only [idleStep, handlerFinish] at moved
      split at moved
      · obtain rfl := Option.some.inj moved
        exact .pushed (.still rfl)
      · cases moved
  | recoverStart =>
      obtain rfl := Option.some.inj (step_idle taken (by simp)).2
      unfold recoverStart
      dsimp only
      split
      · exact spawn_turn rfl w
      · exact .pushed (.still rfl)
  | recoverResume i sink => exact same_turn (recoverResume_pool (step_idle taken (by simp)).2) w
  | recoverPut i => exact same_turn (recoverPut_pool (step_idle taken (by simp)).2) w

theorem awaiting_turn {a : Action} {wait : HandlerWait}
    (waits : pcAt s.pool w = some (.awaiting wait))
    (turn : Turn cfg s a t w) (other : ∀ sink, a ≠ .workerResume w sink) :
    ∃ later, pcAt t.pool w = some (.awaiting later) ∧ later.item = wait.item ∧
    later.task = wait.task := by
  obtain ⟨⟨pc, flagged⟩, found, rfl⟩ := Option.map_eq_some_iff.mp waits
  cases turn with
  | pushed pushed =>
      cases pushed with
      | still same => exact ⟨wait, by rw [pcAt, same]; exact waits, rfl, rfl⟩
      | marked before marked mark later there now same kept =>
          rw [found] at there
          obtain rfl := WorkerPc.awaiting.inj (congrArg Worker.pc (Option.some.inj there))
          exact ⟨marked, pcAt_found now, same⟩
      | flagged other mark there suspended now =>
          rw [found] at there
          obtain rfl := congrArg Worker.pc (Option.some.inj there)
          cases suspended
  | moved other there suspended =>
      rw [found] at there
      obtain rfl := congrArg Worker.pc (Option.some.inj there)
      cases suspended
  | ended other own there suspended now =>
      rw [found] at there
      obtain rfl := congrArg Worker.pc (Option.some.inj there)
      cases suspended
  | resumed sink _ _ _ own => exact absurd own (other sink)
  | spawned absent => cases found.symm.trans absent

end SynapseOS.Queue
