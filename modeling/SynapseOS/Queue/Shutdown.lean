import SynapseOS.Lib.Schedules
import SynapseOS.Queue.Markers

/-! Which cancellations `_execute` swallows, and how `stop` ends. -/

namespace SynapseOS.Queue

open Transition Relation

def HandlerAt (holds : HandlerTask → Prop) (tasks : List HandlerTask) (task : Nat) : Prop :=
  ∃ handler, tasks[task]? = some handler ∧ holds handler

def Ended : List HandlerTask → Nat → Prop := HandlerAt fun handler => handler.outcome ≠ none

def Notified : List HandlerTask → Nat → Prop :=
  HandlerAt fun handler => handler.cancelRequested = true ∨ handler.outcome ≠ none

/-- The worker has ended, or a cancellation of it is on its way. -/
def Worker.Doomed (tasks : List HandlerTask) : Worker → Prop
  | ⟨.done, _⟩ => True
  | ⟨.awaiting wait, _⟩ => wait.cancelled = true ∧ Notified tasks wait.task
  | ⟨_, flagged⟩ => flagged = true

def Doomed (s : QueueState) (w : Nat) : Prop := ∃ worker, s.pool[w]? = some worker ∧
    worker.Doomed s.tasks

section Doomed

variable {cfg : Config} {sink : Sink} {label : Label} {s t : QueueState} {w : Nat} {task : Nat}

theorem quiet_keeps (inv : QueueState → Prop) (keeps : ∀ u v, inv u → Effect cfg u .quiet v → inv v)
    (initial : inv s) (quiet : Quiet cfg s t) : inv t := by
  induction quiet with
  | refl => exact initial
  | tail _ last ih => exact keeps _ _ ih last

theorem handlerAt_modify {holds : HandlerTask → Prop} {tasks : List HandlerTask}
    (held : HandlerAt holds tasks task)
    (other : Nat) (f : HandlerTask → HandlerTask)
    (keeps : ∀ handler, holds handler → holds (f handler)) :
    HandlerAt holds (tasks.modify other f) task := by
  obtain ⟨handler, present, told⟩ := held
  by_cases own : other = task
  · subst own
    refine ⟨f handler, ?_, keeps handler told⟩
    rw [List.getElem?_modify_eq, present]
    rfl
  · refine ⟨handler, ?_, told⟩
    rw [List.getElem?_modify, present]
    exact congrArg some (if_neg own)

theorem handlerAt_effect {holds : HandlerTask → Prop}
    (told : ∀ handler : HandlerTask, holds handler → holds { handler with cancelRequested := true })
    (ended : ∀ (handler : HandlerTask) outcome, holds handler →
      holds { handler with outcome := some outcome })
    (held : HandlerAt holds s.tasks task) (effect : Effect cfg s label t) :
    HandlerAt holds t.tasks task := by
  cases effect with
  | touch other =>
      refine handlerAt_modify held other _ fun handler holds_ => ?_
      split
      · exact told handler holds_
      · exact holds_
  | finish other outcome active =>
      exact handlerAt_modify held other (fun handler => { handler with outcome := some outcome })
        fun handler => ended handler outcome
  | begin =>
      obtain ⟨handler, present, holds_⟩ := held
      exact ⟨handler,
        (List.getElem?_append_left (List.getElem?_eq_some_iff.mp present).1).trans present, holds_⟩
  | _ => exact held

theorem notified_effect (notified : Notified s.tasks task) (effect : Effect cfg s label t) :
    Notified t.tasks task :=
  handlerAt_effect (fun _ _ => Or.inl rfl) (fun _ _ _ => Or.inr nofun) notified effect

theorem notified_step {a : Action} (notified : Notified s.tasks task)
    (taken : step cfg s a = some t) : Notified t.tasks task :=
  @amounts_keeps cfg (fun u => Notified u.tasks task) s t _
    (fun _ _ held effect => notified_effect held effect)
    (fun _ held effect => notified_effect held effect) notified (step_amounts cfg s t a taken)

theorem ended_effect (ended : Ended s.tasks task) (effect : Effect cfg s label t) :
    Ended t.tasks task :=
  handlerAt_effect (fun _ ended => ended) (fun _ _ _ => nofun) ended effect

theorem ended_step {a : Action} (ended : Ended s.tasks task) (taken : step cfg s a = some t) :
    Ended t.tasks task :=
  @amounts_keeps cfg (fun u => Ended u.tasks task) s t _
    (fun _ _ held effect => ended_effect held effect)
    (fun _ held effect => ended_effect held effect) ended (step_amounts cfg s t a taken)

theorem Worker.Doomed.mono {tasks later : List HandlerTask} {worker : Worker}
    (doomed : worker.Doomed tasks)
    (notified : ∀ task, Notified tasks task → Notified later task) : worker.Doomed later := by
  obtain ⟨pc, flagged⟩ := worker
  cases pc with
  | awaiting wait => exact ⟨doomed.1, notified wait.task doomed.2⟩
  | done => trivial
  | getting | reputting | sleeping | retrying => exact doomed

theorem doomed_flagged {tasks : List HandlerTask} {pc : WorkerPc}
    (suspended : pc.interruptible = true) : (⟨pc, true⟩ : Worker).Doomed tasks := by
  cases pc with
  | awaiting | done => cases suspended
  | getting | reputting | sleeping | retrying => rfl

theorem doomed_unflagged {tasks : List HandlerTask} {pc : WorkerPc}
    (suspended : pc.interruptible = true)
    (doomed : (⟨pc, false⟩ : Worker).Doomed tasks) : False := by
  cases pc with
  | awaiting | done => cases suspended
  | getting | reputting | sleeping | retrying => exact nomatch doomed

theorem doomed_pushed {worker : Worker} (found : s.pool[w]? = some worker)
    (doomed : worker.Doomed s.tasks)
    (pushed : Pushed s.pool[w]? t.pool[w]?)
    (notified : ∀ task, Notified s.tasks task → Notified t.tasks task) :
    Doomed t w := by
  cases pushed with
  | still same => exact ⟨worker, same.trans found, doomed.mono notified⟩
  | marked wait marked flagged mark before now same kept =>
      obtain rfl := Option.some.inj (found.symm.trans before)
      refine ⟨_, now, kept doomed.1, ?_⟩
      rw [same.2]
      exact notified wait.task doomed.2
  | flagged pc flagged before suspended now => exact ⟨_, now, doomed_flagged suspended⟩

theorem cancelWorker_dooms (sound : Sound s) (inside : w < s.pool.length) : Doomed
    (cancelWorker w s) w := by
  obtain ⟨⟨pc, flagged⟩, found⟩ : ∃ worker, s.pool[w]? = some worker :=
    ⟨_, List.getElem?_eq_getElem inside⟩
  unfold cancelWorker
  rw [found]
  cases pc with
  | done => exact ⟨_, found, trivial⟩
  | getting | reputting | sleeping | retrying => exact ⟨_, set_found found, rfl⟩
  | awaiting wait =>
      obtain ⟨handler, present, _⟩ :=
        Option.map_eq_some_iff.mp (sound.attended.matched w wait (pcAt_found found))
      dsimp only
      cases active : s.pending wait.task with
      | true =>
          refine ⟨_, set_found found, rfl, { handler with cancelRequested := true }, ?_, Or.inl rfl⟩
          have running : handler.outcome = none := by
            unfold QueueState.pending live at active
            rw [present] at active
            exact of_decide_eq_true active
          show (s.tasks.modify wait.task _)[wait.task]? = _
          rw [List.getElem?_modify_eq, present]
          exact congrArg some (if_pos running)
      | false =>
          refine ⟨_, set_found found, rfl, handler, present, Or.inr ?_⟩
          unfold QueueState.pending live at active
          rw [present] at active
          exact of_decide_eq_false active

theorem cancelWorkers_keep (cfg : Config) (workers : List Nat) (doomed : Doomed s w) :
    Doomed (workers.foldl (fun s w => cancelWorker w s) s) w := by
  obtain ⟨worker, found, ends⟩ := doomed
  refine doomed_pushed found ends (cancelWorkers_pushed workers w s) fun task notified => ?_
  exact quiet_keeps (fun u => Notified u.tasks task)
    (fun _ _ held effect => notified_effect held effect)
    notified (cancelWorkers_effects cfg workers s)

theorem cancelWorker_length (v : Nat) (s : QueueState) :
    (cancelWorker v s).pool.length = s.pool.length := by
  unfold cancelWorker
  split
  · split <;> exact List.length_set
  · rfl
  · exact List.length_set
  · rfl

theorem cancelWorkers_doom (cfg : Config) (workers : List Nat) (sound : Sound s)
    (inside : ∀ w ∈ workers, w < s.pool.length) :
    ∀ w ∈ workers, Doomed (workers.foldl (fun s w => cancelWorker w s) s) w := by
  induction workers generalizing s with
  | nil => exact nofun
  | cons first rest ih =>
      intro w among
      rw [List.foldl_cons]
      have later : Sound (cancelWorker first s) :=
        quiet_keeps Sound (fun _ _ held effect => sound_effect held effect) sound
          (cancelWorker_effects cfg first s)
      rcases List.mem_cons.mp among with rfl | among
      · exact cancelWorkers_keep cfg rest
          (cancelWorker_dooms sound (inside _ List.mem_cons_self))
      · refine ih later ?_ w among
        intro v member
        rw [cancelWorker_length]
        exact inside v (List.mem_cons_of_mem _ member)

theorem stop_dooms (cfg : Config) (sound : Sound s) (inside : ∀ w ∈ s.workers, w < s.pool.length) :
    ∀ w ∈ s.workers, Doomed (stop s) w := by
  intro w among
  obtain ⟨pool, tasks, _⟩ := stop_frame s
  have stopping : Sound { s with stopping := true } := ⟨sound.exclusive, sound.attended⟩
  obtain ⟨worker, found, ends⟩ := cancelWorkers_doom cfg s.workers stopping inside w among
  exact ⟨worker, pool ▸ found, tasks ▸ ends⟩

theorem doomed_step {a : Action} (calm : Calm s a) (doomed : Doomed s w)
    (stopped : ∃ workers ∈ s.stops, w ∈ workers) (taken : step cfg s a = some t) : Doomed t w := by
  obtain ⟨worker, found, ends⟩ := doomed
  cases turn_step taken w with
  | pushed pushed =>
      exact doomed_pushed found ends pushed fun task notified => notified_step notified taken
  | moved pc before suspended =>
      obtain rfl := Option.some.inj (found.symm.trans before)
      exact absurd ends (doomed_unflagged suspended)
  | ended pc own before suspended now => exact ⟨_, now, trivial⟩
  | resumed sink wait flagged outcome own before finished after =>
      subst own
      have surrendered := calm wait (waitAt_some.mpr (pcAt_found before)) outcome finished
      obtain ⟨cancelled, unmarked⟩ := surrendered.stopped stopped
      rw [cancelled,
        concludeExecute_raised wait.item unmarked (surrendered.unflagged unmarked cancelled)]
          at after
      subst after
      exact ⟨_, set_found before, trivial⟩
  | spawned absent => exact nomatch found.symm.trans absent

theorem done_step {a : Action} (done : workerDone s w = true) (taken : step cfg s a = some t) :
    workerDone t w = true := by
  obtain ⟨flagged, found⟩ : ∃ flagged, s.pool[w]? = some ⟨.done, flagged⟩ := by
    unfold workerDone at done
    split at done
    · next flagged found => exact ⟨flagged, found⟩
    · cases done
  unfold workerDone
  cases turn_step taken w with
  | pushed pushed =>
      cases pushed with
      | still same => rw [same, found]
      | marked wait marked mark other before => exact nomatch found.symm.trans before
      | flagged pc mark before suspended =>
          obtain rfl := congrArg Worker.pc (Option.some.inj (found.symm.trans before))
          cases suspended
  | moved pc before suspended | ended pc own before suspended =>
      obtain rfl := congrArg Worker.pc (Option.some.inj (found.symm.trans before))
      cases suspended
  | resumed sink wait mark outcome own before => exact nomatch found.symm.trans before
  | spawned absent => exact nomatch found.symm.trans absent

end Doomed

section Calls

variable {cfg : Config} {sink : Sink} {label : Label} {s t : QueueState} {w : Nat} {task : Nat}

theorem concludeExecute_calls (item : WorkItem) (result : HandlerOutcome) :
    (concludeExecute cfg sink w item result s).workers = s.workers ∧
      (concludeExecute cfg sink w item result s).stops = s.stops := by
  by_cases cancelled : result = .cancelled
  · subst cancelled
    unfold concludeExecute
    dsimp only
    split
    · exact ⟨rfl, rfl⟩
    · split
      · have aside := @recordOutcome_aside cfg sink s w item.job .cancelled
        exact ⟨aside.workers, aside.stops⟩
      · exact ⟨rfl, rfl⟩
  · have aside := @concludeExecute_aside cfg sink s w item result cancelled
    exact ⟨aside.workers, aside.stops⟩

theorem settle_calls (i : Nat) (call : RecoverCall) (runId : UUID) (job : AgentRunJob) :
    (settle cfg sink i call runId job s).workers = s.workers ∧
      (settle cfg sink i call runId job s).stops = s.stops := by
  unfold settle
  dsimp only
  repeat' split
  all_goals exact ⟨rfl, rfl⟩

theorem recoverScan_calls (i : Nat) (call : RecoverCall) :
    (recoverScan cfg sink i call s).workers = s.workers ∧
    (recoverScan cfg sink i call s).stops = s.stops := by
  unfold recoverScan
  dsimp only
  repeat' split
  all_goals first | exact ⟨rfl, rfl⟩ | exact settle_calls i _ _ _

def Action.settled : Action → Bool
  | .start | .stop | .stopReturn _ | .recoverStart => false
  | _ => true

theorem settled_calls {a : Action} (settled : a.settled = true) (taken : step cfg s a = some t) :
    t.workers = s.workers ∧ t.stops = s.stops := by
  cases a with
  | start | stop | stopReturn | recoverStart => cases settled
  | workerResume w sink =>
      have moved : workerResume cfg sink w s = some t := (step_idle taken nofun).2
      unfold workerResume at moved
      split at moved
      · obtain ⟨outcome, _, rfl⟩ := Option.map_eq_some_iff.mp moved
        exact concludeExecute_calls _ _
      · cases moved
  | recoverScan sink =>
      obtain ⟨i, call, _, _, _, rfl⟩ := step_scanning taken
      exact recoverScan_calls i call
  | recoverResume i sink =>
      have moved : recoverResume cfg sink i s = some t := (step_idle taken nofun).2
      unfold recoverResume at moved
      split at moved
      · split at moved
        · split at moved
          · obtain rfl := Option.some.inj moved
            exact settle_calls i _ _ _
          · cases moved
        · cases moved
      · cases moved
  | recoverPut i =>
      have moved : recoverPut cfg i s = some t := (step_idle taken nofun).2
      unfold recoverPut at moved
      split at moved
      · split at moved
        · split at moved
          · obtain rfl := Option.some.inj moved
            exact ⟨rfl, rfl⟩
          · cases moved
        · cases moved
      · cases moved
  | enqueue | cancel | heartbeat | tick | workerGet | workerReput | workerWake | workerRetryPut
  | workerTimeout
  | workerCancel | workerCancelled | handlerFinish =>
      have aside := plain_aside rfl taken
      exact ⟨aside.workers, aside.stops⟩

theorem stopReturn_cases {i : Nat} (moved : stopReturn i s = some t) :
    ∃ gathered, s.stops[i]? = some gathered ∧
    gathered.all (workerDone s) = true ∧
      t = { s with stops := s.stops.eraseIdx i, workers := [], started := false } := by
  unfold stopReturn at moved
  obtain ⟨gathered, found, rest⟩ := Option.bind_eq_some_iff.mp moved
  split at rest
  · next ended => exact ⟨gathered, found, ended, (Option.some.inj rest).symm⟩
  · cases rest

theorem stops_kept {a : Action} {gathered : List Nat} (waits : gathered ∈ s.stops)
    (taken : step cfg s a = some t) : gathered ∈ t.stops ∨ gathered.all (workerDone s) = true := by
  cases settled : a.settled with
  | true =>
      rw [(settled_calls settled taken).2]
      exact Or.inl waits
  | false =>
      have moved := (step_idle taken (by rintro sink rfl; cases settled)).2
      cases a with
      | start =>
          obtain rfl := Option.some.inj moved
          refine Or.inl ?_
          unfold start
          split <;> exact waits
      | stop =>
          obtain rfl := Option.some.inj moved
          refine Or.inl ?_
          rw [(stop_frame s).2.2.2.2.2]
          split
          · exact waits
          · exact List.mem_append_left _ waits
      | stopReturn i =>
          obtain ⟨own, found, ended, rfl⟩ := stopReturn_cases moved
          by_cases same : gathered = own
          · exact Or.inr (same ▸ ended)
          · refine Or.inl ?_
            obtain ⟨j, present⟩ := List.mem_iff_getElem?.mp waits
            refine List.mem_eraseIdx_iff_getElem?.mpr ⟨j, ?_, present⟩
            intro equal
            subst equal
            exact same (Option.some.inj (present.symm.trans found))
      | recoverStart =>
          obtain rfl := Option.some.inj moved
          refine Or.inl ?_
          unfold recoverStart
          dsimp only
          split <;> exact waits
      | _ => cases settled

theorem stops_fresh {a : Action} {gathered : List Nat} (waits : gathered ∈ t.stops)
    (taken : step cfg s a = some t) : gathered ∈ s.stops ∨ gathered = s.workers ∧ t = stop s := by
  cases settled : a.settled with
  | true =>
      rw [(settled_calls settled taken).2] at waits
      exact Or.inl waits
  | false =>
      have moved := (step_idle taken (by rintro sink rfl; cases settled)).2
      cases a with
      | start =>
          obtain rfl := Option.some.inj moved
          refine Or.inl ?_
          unfold start at waits
          split at waits <;> exact waits
      | stop =>
          obtain rfl := Option.some.inj moved
          rw [(stop_frame s).2.2.2.2.2] at waits
          split at waits
          · exact Or.inl waits
          · rcases List.mem_append.mp waits with before | last
            · exact Or.inl before
            · exact Or.inr ⟨List.mem_singleton.mp last, rfl⟩
      | stopReturn i =>
          obtain ⟨own, found, ended, rfl⟩ := stopReturn_cases moved
          exact Or.inl (List.mem_of_mem_eraseIdx waits)
      | recoverStart =>
          obtain rfl := Option.some.inj moved
          refine Or.inl ?_
          unfold recoverStart at waits
          dsimp only at waits
          split at waits <;> exact waits
      | _ => cases settled

theorem pool_grows (effect : Effect cfg s label t) : s.pool.length ≤ t.pool.length := by
  cases effect with
  | spawn count workers =>
      show s.pool.length ≤ (s.pool ++ List.replicate count (⟨.getting, false⟩ : Worker)).length
      rw [List.length_append]
      exact Nat.le_add_right _ _
  | _ => first | exact le_rfl | exact (List.length_set).ge

theorem workers_spawned {workers : List Nat} {count : Nat}
    (inside : ∀ w ∈ workers, w < s.pool.length) :
    ∀ w ∈ (spawn count { s with workers }).workers, w <
      (spawn count { s with workers }).pool.length := by
  intro w among
  show w < (s.pool ++ List.replicate count (⟨.getting, false⟩ : Worker)).length
  rw [List.length_append, List.length_replicate]
  rcases List.mem_append.mp among with before | fresh
  · exact Nat.lt_add_right count (inside w before)
  · obtain ⟨i, below, rfl⟩ := List.mem_range'.mp fresh
    show s.pool.length + 1 * i < s.pool.length + count
    omega

theorem workers_step {a : Action} (inside : ∀ w ∈ s.workers, w < s.pool.length)
    (taken : step cfg s a = some t) : ∀ w ∈ t.workers, w < t.pool.length := by
  have grows : s.pool.length ≤ t.pool.length :=
    @amounts_keeps cfg (fun u => s.pool.length ≤ u.pool.length) s t _
      (fun _ _ held effect => held.trans (pool_grows effect))
      (fun _ held effect => held.trans (pool_grows effect))
      le_rfl (step_amounts cfg s t a taken)
  have kept (same : t.workers = s.workers) : ∀ w ∈ t.workers, w < t.pool.length := by
    intro w among
    rw [same] at among
    exact (inside w among).trans_le grows
  cases settled : a.settled with
  | true => exact kept (settled_calls settled taken).1
  | false =>
      have moved := (step_idle taken (by rintro sink rfl; cases settled)).2
      cases a with
      | start =>
          obtain rfl := Option.some.inj moved
          unfold start at kept ⊢
          split
          · exact inside
          · exact @workers_spawned { s with started := true, stopping := false } [] _ nofun
      | stop =>
          obtain rfl := Option.some.inj moved
          exact kept (stop_frame s).2.2.2.2.1
      | stopReturn i =>
          obtain ⟨own, found, ended, rfl⟩ := stopReturn_cases moved
          exact nofun
      | recoverStart =>
          obtain rfl := Option.some.inj moved
          unfold recoverStart
          dsimp only
          split
          · exact workers_spawned fun w among => inside w (List.mem_of_mem_filter among)
          · exact inside
      | _ => cases settled

end Calls

section Schedules

variable {cfg : Config} {sink : Sink} {s t : QueueState} {w : Nat} {task : Nat}

structure Poised (s : QueueState) : Prop where
  sound : Sound s
  owned : Owned s
  marked : Marked s
  inside : ∀ w ∈ s.workers, w < s.pool.length
  stopping : ∀ gathered ∈ s.stops, ∀ w ∈ gathered, Doomed s w

theorem poised_initial : Poised initial :=
  ⟨sound_initial, nofun, marked_initial, nofun, nofun⟩

theorem poised_step {a : Action} (poised : Poised s) (calm : Calm s a)
    (taken : step cfg s a = some t) : Poised t := by
  have amounts := step_amounts cfg s t a taken
  refine ⟨?_, ?_, ?_, workers_step poised.inside taken, ?_⟩
  · exact amounts_keeps (fun _ _ held effect => sound_effect held effect)
      (fun _ held effect => sound_effect held effect) poised.sound amounts
  · exact amounts_keeps (fun _ _ held effect => owned_kept held effect)
      (fun _ held effect => owned_kept held effect) poised.owned amounts
  · exact marked_step poised.sound poised.owned poised.marked calm taken
  · intro gathered waits w among
    rcases stops_fresh waits taken with before | ⟨rfl, rfl⟩
    · exact doomed_step calm (poised.stopping gathered before w among) ⟨gathered,
        before, among⟩ taken
    · exact stop_dooms cfg poised.sound poised.inside w among

def Action.ends (w : Nat) : Action → Prop
  | .workerResume v _ => v = w
  | .workerCancelled v => v = w
  | _ => False

def Worker.Due (tasks : List HandlerTask) : Worker → Prop
  | ⟨.awaiting wait, _⟩ => Ended tasks wait.task
  | ⟨.done, _⟩ => False
  | ⟨_, flagged⟩ => flagged = true

def Due (w : Nat) (s : QueueState) : Prop := ∃ worker, s.pool[w]? = some worker ∧ worker.Due s.tasks

/-- Each handler ends once it is told to, and the event loop runs each callback in the end. -/
structure Fairly (future : Schedule (step cfg) Calm) : Prop where
  handlers : ∀ n task, HandlerAt (fun handler => handler.cancelRequested = true)
    (future.states n).tasks task →
    ∃ m ≥ n, Ended (future.states m).tasks task
  workers : ∀ w, future.Fair (Due w) (Action.ends w)

theorem workerDone_of (found : s.pool[w]? = some ⟨.done, false⟩) : workerDone s w = true := by
  unfold workerDone
  rw [found]

theorem ends_done {a : Action} (ends : a.ends w) (calm : Calm s a)
    (stopped : ∃ workers ∈ s.stops, w ∈ workers)
    (taken : step cfg s a = some t) : workerDone t w = true := by
  cases a with
  | workerResume v sink =>
      obtain rfl : v = w := ends
      have moved : workerResume cfg sink v s = some t := (step_idle taken nofun).2
      unfold workerResume at moved
      split at moved
      · next wait flagged found =>
          obtain ⟨outcome, finished, after⟩ := Option.map_eq_some_iff.mp moved
          have surrendered := calm wait (waitAt_some.mpr (pcAt_found found)) outcome finished
          obtain ⟨cancelled, unmarked⟩ := surrendered.stopped stopped
          have unflagged := surrendered.unflagged unmarked cancelled
          rw [cancelled, concludeExecute_raised wait.item unmarked unflagged] at after
          subst after
          exact workerDone_of (set_found found)
      · cases moved
  | workerCancelled v =>
      obtain rfl : v = w := ends
      have moved : workerCancelled v s = some t := (step_idle taken nofun).2
      unfold workerCancelled at moved
      split at moved
      · next found =>
          obtain rfl := Option.some.inj moved
          exact workerDone_of (set_found found)
      · next found =>
          obtain rfl := Option.some.inj moved
          exact workerDone_of (set_found found)
      · next found =>
          obtain rfl := Option.some.inj moved
          exact workerDone_of (set_found found)
      · next found =>
          obtain rfl := Option.some.inj moved
          exact workerDone_of (set_found found)
      · cases moved
  | _ => exact absurd ends id

theorem due_step {a : Action} (due : Due w s) (doomed : Doomed s w) (other : ¬ a.ends w)
    (taken : step cfg s a = some t) : Due w t := by
  obtain ⟨worker, found, ready⟩ := due
  cases turn_step taken w with
  | pushed pushed =>
      cases pushed with
      | still same =>
          refine ⟨worker, same.trans found, ?_⟩
          obtain ⟨pc, flagged⟩ := worker
          cases pc with
          | awaiting wait => exact ended_step ready taken
          | getting | reputting | sleeping | retrying | done => exact ready
      | marked wait marked flagged mark before now same kept =>
          obtain rfl := Option.some.inj (found.symm.trans before)
          refine ⟨_, now, ?_⟩
          have ended : Ended t.tasks wait.task := ended_step ready taken
          rw [← same.2] at ended
          exact ended
      | flagged pc flagged before suspended now =>
          refine ⟨_, now, ?_⟩
          cases pc with
          | awaiting | done => cases suspended
          | getting | reputting | sleeping | retrying => rfl
  | moved pc before suspended =>
      obtain ⟨_, present, ends⟩ := doomed
      obtain rfl := Option.some.inj (present.symm.trans before)
      exact absurd ends (doomed_unflagged suspended)
  | ended pc own => exact absurd (own ▸ rfl) other
  | resumed sink wait flagged outcome own => exact absurd (own ▸ rfl) other
  | spawned absent => exact nomatch found.symm.trans absent

theorem done_undue (done : workerDone s w = true) : ¬ Due w s := by
  rintro ⟨⟨pc, flagged⟩, found, ready⟩
  unfold workerDone at done
  rw [found] at done
  cases pc with
  | done => exact ready
  | getting | reputting | sleeping | retrying | awaiting => cases done

def Going (gathered : List Nat) (s : QueueState) : Prop :=
  Poised s ∧ (gathered ∈ s.stops ∨ ∀ w ∈ gathered, workerDone s w = true)

theorem going_step {gathered : List Nat} {a : Action} (going : Going gathered s) (calm : Calm s a)
    (taken : step cfg s a = some t) : Going gathered t := by
  obtain ⟨poised, waits | done⟩ := going
  · refine ⟨poised_step poised calm taken, ?_⟩
    refine (stops_kept waits taken).imp id fun ended w among => ?_
    exact done_step (List.all_eq_true.mp ended w among) taken
  · exact ⟨poised_step poised calm taken, Or.inr fun w among => done_step (done w among) taken⟩

def Tied (w task : Nat) (s : QueueState) : Prop :=
  workerDone s w = true ∨ ∃ wait, pcAt s.pool w = some (.awaiting wait) ∧ wait.task = task

theorem tied_step {gathered : List Nat} {a : Action} (among : w ∈ gathered)
    (going : Going gathered s)
    (tied : Tied w task s) (calm : Calm s a) (taken : step cfg s a = some t) : Tied w task t := by
  have ended (done : workerDone s w = true) : Tied w task t := Or.inl (done_step done taken)
  rcases tied with done | ⟨wait, waits, own⟩
  · exact ended done
  · by_cases ends : a.ends w
    · rcases going.2 with waiting | done
      · exact Or.inl (ends_done ends calm ⟨gathered, waiting, among⟩ taken)
      · exact ended (done w among)
    · obtain ⟨later, still, _, same⟩ := awaiting_turn waits (turn_step taken w) fun sink equal =>
        ends (equal ▸ rfl)
      exact Or.inr ⟨later, still, same.trans own⟩

theorem doomed_due {future : Schedule (step cfg) Calm} {gathered : List Nat} (fair : Fairly future)
    (going : Going gathered (future.states 0)) (among : w ∈ gathered) :
    ∃ n, workerDone (future.states n) w = true ∨ Due w (future.states n) := by
  rcases going.2 with waits | done
  · obtain ⟨⟨pc, flagged⟩, found, ends⟩ := going.1.stopping gathered waits w among
    cases pc with
    | done =>
        refine ⟨0, Or.inl ?_⟩
        unfold workerDone
        rw [found]
    | getting | reputting | sleeping | retrying => exact ⟨0, Or.inr ⟨_, found, ends⟩⟩
    | awaiting wait =>
        obtain ⟨_, handler, present, told⟩ := ends
        have finishes : ∃ n ≥ 0, Ended (future.states n).tasks wait.task := by
          rcases told with told | ended
          · exact fair.handlers 0 wait.task ⟨handler, present, told⟩
          · exact ⟨0, le_rfl, handler, present, ended⟩
        obtain ⟨n, later, ended⟩ := finishes
        have held : Going gathered (future.states n) ∧ Tied w wait.task (future.states n) := by
          refine @Schedule.keeps _ _ _ _ future (fun s => Going gathered s ∧ Tied w wait.task s) 0
            ⟨going, Or.inr ⟨wait, pcAt_found found, rfl⟩⟩ ?_ n later
          intro s a t held calm taken
          exact ⟨going_step held.1 calm taken, tied_step among held.1 held.2 calm taken⟩
        rcases held.2 with done | ⟨last, waits, same⟩
        · exact ⟨n, Or.inl done⟩
        · obtain ⟨⟨_, mark⟩, here, rfl⟩ := Option.map_eq_some_iff.mp waits
          rw [← same] at ended
          exact ⟨n, Or.inr ⟨_, here, ended⟩⟩
  · exact ⟨0, Or.inl (done w among)⟩

theorem worker_ends {future : Schedule (step cfg) Calm} {gathered : List Nat} (fair : Fairly future)
    (going : Going gathered (future.states 0)) (among : w ∈ gathered) :
    future.Finally fun t => workerDone t w = true := by
  have always (n : Nat) : Going gathered (future.states n) :=
    Schedule.keeps going (fun _ _ _ held calm taken => going_step held calm taken) n (Nat.zero_le n)
  have ends : ∃ n, workerDone (future.states n) w = true := by
    obtain ⟨n, done | due⟩ := doomed_due fair going among
    · exact ⟨n, done⟩
    · have persists : ∀ m ≥ n, Due w (future.states m) → ¬ (future.actions m).ends w →
          Due w (future.states (m + 1)) := by
        intro m _ ready other
        rcases (always m).2 with waits | done
        · exact due_step ready ((always m).1.stopping gathered waits w among) other (future.taken m)
        · exact absurd ready (done_undue (done w among))
      obtain ⟨m, _, last, _⟩ := Schedule.fair_done (fair.workers w) due persists
      rcases (always m).2 with waits | done
      · exact ⟨m + 1, ends_done last (future.allowed m) ⟨gathered, waits, among⟩ (future.taken m)⟩
      · exact ⟨m, done w among⟩
  obtain ⟨n, done⟩ := ends
  exact ⟨n, Schedule.keeps done fun _ _ _ held _ taken => done_step held taken⟩

end Schedules

theorem calm_poised {cfg : Config} {s : QueueState} (run : Reaches (step cfg) Calm initial s) :
    Poised s :=
  run.invariant Poised poised_initial fun _ _ _ poised calm taken => poised_step poised calm taken

/-- A worker that goes on after a `CancelledError` was cancelled by the recovery that waits for its
handler. -/
theorem swallowed_gathers {cfg : Config} {sink : Sink} {s t : QueueState} {w : Nat}
    {wait : HandlerWait}
    {outcome : HandlerOutcome} (marked : Marked s) (calm : Calm s (.workerResume w sink))
    (taken : step cfg s (.workerResume w sink) = some t)
    (waits : pcAt s.pool w = some (.awaiting wait))
    (finished : s.tasks[wait.task]?.bind HandlerTask.outcome = some outcome)
    (cancelled : wait.result outcome = .cancelled) (alive : workerDone t w = false) :
    Gathers s wait.item.job.runId wait.task := by
  have surrendered := calm wait (waitAt_some.mpr waits) outcome finished
  obtain ⟨⟨pc, flagged⟩, found, rfl⟩ := Option.map_eq_some_iff.mp waits
  have moved : workerResume cfg sink w s = some t := (step_idle taken (by simp)).2
  simp only [workerResume, found, finished, Option.map_some, cancelled] at moved
  by_cases own : wait.item.job.runId ∈ s.recoveryRequested
  · obtain ⟨v, other, still, same, gathers⟩ := marked _ own
    obtain ⟨worker, present, _⟩ := Option.map_eq_some_iff.mp still
    obtain rfl : v = w :=
      surrendered.alone own cancelled v (List.getElem?_eq_some_iff.mp present).1 other
      (waitAt_some.mpr still) same
    rw [waits] at still
    obtain rfl := WorkerPc.awaiting.inj (Option.some.inj still)
    exact gathers
  · rw [concludeExecute_raised wait.item own (surrendered.unflagged own cancelled)] at moved
    obtain rfl := Option.some.inj moved
    cases alive.symm.trans (workerDone_of (set_found found))

/-- In a calm run a run is marked only while a recovery waits for its handler, a `CancelledError` is
swallowed only for the recovery that waits for that handler, and in every fair continuation each
`stop` comes to its return. -/
theorem shutdown (cfg : Config) (s : QueueState) (run : Reaches (step cfg) Calm initial s) :
    (∀ runId ∈ s.recoveryRequested, Awaited s runId) ∧
      (∀ w sink wait outcome t, Calm s (.workerResume w sink) →
        step cfg s (.workerResume w sink) = some t →
        waitAt s.pool w = some wait → s.tasks[wait.task]?.bind HandlerTask.outcome = some outcome →
        wait.result outcome = .cancelled → workerDone t w = false →
        Gathers s wait.item.job.runId wait.task) ∧
      ∀ future : Schedule (step cfg) Calm, future.states 0 = s → Fairly future →
      ∀ gathered ∈ s.stops,
        future.Finally fun t => gathered.all (workerDone t) = true ∧
          ∀ i, t.stops[i]? = some gathered → (stopReturn i t).isSome = true := by
  have poised := calm_poised run
  refine ⟨?_, ?_, ?_⟩
  · intro runId member
    obtain ⟨w, wait, waits, own, gathers⟩ := poised.marked runId member
    exact ⟨wait.task, wait.item.job, gathers,
      (gathered_open poised.sound).mpr ⟨w, wait, waits, rfl⟩,
      poised.sound.attended.matched w wait waits, own⟩
  · intro w sink wait outcome t calm taken waits finished cancelled alive
    exact swallowed_gathers poised.marked calm taken (waitAt_some.mp waits) finished cancelled alive
  · intro future start fair gathered waits
    subst start
    have each : future.Finally fun t => ∀ w ∈ gathered, workerDone t w = true :=
      Schedule.finally_all gathered fun w among => worker_ends fair ⟨poised, Or.inl waits⟩ among
    refine Schedule.finally_mono (fun t done => ?_) each
    have all : gathered.all (workerDone t) = true := List.all_eq_true.mpr done
    refine ⟨all, fun i found => ?_⟩
    unfold stopReturn
    rw [found]
    show (if gathered.all (workerDone t) = true then some _ else none).isSome = true
    rw [if_pos all]
    rfl

section Sample

theorem fairly_settled {cfg : Config} {future : Schedule (step cfg) Calm}
    {u : QueueState} {bound : ℕ}
    (settles : ∀ n ≥ bound, future.states n = u)
    (handlers : ∀ handler ∈ u.tasks, handler.outcome ≠ none)
    (workers : ∀ worker ∈ u.pool, worker.pc = .done) : Fairly future := by
  constructor
  · intro n task told
    have later : HandlerAt (fun handler => handler.cancelRequested = true) u.tasks task := by
      rw [← settles (max n bound) (le_max_right n bound)]
      refine @Schedule.keeps _ _ _ _ future
        (fun s => HandlerAt (fun handler => handler.cancelRequested = true) s.tasks task) n told ?_
          _
        (le_max_left n bound)
      intro s a t held _ taken
      exact @amounts_keeps cfg
        (fun u => HandlerAt (fun handler => handler.cancelRequested = true) u.tasks task) s t _
        (fun _ _ held effect => handlerAt_effect (fun _ _ => rfl)
          (fun _ _ told => told) held effect)
        (fun _ held effect => handlerAt_effect (fun _ _ => rfl) (fun _ _ told => told) held effect)
          held
        (step_amounts cfg s t a taken)
    obtain ⟨handler, present, _⟩ := later
    refine ⟨max n bound, le_max_left n bound, handler, ?_,
      handlers handler (List.mem_of_getElem? present)⟩
    rw [settles _ (le_max_right n bound), present]
  · intro w n always
    have due := always (max n bound) (le_max_left n bound)
    rw [settles _ (le_max_right n bound)] at due
    obtain ⟨⟨pc, flagged⟩, found, ready⟩ := due
    obtain rfl : pc = .done := workers _ (List.mem_of_getElem? found)
    exact absurd ready id

def staleThenStop : List Action :=
  [.start, .enqueue (sampleJob 2 two_attempts) 0 accepts, .workerGet 0 accepts, .tick 2,
    .recoverStart, .recoverScan accepts]

def stopped : List Action :=
  [.handlerFinish 0 .cancelled, .workerResume 0 accepts, .recoverResume 0 accepts,
    .recoverScan accepts, .workerGet 0 accepts, .stop]

def stopEnds : List Action := [.handlerFinish 1 .cancelled, .workerResume 0 accepts, .stopReturn 0]

def calmly : QueueState → List Action → Option QueueState :=
  execute (step sampleQueue) fun u a => decide (Calm u a)

/-- A stale run is recovered, and its retry is stopped: the stop comes to its return. -/
theorem shutdown_sample : ∃ s t, ∃ future : Schedule (step sampleQueue) Calm,
    Reaches (step sampleQueue) Calm initial s ∧ s.recoveryRequested = {0} ∧ Awaited s 0 ∧
      Reaches (step sampleQueue) Calm s t ∧ t.stops = [[0]] ∧ future.states 0 = t ∧ Fairly future ∧
        future.Finally fun u => [0].all (workerDone u) = true := by
  have sound (u : QueueState) (a : Action) (passed : decide (Calm u a) = true) : Calm u a :=
    of_decide_eq_true passed
  obtain ⟨s, marked, requested⟩ := Option.map_eq_some_iff.mp
    (show (calmly initial staleThenStop).map QueueState.recoveryRequested = some {0} by
      decide +kernel)
  obtain ⟨t, both, stops⟩ := Option.map_eq_some_iff.mp
    (show ((calmly initial staleThenStop).bind fun s => calmly s stopped).map QueueState.stops =
      some [[0]] by
      decide +kernel)
  obtain ⟨_, same, stopping⟩ := Option.bind_eq_some_iff.mp both
  obtain rfl := Option.some.inj (marked.symm.trans same)
  obtain ⟨u, all, settled⟩ := Option.map_eq_some_iff.mp
    (show (((calmly initial staleThenStop).bind fun s => calmly s stopped).bind fun t =>
      calmly t stopEnds).map
        (fun u => decide (u.scanning = none ∧ (∀ handler ∈ u.tasks, handler.outcome ≠ none) ∧
          ∀ worker ∈ u.pool, worker.pc = .done)) = some true by decide +kernel)
  obtain ⟨_, same, returned⟩ := Option.bind_eq_some_iff.mp all
  obtain rfl := Option.some.inj (both.symm.trans same)
  obtain ⟨idle, handlers, workers⟩ := of_decide_eq_true settled
  have first : Reaches (step sampleQueue) Calm initial s := execute_reaches sound _ _ _ marked
  have second : Reaches (step sampleQueue) Calm s t := execute_reaches sound _ _ _ stopping
  have stays : step sampleQueue u (.tick 0) = some u := by
    rw [step_resting idle]
    simp [idleStep]
  have calm : Calm u (.tick 0) := trivial
  obtain ⟨future, begins, settles⟩ := Schedule.of_execute sound returned calm stays
  have fair : Fairly future := fairly_settled settles handlers workers
  refine ⟨s, t, future, first, requested, ?_, second, stops, begins, fair, ?_⟩
  · exact (shutdown sampleQueue s first).1 0 (by rw [requested]; exact Finset.mem_singleton_self 0)
  · obtain ⟨n, returns⟩ := (shutdown sampleQueue t (first.trans second)).2.2 future begins fair [0]
      (by rw [stops]; exact List.mem_singleton_self [0])
    exact ⟨n, fun m later => (returns m later).1⟩

structure Stuck (s : QueueState) : Prop where
  pool : s.pool = [⟨.getting, false⟩]
  queue : s.queue = []
  stopping : s.stopping = true
  started : s.started = true
  stops : s.stops = [[0]]
  idle : s.scanning = none
  recoveries : ∀ call ∈ s.recoveries, call.pc = .returned
  tasks : ∀ handler ∈ s.tasks, handler.outcome ≠ none

def Action.left : Action → Prop
  | .stop | .workerCancel _ | .recoverStart => False
  | _ => True

theorem stuck_getting {s : QueueState} {w : Nat} {pc : WorkerPc} {flagged : Bool} (stuck : Stuck s)
    (found : s.pool[w]? = some ⟨pc, flagged⟩) : pc = .getting ∧ flagged = false := by
  have member := List.mem_of_getElem? found
  rw [stuck.pool] at member
  exact Worker.mk.inj (List.mem_singleton.mp member)

theorem stuck_waits {s : QueueState} (stuck : Stuck s) (i : Nat) : stopReturn i s = none := by
  unfold stopReturn
  rw [stuck.stops]
  cases i with
  | succ j => rfl
  | zero =>
      have alive : workerDone s 0 = false := by
        unfold workerDone
        rw [stuck.pool]
        rfl
      show (if [0].all (workerDone s) = true then some _ else none) = none
      simp [alive]

theorem stuck_step {cfg : Config} {s t : QueueState} {a : Action} (stuck : Stuck s) (left : a.left)
    (taken : step cfg s a = some t) : Stuck t := by
  obtain ⟨pool, queue, stopping, started, stops, idle, recoveries, tasks⟩ := stuck
  have kept : Stuck s := ⟨pool, queue, stopping, started, stops, idle, recoveries, tasks⟩
  rw [step_resting idle] at taken
  cases a with
  | stop | workerCancel | recoverStart => exact absurd left id
  | recoverScan => cases taken
  | enqueue job handler sink =>
      obtain rfl := Option.some.inj taken
      unfold enqueue
      rw [if_pos stopping]
      exact kept
  | start =>
      obtain rfl := Option.some.inj taken
      unfold start
      rw [if_pos started]
      exact kept
  | stopReturn i => cases (stuck_waits kept i).symm.trans taken
  | cancel runId sink =>
      obtain rfl := Option.some.inj taken
      unfold cancel
      dsimp only
      repeat' split
      all_goals exact ⟨pool, queue, stopping, started, stops, idle, recoveries, tasks⟩
  | heartbeat runId =>
      obtain rfl := Option.some.inj taken
      unfold heartbeat
      split
      · exact ⟨pool, queue, stopping, started, stops, idle, recoveries, tasks⟩
      · exact kept
  | tick elapsed =>
      simp only [idleStep] at taken
      split at taken
      · obtain rfl := Option.some.inj taken
        exact ⟨pool, queue, stopping, started, stops, idle, recoveries, tasks⟩
      · cases taken
  | workerGet w sink raises =>
      simp only [idleStep, workerGet, queue] at taken
      split at taken
      · next front => cases front
      · cases taken
  | workerReput w =>
      simp only [idleStep, workerReput] at taken
      split at taken
      · next found => cases (stuck_getting kept found).1
      · cases taken
  | workerWake w =>
      simp only [idleStep, workerWake] at taken
      split at taken
      · next found => cases (stuck_getting kept found).1
      · cases taken
  | workerResume w sink =>
      simp only [idleStep, workerResume] at taken
      split at taken
      · next found => cases (stuck_getting kept found).1
      · cases taken
  | workerRetryPut w =>
      simp only [idleStep, workerRetryPut] at taken
      split at taken
      · next found => cases (stuck_getting kept found).1
      · cases taken
  | workerTimeout w =>
      simp only [idleStep, workerTimeout] at taken
      split at taken
      · next found => cases (stuck_getting kept found).1
      · cases taken
  | workerCancelled w =>
      simp only [idleStep, workerCancelled] at taken
      split at taken
      · next found => cases (stuck_getting kept found).1
      · next found => cases (stuck_getting kept found).2
      · next found => cases (stuck_getting kept found).1
      · next found => cases (stuck_getting kept found).1
      · cases taken
  | handlerFinish task outcome =>
      simp only [idleStep, handlerFinish] at taken
      split at taken
      · next active =>
          unfold QueueState.pending live at active
          split at active
          · next handler present =>
              exact absurd (of_decide_eq_true active) (tasks handler (List.mem_of_getElem? present))
          · cases active
      · cases taken
  | recoverResume i sink =>
      simp only [idleStep, recoverResume] at taken
      split at taken
      · next call found =>
          rw [recoveries call (List.mem_of_getElem? found)] at taken
          cases taken
      · cases taken
  | recoverPut i =>
      simp only [idleStep, recoverPut] at taken
      split at taken
      · next call found =>
          rw [recoveries call (List.mem_of_getElem? found)] at taken
          cases taken
      · cases taken

def leftMarked : List Action :=
  staleThenStop ++ [.handlerFinish 0 .returned, .workerResume 0 accepts, .recoverResume 0 accepts,
    .recoverScan accepts]

def swallowed : List Action :=
  [.workerGet 0 accepts, .stop, .handlerFinish 1 .cancelled, .workerResume 0 accepts]

/-- A handler that returns when it is cancelled leaves the marker of a recovery that has returned.
The retry is stopped, its `CancelledError` is swallowed, and the `stop` does not return unless
somebody stops the queue again, cancels the worker or recovers. -/
theorem marker_left : ∃ s t, Reaches (step sampleQueue) (fun _ _ => True) initial s ∧
    0 ∈ s.recoveryRequested ∧ ¬ Awaited s 0 ∧ Reaches (step sampleQueue) (fun _ _ => True) s t ∧
      0 ∉ t.recoveryRequested ∧ t.stops = [[0]] ∧
        ∀ u, Reaches (step sampleQueue) (fun _ a => a.left) t u → stopReturn 0 u = none := by
  let runs := execute (step sampleQueue) fun _ _ => true
  obtain ⟨s, first, observed⟩ := Option.map_eq_some_iff.mp
    (show (runs initial leftMarked).map (fun s => decide (0 ∈ s.recoveryRequested ∧
        ∀ call ∈ s.recoveries, call.pc = .returned)) = some true by decide +kernel)
  obtain ⟨marked, returned⟩ := of_decide_eq_true observed
  obtain ⟨t, both, stuck⟩ := Option.map_eq_some_iff.mp
    (show ((runs initial leftMarked).bind fun s => runs s swallowed).map (fun t => decide
        (0 ∉ t.recoveryRequested ∧ t.pool = [⟨.getting, false⟩] ∧ t.queue = [] ∧ t.stopping = true ∧
          t.started = true ∧ t.stops = [[0]] ∧ t.scanning = none ∧
          (∀ call ∈ t.recoveries, call.pc = .returned) ∧
          ∀ handler ∈ t.tasks, handler.outcome ≠ none)) = some true by decide +kernel)
  obtain ⟨_, same, second⟩ := Option.bind_eq_some_iff.mp both
  obtain rfl := Option.some.inj (first.symm.trans same)
  obtain ⟨unmarked, pool, queue, stopping, started, stops, idle, recoveries, tasks⟩ :=
    of_decide_eq_true stuck
  have sound (u : QueueState) (a : Action) (_ : true = true) :
      (fun _ _ => True : QueueState → Action → Prop) u a :=
    trivial
  have reached := execute_reaches sound _ _ _ first
  refine ⟨s, t, reached, marked, ?_, execute_reaches sound _ _ _ second, unmarked, stops, ?_⟩
  · rintro ⟨task, _, ⟨call, member, gathers⟩, _⟩
    rw [returned call member] at gathers
    cases gathers
  · intro u later
    refine stuck_waits ?_ 0
    exact later.invariant Stuck ⟨pool, queue, stopping, started, stops, idle, recoveries, tasks⟩
      fun _ _ _ stuck left taken => stuck_step stuck left taken

end Sample

end SynapseOS.Queue
