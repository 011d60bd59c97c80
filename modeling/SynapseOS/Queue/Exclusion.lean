import SynapseOS.Lib.LockTable
import SynapseOS.Queue.Effects

/-! Handler calls of one task never overlap. -/

namespace SynapseOS.Queue

open LockTable Transition

/-- Runs whose steps are restricted by what they are about. -/
abbrev Runs (cfg : Config) (allowed : QueueState → Label → Prop) :=
  Reaches (step cfg) (fun s a => allowed s (labelOf s a))

theorem runs_execute {cfg : Config} {allowed : QueueState → Label → Prop}
    [∀ s label, Decidable (allowed s label)] (actions : List Action) (s t : QueueState)
    (executed : execute (step cfg) (fun u a => decide (allowed u (labelOf u a))) s actions =
      some t) :
    Runs cfg allowed s t :=
  execute_reaches (fun _ _ passed => of_decide_eq_true passed) actions s t executed

theorem runs_observe {β : Type} (cfg : Config) (allowed : QueueState → Label → Prop)
    [∀ s label, Decidable (allowed s label)] (actions : List Action) (observe : QueueState → β)
    (value : β)
    (executed : (execute (step cfg) (fun u a => decide (allowed u (labelOf u a))) initial
      actions).map observe = some value) :
    ∃ s, Runs cfg allowed initial s ∧ observe s = value := by
  obtain ⟨s, reached, observed⟩ := Option.map_eq_some_iff.mp executed
  exact ⟨s, runs_execute actions initial s reached, observed⟩

theorem runs_observe_both {β : Type} (cfg : Config) (allowed : QueueState → Label → Prop)
    [∀ s label, Decidable (allowed s label)] (first later : List Action)
    (observe : QueueState → QueueState → β) (value : β)
    (executed : ((execute (step cfg) (fun u a => decide (allowed u (labelOf u a))) initial
      first).bind fun s => (execute (step cfg) (fun u a => decide (allowed u (labelOf u a))) s
        later).map (observe s)) = some value) :
    ∃ s t, Runs cfg allowed initial s ∧ Runs cfg allowed s t ∧ observe s t = value := by
  obtain ⟨s, reached, continued⟩ := Option.bind_eq_some_iff.mp executed
  obtain ⟨t, ended, observed⟩ := Option.map_eq_some_iff.mp continued
  exact ⟨s, t, runs_execute first initial s reached, runs_execute later s t ended, observed⟩

theorem amounts_keeps {cfg : Config} {inv : QueueState → Prop} {s t : QueueState} {label : Label}
    (quiet : ∀ u w, inv u → Effect cfg u .quiet w → inv w)
    (keeps : ∀ w, inv s → Effect cfg s label w → inv w)
    (held : inv s) (amounts : Amounts cfg s label t) : inv t := by
  rcases amounts with ⟨steps, _⟩ | effect
  · induction steps with
    | refl => exact held
    | tail _ last ih => exact quiet _ _ ih last
  · exact keeps t held effect

theorem runs_invariant {cfg : Config} {allowed : QueueState → Label → Prop}
    (inv : QueueState → Prop) {s t : QueueState} (run : Runs cfg allowed s t) (initial : inv s)
    (always : ∀ u, allowed u .quiet)
    (keeps : ∀ u label w, inv u → allowed u label → Effect cfg u label w → inv w) : inv t := by
  refine run.invariant inv initial ?_
  intro u a w held permitted taken
  refine amounts_keeps ?_ ?_ held (step_amounts cfg u w a taken)
  · exact fun v x before effect => keeps v .quiet x before (always v) effect
  · exact fun x before effect => keeps u _ x before permitted effect

def pcAt (pool : List Worker) (w : Nat) : Option WorkerPc := pool[w]?.map Worker.pc

theorem pcAt_found {pool : List Worker} {w : Nat} {pc : WorkerPc} {flagged : Bool}
    (found : pool[w]? = some ⟨pc, flagged⟩) : pcAt pool w = some pc := by
  rw [pcAt, found]
  rfl

theorem pcAt_set {pool : List Worker} {w : Nat} {old : Worker} (found : pool[w]? = some old)
    (pc : WorkerPc) (flagged : Bool) :
    pcAt (pool.set w ⟨pc, flagged⟩) = Function.update (pcAt pool) w (some pc) := by
  have inside : w < pool.length := (List.getElem?_eq_some_iff.mp found).1
  funext v
  by_cases same : v = w
  · subst same
    simp [pcAt, inside]
  · simp [pcAt, Function.update_of_ne same, Ne.symm same]

theorem pcAt_spawn (pool : List Worker) (count w : Nat) :
    pcAt (pool ++ List.replicate count ⟨.getting, false⟩) w = pcAt pool w ∨
      pcAt pool w = none ∧
        pcAt (pool ++ List.replicate count ⟨.getting, false⟩) w = some .getting := by
  by_cases inside : w < pool.length
  · left
    simp [pcAt, List.getElem?_append_left inside]
  · have beyond : pool.length ≤ w := Nat.not_lt.mp inside
    by_cases spawned : w - pool.length < count
    · right
      simp [pcAt, List.getElem?_append_right beyond, spawned, beyond]
    · left
      simp [pcAt, List.getElem?_append_right beyond, spawned, beyond]

def WorkerPc.holding : WorkerPc → Option AgentRunJob
  | .awaiting wait => some wait.item.job
  | .retrying item _ => some item.job
  | .getting | .reputting _ | .sleeping | .done => none

def holder (at_ : Nat → Option WorkerPc) (w : Nat) : Option UUID :=
  ((at_ w).bind WorkerPc.holding).map AgentRunJob.taskId

theorem holder_update (at_ : Nat → Option WorkerPc) (w : Nat) (pc : WorkerPc) :
    holder (Function.update at_ w (some pc)) =
      Function.update (holder at_) w (pc.holding.map AgentRunJob.taskId) := by
  funext v
  by_cases same : v = w
  · subst same
    simp [holder]
  · simp [holder, Function.update_of_ne same]

theorem holder_spawn (pool : List Worker) (count : Nat) :
    holder (pcAt (pool ++ List.replicate count ⟨.getting, false⟩)) = holder (pcAt pool) := by
  funext w
  rcases pcAt_spawn pool count w with same | ⟨absent, spawned⟩
  · simp only [holder, same]
  · simp [holder, absent, spawned, WorkerPc.holding]

def Exclusive (s : QueueState) : Prop :=
  Guarded (holder (pcAt s.pool)) (fun taskId => s.taskLocks.get taskId = some true)

def taskJob (tasks : List HandlerTask) (task : Nat) : Option AgentRunJob :=
  tasks[task]?.map HandlerTask.job

/-- Every live handler has a worker that waits for it, and workers wait for their own. -/
structure Attended (pool : List Worker) (tasks : List HandlerTask) : Prop where
  active : ∀ task, live tasks task = true →
    ∃ w wait, pcAt pool w = some (.awaiting wait) ∧ wait.task = task
  matched : ∀ w wait, pcAt pool w = some (.awaiting wait) →
    taskJob tasks wait.task = some wait.item.job

theorem exclusive_initial : Exclusive initial :=
  Guarded.vacant (fun w => by simp [holder, pcAt, initial])

theorem attended_initial : Attended initial.pool initial.tasks := by
  constructor
  · intro task active
    simp [live, initial] at active
  · intro w wait found
    simp [pcAt, initial] at found

section Exclusive

variable {s : QueueState} {w : Nat} {pc : WorkerPc} {flagged : Bool}

theorem holder_found (found : s.pool[w]? = some ⟨pc, flagged⟩) :
    holder (pcAt s.pool) w = pc.holding.map AgentRunJob.taskId := by
  simp [holder, pcAt_found found]

theorem exclusive_moved (exclusive : Exclusive s) (found : s.pool[w]? = some ⟨pc, flagged⟩)
    (next : WorkerPc) (mark : Bool) (same : next.holding = pc.holding) (locks : Dict UUID Bool)
    (unchanged : SameLocks s.taskLocks locks) :
    Exclusive { s with pool := s.pool.set w ⟨next, mark⟩, taskLocks := locks } := by
  have kept : holder (pcAt (s.pool.set w ⟨next, mark⟩)) = holder (pcAt s.pool) := by
    rw [pcAt_set found, holder_update, same, ← holder_found found, Function.update_eq_self]
  show Guarded (holder (pcAt (s.pool.set w ⟨next, mark⟩))) _
  rw [kept]
  exact Guarded.congr exclusive unchanged

theorem exclusive_closed (exclusive : Exclusive s) (found : s.pool[w]? = some ⟨pc, flagged⟩)
    (job : AgentRunJob) (holds : pc.holding = some job) (next : WorkerPc)
    (vacated : next.holding = none) :
    Exclusive ((closeExecute job s).setPc w next) := by
  show Guarded (holder (pcAt (s.pool.set w ⟨next, false⟩)))
    (fun taskId => (s.taskLocks.set job.taskId false).get taskId = some true)
  rw [pcAt_set found, holder_update, vacated]
  refine Guarded.release exclusive w job.taskId ?_ ?_
  · rw [holder_found found, holds]
    rfl
  · intro taskId other
    rw [Dict.get_set_other _ _ _ _ (Ne.symm other)]

theorem exclusive_begun (exclusive : Exclusive s)
    (found : s.pool[w]? = some ⟨.getting, flagged⟩) (wait : HandlerWait) (locks : Dict UUID Bool)
    (free : s.taskLocks.get wait.item.job.taskId ≠ some true)
    (taken : ∀ taskId, locks.get taskId = some true ↔
      taskId = wait.item.job.taskId ∨ s.taskLocks.get taskId = some true) :
    Exclusive { s with pool := s.pool.set w ⟨.awaiting wait, false⟩, taskLocks := locks } := by
  show Guarded (holder (pcAt (s.pool.set w ⟨.awaiting wait, false⟩))) _
  rw [pcAt_set found, holder_update]
  exact Guarded.acquire exclusive w wait.item.job.taskId free taken

theorem sameLocks_refl (locks : Dict UUID Bool) : SameLocks locks locks := fun _ => Iff.rfl

theorem exclusive_effect {cfg : Config} {label : Label} {t : QueueState} (exclusive : Exclusive s)
    (effect : Effect cfg s label t) : Exclusive t := by
  have same := sameLocks_refl s.taskLocks
  cases effect with
  | environment | submit | withdraw | flag | touch | skip | finish | recover | advance | gather
  | settle | recoverPut => exact exclusive
  | spawn count workers =>
      show Guarded (holder (pcAt (s.pool ++ List.replicate count ⟨.getting, false⟩))) _
      rw [holder_spawn]
      exact exclusive
  | interrupt w pc flagged found suspended =>
      exact exclusive_moved exclusive found pc true rfl _ same
  | mark w wait marked flagged found kept =>
      refine exclusive_moved exclusive found (.awaiting marked) false ?_ _ same
      simp only [WorkerPc.holding, kept.1]
  | contend w item rest locks found front kept held =>
      exact exclusive_moved exclusive found .sleeping false rfl locks kept
  | contendFull w item rest locks found front kept full =>
      exact exclusive_moved exclusive found (.reputting item) false rfl locks kept
  | begin w item rest locks heartbeats deadline events found front wanted free taken logged =>
      exact exclusive_begun exclusive found _ locks free taken
  | beginFails w item rest locks heartbeats statuses events found front wanted kept status =>
      exact exclusive_moved exclusive found .done false rfl locks kept
  | reput w item found room => exact exclusive_moved exclusive found .sleeping false rfl _ same
  | wake w found => exact exclusive_moved exclusive found .getting false rfl _ same
  | outcome w wait flagged result status events pc found finished ends cancelled logged next =>
      refine @exclusive_closed { s with statuses := _, events } w _ _ exclusive found _ rfl pc ?_
      rcases next with rfl | rfl <;> rfl
  | swallow w wait flagged found finished requested =>
      exact @exclusive_closed { s with recoveryRequested := _ } w _ _ exclusive found _ rfl _ rfl
  | crash w wait flagged found finished unflagged =>
      exact exclusive_closed exclusive found _ rfl _ rfl
  | retry w wait flagged events remaining found finished unflagged room logged =>
      exact @exclusive_closed { s with statuses := _, queue := _, events } w _ _ exclusive found _
        rfl _ rfl
  | retryBlocked w wait flagged events remaining found finished unflagged full logged =>
      exact exclusive_moved exclusive found (.retrying wait.item _) false rfl _ same
  | retryLost w wait flagged remaining found finished unflagged =>
      exact @exclusive_closed { s with statuses := _ } w _ _ exclusive found _ rfl _ rfl
  | retryPut w item retry found room =>
      exact @exclusive_closed (s.push retry) w _ _ exclusive found _ rfl _ rfl
  | dropRetry w item retry found => exact exclusive_closed exclusive found _ rfl _ rfl
  | die w pc found suspended =>
      refine exclusive_moved exclusive found .done false ?_ _ same
      rcases suspended with rfl | rfl | ⟨item, rfl⟩ <;> rfl

end Exclusive

section Attended

variable {pool : List Worker} {tasks : List HandlerTask} {w : Nat} {pc : WorkerPc} {flagged : Bool}

theorem awaiting_update {at_ : Nat → Option WorkerPc} {next : WorkerPc}
    (elsewhere : ∀ wait, next ≠ .awaiting wait) (v : Nat) (wait : HandlerWait) :
    Function.update at_ w (some next) v = some (.awaiting wait) ↔
      v ≠ w ∧ at_ v = some (.awaiting wait) := by
  by_cases same : v = w
  · subst same
    simp [elsewhere wait]
  · simp [same]

theorem attended_moved (attended : Attended pool tasks) (found : pool[w]? = some ⟨pc, flagged⟩)
    (ended : ∀ wait, pc = .awaiting wait → live tasks wait.task = false)
    (next : WorkerPc) (mark : Bool) (elsewhere : ∀ wait, next ≠ .awaiting wait) :
    Attended (pool.set w ⟨next, mark⟩) tasks := by
  constructor
  · intro task active
    obtain ⟨v, wait, waits, rfl⟩ := attended.active task active
    refine ⟨v, wait, ?_, rfl⟩
    show pcAt (pool.set w ⟨next, mark⟩) v = _
    rw [pcAt_set found, awaiting_update elsewhere]
    refine ⟨?_, waits⟩
    intro same
    subst same
    rw [pcAt_found found] at waits
    have finished := ended wait (Option.some.inj waits)
    exact Bool.false_ne_true (finished.symm.trans active)
  · intro v wait waits
    change pcAt (pool.set w ⟨next, mark⟩) v = _ at waits
    rw [pcAt_set found, awaiting_update elsewhere] at waits
    exact attended.matched v wait waits.2

theorem attended_marked (attended : Attended pool tasks) (wait marked : HandlerWait) (mark : Bool)
    (found : pool[w]? = some ⟨.awaiting wait, flagged⟩)
    (same : marked.item = wait.item ∧ marked.task = wait.task) :
    Attended (pool.set w ⟨.awaiting marked, mark⟩) tasks := by
  have moved : pcAt (pool.set w ⟨.awaiting marked, mark⟩) =
      Function.update (pcAt pool) w (some (.awaiting marked)) := pcAt_set found _ _
  constructor
  · intro task active
    obtain ⟨v, before, waits, rfl⟩ := attended.active task active
    by_cases here : v = w
    · subst here
      rw [pcAt_found found] at waits
      obtain rfl := WorkerPc.awaiting.inj (Option.some.inj waits)
      exact ⟨v, marked, by rw [moved, Function.update_self], same.2⟩
    · exact ⟨v, before, by rw [moved, Function.update_of_ne here, waits], rfl⟩
  · intro v before waits
    rw [moved] at waits
    by_cases here : v = w
    · subst here
      rw [Function.update_self] at waits
      obtain rfl := WorkerPc.awaiting.inj (Option.some.inj waits)
      show taskJob tasks marked.task = some marked.item.job
      rw [same.1, same.2]
      exact attended.matched v wait (pcAt_found found)
    · rw [Function.update_of_ne here] at waits
      exact attended.matched v before waits

theorem live_modify (tasks : List HandlerTask) (task other : Nat) (f : HandlerTask → HandlerTask) :
    live (tasks.modify task f) other =
      if task = other then
        (match tasks[other]? with
          | some t => decide ((f t).outcome = none)
          | none => false)
      else live tasks other := by
  unfold live
  rw [List.getElem?_modify]
  by_cases same : task = other
  · subst same
    cases present : tasks[task]? <;> simp
  · cases present : tasks[other]? <;> simp [same]

theorem taskJob_modify (tasks : List HandlerTask) (task other : Nat)
    (f : HandlerTask → HandlerTask) (same : ∀ t, (f t).job = t.job) :
    taskJob (tasks.modify task f) other = taskJob tasks other := by
  unfold taskJob
  rw [List.getElem?_modify]
  by_cases hit : task = other
  · subst hit
    cases present : tasks[task]? <;> simp [same]
  · cases present : tasks[other]? <;> simp [hit]

theorem attended_modified (attended : Attended pool tasks) (task : Nat)
    (f : HandlerTask → HandlerTask) (sameJob : ∀ t, (f t).job = t.job)
    (older : ∀ t, (f t).outcome = none → t.outcome = none) :
    Attended pool (tasks.modify task f) := by
  constructor
  · intro other active
    refine attended.active other ?_
    rw [live_modify] at active
    split at active
    · unfold live
      cases present : tasks[other]? with
      | none => simp [present] at active
      | some t =>
          simp only [present, decide_eq_true_eq] at active
          simpa using older t active
    · exact active
  · intro v wait waits
    rw [taskJob_modify _ _ _ f sameJob]
    exact attended.matched v wait waits

theorem live_append (tasks : List HandlerTask) (fresh : HandlerTask) (task : Nat) :
    live (tasks ++ [fresh]) task =
      if task = tasks.length then decide (fresh.outcome = none) else live tasks task := by
  unfold live
  rcases Nat.lt_trichotomy task tasks.length with inside | rfl | beyond
  · rw [List.getElem?_append_left inside, if_neg (Nat.ne_of_lt inside)]
  · simp
  · have absent : (tasks ++ [fresh])[task]? = none := by
      apply List.getElem?_eq_none
      simpa using beyond
    have missing : tasks[task]? = none := List.getElem?_eq_none (Nat.le_of_lt beyond)
    simp [absent, missing, Nat.ne_of_gt beyond]

theorem taskJob_append (tasks : List HandlerTask) (fresh : HandlerTask) (task : Nat)
    (job : AgentRunJob) (known : taskJob tasks task = some job) :
    taskJob (tasks ++ [fresh]) task = some job := by
  obtain ⟨t, present, rfl⟩ := Option.map_eq_some_iff.mp known
  have inside : task < tasks.length := (List.getElem?_eq_some_iff.mp present).1
  simp [taskJob, List.getElem?_append_left inside, present]

theorem attended_begun (attended : Attended pool tasks)
    (found : pool[w]? = some ⟨.getting, flagged⟩)
    (wait : HandlerWait) (handler : RunHandler) (latest : wait.task = tasks.length) :
    Attended (pool.set w ⟨.awaiting wait, false⟩)
      (tasks ++ [{ job := wait.item.job, handler := handler : HandlerTask }]) := by
  have moved : pcAt (pool.set w ⟨.awaiting wait, false⟩) =
      Function.update (pcAt pool) w (some (.awaiting wait)) := pcAt_set found _ _
  constructor
  · intro task active
    change live (tasks ++ [_]) task = true at active
    show ∃ v before, pcAt (pool.set w _) v = _ ∧ _
    rw [moved]
    rw [live_append] at active
    split at active
    · next new => exact ⟨w, wait, Function.update_self .., latest.trans new.symm⟩
    · obtain ⟨v, before, waits, rfl⟩ := attended.active task active
      have other : v ≠ w := by
        intro same
        subst same
        rw [pcAt_found found] at waits
        cases waits
      exact ⟨v, before, by rw [Function.update_of_ne other, waits], rfl⟩
  · intro v before waits
    change pcAt (pool.set w _) v = _ at waits
    rw [moved] at waits
    by_cases here : v = w
    · subst here
      rw [Function.update_self] at waits
      obtain rfl := WorkerPc.awaiting.inj (Option.some.inj waits)
      simp [taskJob, latest]
    · rw [Function.update_of_ne here] at waits
      exact taskJob_append _ _ _ _ (attended.matched v before waits)

theorem attended_effect {cfg : Config} {label : Label} {s t : QueueState}
    (attended : Attended s.pool s.tasks) (effect : Effect cfg s label t) :
    Attended t.pool t.tasks := by
  have resting {pc : WorkerPc} (other : ∀ wait, pc ≠ .awaiting wait) :
      ∀ wait, pc = .awaiting wait → s.pending wait.task = false :=
    fun wait same => absurd same (other wait)
  have finishing {wait : HandlerWait} (finished : s.pending wait.task = false) :
      ∀ other, WorkerPc.awaiting wait = .awaiting other → s.pending other.task = false := by
    intro other same
    rwa [← WorkerPc.awaiting.inj same]
  cases effect with
  | environment | submit | withdraw | flag | skip | recover | advance | gather | settle
  | recoverPut => exact ⟨attended.active, attended.matched⟩
  | spawn count workers =>
      have kept : ∀ w wait,
          pcAt (s.pool ++ List.replicate count ⟨.getting, false⟩) w = some (.awaiting wait) ↔
            pcAt s.pool w = some (.awaiting wait) := by
        intro w wait
        rcases pcAt_spawn s.pool count w with same | ⟨absent, spawned⟩
        · rw [same]
        · simp [absent, spawned]
      constructor
      · intro task active
        obtain ⟨w, wait, waits, same⟩ := attended.active task active
        exact ⟨w, wait, (kept w wait).mpr waits, same⟩
      · exact fun w wait waits => attended.matched w wait ((kept w wait).mp waits)
  | interrupt w pc flagged found suspended =>
      have other : ∀ wait, pc ≠ .awaiting wait := by
        intro wait same
        subst same
        cases suspended
      exact attended_moved attended found (resting other) pc true other
  | mark w wait marked flagged found kept =>
      exact attended_marked attended wait marked false found kept
  | touch task =>
      refine attended_modified attended task _ ?_ ?_
      · intro t
        split <;> rfl
      · intro t
        split
        · exact id
        · exact id
  | contend w item rest locks found front kept held =>
      exact attended_moved attended found (resting nofun) .sleeping false nofun
  | contendFull w item rest locks found front kept full =>
      exact attended_moved attended found (resting nofun) (.reputting item) false nofun
  | begin w item rest locks heartbeats deadline events found front wanted free taken logged =>
      exact attended_begun attended found { item, task := s.tasks.length, deadline }
        item.handler rfl
  | beginFails w item rest locks heartbeats statuses events found front wanted kept status =>
      exact attended_moved attended found (resting nofun) .done false nofun
  | reput w item found room =>
      exact attended_moved attended found (resting nofun) .sleeping false nofun
  | wake w found => exact attended_moved attended found (resting nofun) .getting false nofun
  | outcome w wait flagged result status events pc found finished ends cancelled logged next =>
      refine attended_moved attended found (finishing finished) pc false ?_
      rcases next with rfl | rfl <;> exact nofun
  | swallow w wait flagged found finished requested =>
      exact attended_moved attended found (finishing finished) .getting false nofun
  | crash w wait flagged found finished unflagged =>
      exact attended_moved attended found (finishing finished) .done false nofun
  | retry w wait flagged events remaining found finished unflagged room logged =>
      exact attended_moved attended found (finishing finished) .getting false nofun
  | retryBlocked w wait flagged events remaining found finished unflagged full logged =>
      exact attended_moved attended found (finishing finished) (.retrying wait.item _) false nofun
  | retryLost w wait flagged remaining found finished unflagged =>
      exact attended_moved attended found (finishing finished) .done false nofun
  | retryPut w item retry found room =>
      exact attended_moved attended found (resting nofun) .getting false nofun
  | dropRetry w item retry found =>
      exact attended_moved attended found (resting nofun) .done false nofun
  | die w pc found suspended =>
      refine attended_moved attended found (resting ?_) .done false nofun
      rcases suspended with rfl | rfl | ⟨item, rfl⟩ <;> exact nofun
  | finish task outcome active =>
      exact attended_modified attended task _ (fun _ => rfl) nofun

end Attended

structure Sound (s : QueueState) : Prop where
  exclusive : Exclusive s
  attended : Attended s.pool s.tasks

theorem sound_initial : Sound initial := ⟨exclusive_initial, attended_initial⟩

theorem sound_effect {cfg : Config} {s t : QueueState} {label : Label} (sound : Sound s)
    (effect : Effect cfg s label t) : Sound t :=
  ⟨exclusive_effect sound.exclusive effect, attended_effect sound.attended effect⟩

theorem waiting_unique {s : QueueState} (sound : Sound s) (v w : Nat) (left right : HandlerWait)
    (first : pcAt s.pool v = some (.awaiting left))
    (second : pcAt s.pool w = some (.awaiting right))
    (same : left.item.job.taskId = right.item.job.taskId) : v = w := by
  refine sound.exclusive.exclusive v w left.item.job.taskId ?_ ?_
  · simp [holder, first, WorkerPc.holding]
  · simp [holder, second, WorkerPc.holding, same]

theorem live_handler_unique (cfg : Config) (s : QueueState)
    (run : Runs cfg (fun _ _ => True) initial s) (t u : Nat) (left right : HandlerTask)
    (first : s.tasks[t]? = some left) (second : s.tasks[u]? = some right)
    (leftLive : left.outcome = none) (rightLive : right.outcome = none)
    (same : left.job.taskId = right.job.taskId) : t = u := by
  have sound : Sound s := runs_invariant Sound run sound_initial (fun _ => trivial)
    (fun _ _ _ held _ effect => sound_effect held effect)
  have waited {task : Nat} {handler : HandlerTask} (present : s.tasks[task]? = some handler)
      (running : handler.outcome = none) :
      ∃ w wait, pcAt s.pool w = some (.awaiting wait) ∧ wait.task = task ∧
        wait.item.job = handler.job := by
    obtain ⟨w, wait, waits, rfl⟩ :=
      sound.attended.active task (by simp [live, present, running])
    have job := sound.attended.matched w wait waits
    rw [taskJob, present, Option.map_some, Option.some.injEq] at job
    exact ⟨w, wait, waits, rfl, job.symm⟩
  obtain ⟨v, leftWait, leftWaits, rfl, leftJob⟩ := waited first leftLive
  obtain ⟨w, rightWait, rightWaits, rfl, rightJob⟩ := waited second rightLive
  obtain rfl := waiting_unique sound v w leftWait rightWait leftWaits rightWaits
    (by rw [leftJob, rightJob, same])
  rw [leftWaits] at rightWaits
  rw [WorkerPc.awaiting.inj (Option.some.inj rightWaits)]

/-- The handler calls of a task that have not finished, whether cancelled or not. -/
def active (s : QueueState) (taskId : UUID) : List HandlerTask :=
  s.tasks.filter fun task => decide (task.outcome = none) && decide (task.job.taskId = taskId)

/-- At most one handler call is active per task, in every state of every run. -/
theorem task_exclusive (cfg : Config) (s : QueueState) (run : Runs cfg (fun _ _ => True) initial s)
    (taskId : UUID) : (active s taskId).length ≤ 1 := by
  by_contra several
  obtain ⟨left, right, rest, split_⟩ : ∃ left right rest, active s taskId = left ::
      right :: rest := by
    rcases shape : active s taskId with _ | ⟨left, _ | ⟨right, rest⟩⟩
    · simp [shape] at several
    · simp [shape] at several
    · exact ⟨left, right, rest, rfl⟩
  have facts : ∀ task ∈ active s taskId, task.outcome = none ∧ task.job.taskId = taskId := by
    intro task member
    simpa [active] using (List.mem_filter.mp member).2
  have chosen : (active s taskId).Sublist s.tasks := List.filter_sublist
  rw [split_] at facts chosen
  obtain ⟨place, placed⟩ := List.sublist_iff_exists_orderEmbedding_getElem?_eq.mp chosen
  have first := placed 0
  have second := placed 1
  obtain ⟨leftLive, leftTask⟩ := facts left List.mem_cons_self
  obtain ⟨rightLive, rightTask⟩ := facts right (List.mem_cons_of_mem _ List.mem_cons_self)
  have same := live_handler_unique cfg s run (place 0) (place 1) left right first.symm second.symm
    leftLive rightLive (leftTask.trans rightTask.symm)
  exact absurd (place.injective same) (by decide)

/-! Runs on fixed inputs: one worker, and jobs of one run. -/

def sampleJob (maxAttempts : Nat) (bounds : BoundedAttempt maxAttempts) : AgentRunJob where
  runId := 0
  taskId := 7
  idempotencyKey := "run-0"
  maxAttempts := maxAttempts
  timeoutSeconds := 60
  heartbeatTimeoutSeconds := 1
  key_bounds := by decide
  attempt_bounds := by decide
  max_attempts_bounds := bounds
  timeout_bounds := by decide
  heartbeat_bounds := by decide

def sampleConfig (workerCount maxSize : Nat) (workers : 1 ≤ workerCount ∧ workerCount ≤ 128)
    (size : 1 ≤ maxSize ∧ maxSize ≤ 10000) : Config :=
  ⟨workerCount, maxSize, true, workers, size⟩

theorem two_attempts : BoundedAttempt 2 := by decide

theorem one_worker : 1 ≤ 1 ∧ 1 ≤ 128 := by decide

def accepts : Sink := fun _ => false

def sampleQueue : Config := sampleConfig 1 4 one_worker (by decide)

def otherJob : AgentRunJob :=
  { sampleJob 1 (by decide) with runId := 1, idempotencyKey := "run-1", key_bounds := by decide }

/-- Two workers, and two runs of one task: the first handler is cancelled by a recovery and has
not finished, and the second run finds the task locked. -/
theorem task_exclusive_stale : ∃ s, Runs (sampleConfig 2 4 (by decide) (by decide))
      (fun _ _ => True) initial s ∧
    s.tasks = [⟨sampleJob 2 (by decide), 0, none, true⟩] ∧ s.queue = [⟨otherJob, 0⟩] ∧
    (active s 7).length ≤ 1 := by
  obtain ⟨s, run, observed⟩ := runs_observe (sampleConfig 2 4 (by decide) (by decide))
    (fun _ _ => True)
    [.start, .enqueue (sampleJob 2 (by decide)) 0 accepts, .enqueue otherJob 0 accepts,
      .workerGet 0 accepts, .workerGet 1 accepts, .tick 2, .recoverStart, .recoverScan accepts]
    (fun s => (s.tasks, s.queue))
    ([⟨sampleJob 2 (by decide), 0, none, true⟩], [⟨otherJob, 0⟩]) (by decide +kernel)
  obtain ⟨tasks, queue⟩ := Prod.mk.inj observed
  exact ⟨s, run, tasks, queue, task_exclusive _ s run 7⟩

end SynapseOS.Queue
