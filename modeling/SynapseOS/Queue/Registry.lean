import SynapseOS.Queue.Exclusion

/-! The maps of the queue agree with the jobs in circulation: what a work item, a worker, a
handler task or a recovery carries belongs to a run that was accepted. -/

namespace SynapseOS.Queue

open Transition

def WorkerPc.jobs : WorkerPc → List AgentRunJob
  | .reputting item => [item.job]
  | .awaiting wait => [wait.item.job]
  | .retrying item retry => [item.job, retry.job]
  | .getting | .sleeping | .done => []

def RecoverPc.jobs : RecoverPc → List AgentRunJob
  | .gathering _ job _ => [job]
  | .putting item => [item.job]
  | .scanning | .returned | .raised => []

structure Everywhere (P : AgentRunJob → Prop) (s : QueueState) : Prop where
  queue : ∀ item ∈ s.queue, P item.job
  pool : ∀ worker ∈ s.pool, ∀ job ∈ worker.pc.jobs, P job
  tasks : ∀ task ∈ s.tasks, P task.job
  recoveries : ∀ call ∈ s.recoveries, ∀ job ∈ call.pc.jobs, P job

theorem everywhere_initial (P : AgentRunJob → Prop) : Everywhere P initial := by
  constructor <;> simp [initial]

theorem everywhere_mono {P Q : AgentRunJob → Prop} {s : QueueState} (held : Everywhere P s)
    (implies : ∀ job, P job → Q job) : Everywhere Q s := by
  constructor
  · exact fun item member => implies _ (held.queue item member)
  · exact fun worker member job carried => implies _ (held.pool worker member job carried)
  · exact fun task member => implies _ (held.tasks task member)
  · exact fun call member job carried => implies _ (held.recoveries call member job carried)

theorem forall_mem_set {α : Type} {P : α → Prop} {values : List α}
    (held : ∀ value ∈ values, P value)
    (i : Nat) (fresh : α) (new : P fresh) : ∀ value ∈ values.set i fresh, P value := by
  intro value member
  rcases List.mem_or_eq_of_mem_set member with before | rfl
  · exact held value before
  · exact new

theorem forall_mem_push {α : Type} {P : α → Prop} {values : List α}
    (held : ∀ value ∈ values, P value)
    (fresh : α) (new : P fresh) : ∀ value ∈ values ++ [fresh], P value := by
  intro value member
  rcases List.mem_append.mp member with before | last
  · exact held value before
  · rw [List.mem_singleton.mp last]
    exact new

theorem forall_mem_modify {α : Type} {P : α → Prop} {values : List α}
    (held : ∀ value ∈ values, P value)
    (i : Nat) (f : α → α) (keeps : ∀ value, P value → P (f value)) :
    ∀ value ∈ values.modify i f, P value := by
  intro value member
  obtain ⟨j, present⟩ := List.mem_iff_getElem?.mp member
  rw [List.getElem?_modify] at present
  obtain ⟨before, found, rfl⟩ := Option.map_eq_some_iff.mp present
  have old := held before (List.mem_of_getElem? found)
  split
  · exact keeps before old
  · exact old

section Everywhere

variable {P : AgentRunJob → Prop} {s : QueueState} {w : Nat} {pc : WorkerPc} {flagged : Bool}

theorem everywhere_worker (held : Everywhere P s) (found : s.pool[w]? = some ⟨pc, flagged⟩) :
    ∀ job ∈ pc.jobs, P job :=
  held.pool _ (List.mem_of_getElem? found)

theorem everywhere_front (held : Everywhere P s) {item : WorkItem} {rest : List WorkItem}
    (front : s.queue = item :: rest) : P item.job ∧ ∀ other ∈ rest, P other.job := by
  have items := held.queue
  rw [front] at items
  exact ⟨items item List.mem_cons_self,
    fun other member => items other (List.mem_cons_of_mem _ member)⟩

theorem everywhere_effect {cfg : Config} {label : Label} {t : QueueState} (held : Everywhere P s)
    (submitted : ∀ job, label = .submit job → P job)
    (retried : ∀ job remaining, P job → P (AgentRunJob.retry job remaining))
    (stored : ∀ runId job, s.jobs.get runId = some job → P job)
    (effect : Effect cfg s label t) : Everywhere P t := by
  have kept := held.pool
  have none_ : ∀ job ∈ ([] : List AgentRunJob), P job := by simp
  have vacated {pool : List Worker} (w : Nat) (pc : WorkerPc) (flagged : Bool)
      (empty : pc.jobs = []) (before : ∀ worker ∈ pool, ∀ job ∈ worker.pc.jobs, P job) :
      ∀ worker ∈ pool.set w ⟨pc, flagged⟩, ∀ job ∈ worker.pc.jobs, P job :=
    forall_mem_set before w ⟨pc, flagged⟩ (by simp [empty])
  have single {job : AgentRunJob} (holds : P job) : ∀ other ∈ [job], P other := by
    simpa using holds
  cases effect with
  | environment | withdraw | flag => exact ⟨held.queue, held.pool, held.tasks, held.recoveries⟩
  | submit job handler events fresh room logged =>
      exact ⟨forall_mem_push held.queue _ (submitted job rfl), held.pool, held.tasks,
        held.recoveries⟩
  | spawn count workers =>
      refine ⟨held.queue, ?_, held.tasks, held.recoveries⟩
      intro worker member
      rcases List.mem_append.mp member with before | fresh
      · exact held.pool worker before
      · rw [List.eq_of_mem_replicate fresh]
        exact none_
  | interrupt w pc flagged found suspended =>
      exact ⟨held.queue, forall_mem_set kept w _ (everywhere_worker held found), held.tasks,
        held.recoveries⟩
  | mark w wait marked flagged found same =>
      have before := everywhere_worker held found
      refine ⟨held.queue, forall_mem_set kept w _ ?_, held.tasks, held.recoveries⟩
      show ∀ job ∈ [marked.item.job], P job
      rw [same.1]
      exact before
  | touch task =>
      refine ⟨held.queue, held.pool, forall_mem_modify held.tasks task _ ?_, held.recoveries⟩
      intro before holds
      split <;> exact holds
  | skip w item rest found front withdrawn =>
      exact ⟨(everywhere_front held front).2, held.pool, held.tasks, held.recoveries⟩
  | contend w item rest locks found front same held_ =>
      obtain ⟨first, others⟩ := everywhere_front held front
      exact ⟨forall_mem_push others item first, vacated w _ _ rfl kept, held.tasks,
        held.recoveries⟩
  | contendFull w item rest locks found front same full =>
      obtain ⟨first, others⟩ := everywhere_front held front
      exact ⟨others, forall_mem_set kept w _ (single first), held.tasks, held.recoveries⟩
  | begin w item rest locks heartbeats deadline events found front wanted free taken logged =>
      obtain ⟨first, others⟩ := everywhere_front held front
      exact ⟨others, forall_mem_set kept w _ (single first), forall_mem_push held.tasks _ first,
        held.recoveries⟩
  | beginFails w item rest locks heartbeats statuses events found front wanted same status =>
      exact ⟨(everywhere_front held front).2, vacated w _ _ rfl kept, held.tasks, held.recoveries⟩
  | reput w item found room =>
      have carried := everywhere_worker held found item.job List.mem_cons_self
      exact ⟨forall_mem_push held.queue item carried, vacated w _ _ rfl kept, held.tasks,
        held.recoveries⟩
  | wake w found => exact ⟨held.queue, vacated w _ _ rfl kept, held.tasks, held.recoveries⟩
  | outcome w wait flagged result status events pc found finished ends cancelled logged next =>
      refine ⟨held.queue, vacated w pc _ ?_ kept, held.tasks, held.recoveries⟩
      rcases next with rfl | rfl <;> rfl
  | swallow w wait flagged found finished requested =>
      exact ⟨held.queue, vacated w _ _ rfl kept, held.tasks, held.recoveries⟩
  | crash w wait flagged found finished unflagged =>
      exact ⟨held.queue, vacated w _ _ rfl kept, held.tasks, held.recoveries⟩
  | retry w wait flagged events remaining found finished unflagged room logged =>
      have carried := everywhere_worker held found wait.item.job List.mem_cons_self
      exact ⟨forall_mem_push held.queue _ (retried _ remaining carried), vacated w _ _ rfl kept,
        held.tasks, held.recoveries⟩
  | retryBlocked w wait flagged events remaining found finished unflagged full logged =>
      have carried := everywhere_worker held found wait.item.job List.mem_cons_self
      refine ⟨held.queue, forall_mem_set kept w _ ?_, held.tasks, held.recoveries⟩
      intro job member
      rcases List.mem_cons.mp member with rfl | last
      · exact carried
      · rw [List.mem_singleton.mp last]
        exact retried _ remaining carried
  | retryLost w wait flagged remaining found finished unflagged =>
      exact ⟨held.queue, vacated w _ _ rfl kept, held.tasks, held.recoveries⟩
  | retryPut w item retry found room =>
      have carried := everywhere_worker held found retry.job (by simp [WorkerPc.jobs])
      exact ⟨forall_mem_push held.queue retry carried, vacated w _ _ rfl kept, held.tasks,
        held.recoveries⟩
  | dropRetry w item retry found =>
      exact ⟨held.queue, vacated w _ _ rfl kept, held.tasks, held.recoveries⟩
  | die w pc found suspended =>
      exact ⟨held.queue, vacated w _ _ rfl kept, held.tasks, held.recoveries⟩
  | finish task outcome active =>
      exact ⟨held.queue, held.pool, forall_mem_modify held.tasks task _ (fun _ holds => holds),
        held.recoveries⟩
  | recover call scanning fresh snapshot =>
      refine ⟨held.queue, held.pool, held.tasks, forall_mem_push held.recoveries call ?_⟩
      rw [fresh]
      exact none_
  | advance i call next recovered snapshot scanning found plain onward suffix =>
      refine ⟨held.queue, held.pool, held.tasks, forall_mem_set held.recoveries i _ ?_⟩
      cases next with
      | scanning | returned | raised => exact none_
      | gathering | putting => cases onward
  | gather i call runId job task rest scanning found plain front known current =>
      exact ⟨held.queue, held.pool, held.tasks,
        forall_mem_set held.recoveries i _ (single (stored runId job known))⟩
  | settle i call runId job requested queue status events pc snapshot recovered scanning found
      suffix source logged branch =>
      have holds : P job := by
        rcases source with ⟨known, _⟩ | ⟨task, waiting, _⟩
        · exact stored runId job known
        · refine held.recoveries call (List.mem_of_getElem? found) job ?_
          rw [waiting]
          exact List.mem_cons_self
      have unchanged := held.queue
      rcases branch with ⟨remaining, handler, rfl, ⟨rfl, _, rfl⟩ | ⟨rfl, _, rfl⟩⟩ |
        ⟨_, rfl, rfl, rfl⟩ | ⟨_, rfl, rfl, plain⟩
      · exact ⟨forall_mem_push unchanged _ (retried job remaining holds), held.pool, held.tasks,
          forall_mem_set held.recoveries i _ none_⟩
      · exact ⟨unchanged, held.pool, held.tasks,
          forall_mem_set held.recoveries i _ (single (retried job remaining holds))⟩
      · exact ⟨unchanged, held.pool, held.tasks, forall_mem_set held.recoveries i _ none_⟩
      · refine ⟨unchanged, held.pool, held.tasks, forall_mem_set held.recoveries i _ ?_⟩
        cases pc with
        | scanning | returned | raised => exact none_
        | gathering | putting => cases plain
  | recoverPut i call item recovered scanning found waiting room =>
      have carried : P item.job := by
        refine held.recoveries call (List.mem_of_getElem? found) item.job ?_
        rw [waiting]
        exact List.mem_cons_self
      exact ⟨forall_mem_push held.queue item carried, held.pool, held.tasks,
        forall_mem_set held.recoveries i _ none_⟩

end Everywhere

def Known (jobs : Dict UUID AgentRunJob) (job : AgentRunJob) : Prop :=
  ∃ stored, jobs.get job.runId = some stored ∧ stored.taskId = job.taskId ∧
    stored.maxAttempts = job.maxAttempts

theorem known_same {jobs : Dict UUID AgentRunJob} {left right : AgentRunJob}
    (first : Known jobs left) (second : Known jobs right) (same : left.runId = right.runId) :
    left.taskId = right.taskId := by
  obtain ⟨stored, present, task, _⟩ := first
  obtain ⟨other, found, otherTask, _⟩ := second
  rw [same, found] at present
  obtain rfl := Option.some.inj present
  rw [← task, otherTask]

def Fresh (s : QueueState) : Label → Prop
  | .submit job => s.jobs.get job.runId = none
  | .quiet | .resume _ _ | .settle _ _ => True

section Growth

variable {cfg : Config} {label : Label} {s t : QueueState}

theorem jobs_effect (effect : Effect cfg s label t) :
    t.jobs = s.jobs ∨ ∃ job, label = .submit job ∧ t.jobs = s.jobs.set job.runId job := by
  cases effect with
  | submit job => exact Or.inr ⟨job, rfl, rfl⟩
  | _ => exact Or.inl rfl

theorem jobs_persist (effect : Effect cfg s label t) (fresh : Fresh s label) {runId : UUID}
    {job : AgentRunJob} (stored : s.jobs.get runId = some job) : t.jobs.get runId = some job := by
  rcases jobs_effect effect with same | ⟨new, rfl, added⟩
  · rw [same, stored]
  · have different : new.runId ≠ runId := by
      intro same
      subst same
      exact nomatch stored.symm.trans fresh
    rw [added, Dict.get_set_other _ _ _ _ different, stored]

theorem taskJob_persists (effect : Effect cfg s label t) {task : Nat} {job : AgentRunJob}
    (begun : taskJob s.tasks task = some job) : taskJob t.tasks task = some job := by
  cases effect with
  | touch other =>
      refine (taskJob_modify s.tasks other task _ ?_).trans begun
      intro before
      split <;> rfl
  | finish other outcome active =>
      exact (taskJob_modify s.tasks other task
        (fun handler => { handler with outcome := some outcome }) fun _ => rfl).trans begun
  | begin => exact taskJob_append _ _ _ _ begun
  | _ => exact begun

end Growth

structure Registered (s : QueueState) : Prop where
  stored : ∀ runId job, s.jobs.get runId = some job → job.runId = runId
  circulating : Everywhere (Known s.jobs) s
  listed : ∀ runId status, s.statuses.get runId = some status → ∃ job, s.jobs.get runId = some job
  audited : ∀ event ∈ s.events, ∃ job, s.jobs.get event.runId = some job
  current : ∀ w wait, pcAt s.pool w = some (.awaiting wait) →
    s.handlerTasks.get wait.item.job.runId = some wait.task
  owned : ∀ runId task, s.handlerTasks.get runId = some task →
    ∃ job, taskJob s.tasks task = some job ∧ job.runId = runId
  gathering : ∀ call ∈ s.recoveries, ∀ runId job task, call.pc = .gathering runId job task →
    s.jobs.get runId = some job ∧ ∃ begun, taskJob s.tasks task = some begun ∧ begun.runId = runId

section Registered

variable {cfg : Config} {label : Label} {s t : QueueState}

theorem stored_effect (registered : Registered s) (effect : Effect cfg s label t) (runId : UUID)
    (job : AgentRunJob) (present : t.jobs.get runId = some job) : job.runId = runId := by
  rcases jobs_effect effect with same | ⟨new, _, added⟩
  · rw [same] at present
    exact registered.stored runId job present
  · rw [added, Dict.get_set] at present
    split at present
    · next own =>
        rw [← Option.some.inj present]
        exact own
    · exact registered.stored runId job present

theorem known_persists (effect : Effect cfg s label t) (fresh : Fresh s label) (job : AgentRunJob)
    (known : Known s.jobs job) : Known t.jobs job := by
  obtain ⟨stored, present, facts⟩ := known
  exact ⟨stored, jobs_persist effect fresh present, facts⟩

theorem circulating_effect (registered : Registered s) (fresh : Fresh s label)
    (effect : Effect cfg s label t) : Everywhere (Known t.jobs) t := by
  have before := everywhere_mono registered.circulating (known_persists effect fresh)
  refine everywhere_effect before ?_ ?_ ?_ effect
  · rintro job rfl
    rcases jobs_effect effect with same | ⟨new, submitted, added⟩
    · cases effect
      exact ⟨job, Dict.get_set_self _ _ _, rfl, rfl⟩
    · obtain rfl := Label.submit.inj submitted
      exact ⟨job, by rw [added, Dict.get_set_self], rfl, rfl⟩
  · intro job remaining known
    exact known
  · intro runId job present
    have own := registered.stored runId job present
    subst own
    exact ⟨job, jobs_persist effect fresh present, rfl, rfl⟩

theorem listed_set {accepted : UUID → Prop} {statuses : Dict UUID AgentRunStatus}
    (listed : ∀ runId status, statuses.get runId = some status → accepted runId) (key : UUID)
    (value : AgentRunStatus) (own : accepted key) :
    ∀ runId status, (statuses.set key value).get runId = some status → accepted runId := by
  intro runId status present
  rw [Dict.get_set] at present
  split at present
  · next same => exact same ▸ own
  · exact listed runId status present

theorem listed_effect (registered : Registered s) (fresh : Fresh s label)
    (effect : Effect cfg s label t) (runId : UUID) (status : AgentRunStatus)
    (present : t.statuses.get runId = some status) : ∃ job, t.jobs.get runId = some job := by
  have before := registered.listed
  have working {w : Nat} {wait : HandlerWait} {flagged : Bool}
      (found : s.pool[w]? = some ⟨.awaiting wait, flagged⟩) :
      ∃ job, s.jobs.get wait.item.job.runId = some job := by
    obtain ⟨job, present, _⟩ :=
      everywhere_worker registered.circulating found wait.item.job List.mem_cons_self
    exact ⟨job, present⟩
  have first {item : WorkItem} {rest : List WorkItem} (front : s.queue = item :: rest) :
      ∃ job, s.jobs.get item.job.runId = some job := by
    obtain ⟨⟨job, present, _⟩, _⟩ := everywhere_front registered.circulating front
    exact ⟨job, present⟩
  cases effect with
  | submit job handler events new room logged =>
      change (s.statuses.set job.runId .queued).get runId = some status at present
      rw [Dict.get_set] at present
      show ∃ other, (s.jobs.set job.runId job).get runId = some other
      rw [Dict.get_set]
      split at present
      · next same => exact ⟨job, if_pos same⟩
      · next other =>
          rw [if_neg other]
          exact before runId status present
  | withdraw other events queued logged =>
      exact listed_set before other _ (before other _ queued) runId status present
  | begin w item rest locks heartbeats deadline events found front =>
      exact listed_set before _ _ (first front) runId status present
  | beginFails w item rest locks heartbeats statuses events found front wanted same branch =>
      rcases branch with ⟨rfl, _⟩ | rfl
      · exact before runId status present
      · exact listed_set before _ _ (first front) runId status present
  | outcome w wait flagged result ended events pc found =>
      exact listed_set before _ _ (working found) runId status present
  | retry w wait flagged events remaining found =>
      exact listed_set before _ _ (working found) runId status present
  | retryBlocked w wait flagged events remaining found =>
      exact listed_set before _ _ (working found) runId status present
  | retryLost w wait flagged remaining found =>
      exact listed_set before _ _ (working found) runId status present
  | settle i call settled job requested queue new events pc snapshot recovered scanning found
      suffix source =>
      refine listed_set before _ _ ?_ runId status present
      rcases source with ⟨known, _⟩ | ⟨task, waiting, _⟩
      · exact ⟨job, known⟩
      · exact ⟨job, (registered.gathering call (List.mem_of_getElem? found) _ _ _ waiting).1⟩
  | _ => exact before runId status present

theorem audited_logged {jobs : Dict UUID AgentRunJob} {before after : List QueueAuditEvent}
    {event : QueueAuditEvent} (audited : ∀ e ∈ before, ∃ job, jobs.get e.runId = some job)
    (logged : Logs before event after) (own : ∃ job, jobs.get event.runId = some job) :
    ∀ e ∈ after, ∃ job, jobs.get e.runId = some job := by
  rcases logged with rfl | rfl
  · exact audited
  · exact forall_mem_push audited event own

theorem audited_effect (registered : Registered s) (fresh : Fresh s label)
    (effect : Effect cfg s label t) : ∀ e ∈ t.events, ∃ job, t.jobs.get e.runId = some job := by
  have before : ∀ e ∈ s.events, ∃ job, t.jobs.get e.runId = some job := by
    intro e member
    obtain ⟨job, present⟩ := registered.audited e member
    exact ⟨job, jobs_persist effect fresh present⟩
  have listed := listed_effect registered fresh effect
  cases effect with
  | submit job handler events new room logged =>
      exact audited_logged before logged (listed job.runId .queued (Dict.get_set_self _ _ _))
  | withdraw runId events queued logged =>
      rcases logged with rfl | ⟨job, stored, rfl⟩
      · exact before
      · refine forall_mem_push before _ ⟨job, ?_⟩
        show s.jobs.get job.runId = some job
        rw [registered.stored runId job stored, stored]
  | begin w item rest locks heartbeats deadline events found front wanted free taken logged =>
      exact audited_logged before logged (listed item.job.runId .running (Dict.get_set_self _ _ _))
  | beginFails w item rest locks heartbeats statuses events found front wanted same status free
      logged =>
      obtain ⟨stored, present, _⟩ := (everywhere_front registered.circulating front).1
      exact audited_logged before logged ⟨stored, present⟩
  | outcome w wait flagged result status events pc found finished ends cancelled logged =>
      exact audited_logged before logged
        (listed wait.item.job.runId status (Dict.get_set_self _ _ _))
  | retry w wait flagged events remaining found finished unflagged room logged =>
      exact audited_logged before logged
        (listed wait.item.job.runId .retrying (Dict.get_set_self _ _ _))
  | retryBlocked w wait flagged events remaining found finished unflagged full logged =>
      exact audited_logged before logged
        (listed wait.item.job.runId .retrying (Dict.get_set_self _ _ _))
  | settle i call runId job requested queue status events pc snapshot recovered scanning found
      suffix source logged =>
      refine audited_logged before logged ?_
      have stored : s.jobs.get runId = some job := by
        rcases source with ⟨known, _⟩ | ⟨task, waiting, _⟩
        · exact known
        · exact (registered.gathering call (List.mem_of_getElem? found) _ _ _ waiting).1
      show ∃ other, s.jobs.get job.runId = some other
      rw [registered.stored runId job stored]
      exact ⟨job, stored⟩
  | _ => exact before

theorem holding_unique (sound : Sound s) (registered : Registered s) (v w : Nat)
    (wait : HandlerWait)
    (pc : WorkerPc) (waits : pcAt s.pool v = some (.awaiting wait)) (at_ : pcAt s.pool w = some pc)
    (job : AgentRunJob) (holds : pc.holding = some job) (same : wait.item.job.runId = job.runId) :
    v = w := by
  have carried {u : Nat} {pc : WorkerPc} (present : pcAt s.pool u = some pc) :
      ∀ job ∈ pc.jobs, Known s.jobs job := by
    obtain ⟨worker, found, rfl⟩ := Option.map_eq_some_iff.mp present
    exact registered.circulating.pool worker (List.mem_of_getElem? found)
  have member : job ∈ pc.jobs := by
    cases pc with
    | awaiting other => exact List.mem_singleton.mpr (Option.some.inj holds).symm
    | retrying item retry => exact List.mem_cons.mpr (Or.inl (Option.some.inj holds).symm)
    | getting | reputting | sleeping | done => cases holds
  have task : wait.item.job.taskId = job.taskId :=
    known_same (carried waits _ List.mem_cons_self) (carried at_ job member) same
  refine sound.exclusive.exclusive v w wait.item.job.taskId ?_ ?_
  · simp [holder, waits, WorkerPc.holding]
  · simp [holder, at_, holds, task]

def Current (pool : List Worker) (handlerTasks : Dict UUID Nat) : Prop :=
  ∀ w wait, pcAt pool w = some (.awaiting wait) →
    handlerTasks.get wait.item.job.runId = some wait.task

theorem current_moved {pool : List Worker} {handlerTasks : Dict UUID Nat} {w : Nat} {old : Worker}
    (current : Current pool handlerTasks) (found : pool[w]? = some old) (next : WorkerPc)
    (mark : Bool) (elsewhere : ∀ wait, next ≠ .awaiting wait) :
    Current (pool.set w ⟨next, mark⟩) handlerTasks := by
  intro v wait waits
  rw [pcAt_set found, awaiting_update elsewhere] at waits
  exact current v wait waits.2

theorem current_closed (sound : Sound s) (registered : Registered s) {w : Nat} {pc : WorkerPc}
    {flagged : Bool} (found : s.pool[w]? = some ⟨pc, flagged⟩) (job : AgentRunJob)
    (holds : pc.holding = some job) (next : WorkerPc) (elsewhere : ∀ wait, next ≠ .awaiting wait) :
    Current (s.pool.set w ⟨next, false⟩) (s.handlerTasks.pop job.runId) := by
  intro v wait waits
  rw [pcAt_set found, awaiting_update elsewhere] at waits
  rw [Dict.get_pop, if_neg]
  · exact registered.current v wait waits.2
  · intro same
    exact waits.1 (holding_unique sound registered v w wait pc waits.2 (pcAt_found found) job holds
      same.symm)

theorem current_effect (sound : Sound s) (registered : Registered s)
    (effect : Effect cfg s label t) : Current t.pool t.handlerTasks := by
  have current : Current s.pool s.handlerTasks := registered.current
  cases effect with
  | environment | submit | withdraw | flag | touch | skip | finish | recover | advance | gather
  | settle | recoverPut => exact current
  | spawn count workers =>
      intro w wait waits
      rcases pcAt_spawn s.pool count w with same | ⟨absent, spawned⟩
      · exact current w wait (same ▸ waits)
      · cases spawned.symm.trans waits
  | interrupt w pc flagged found suspended =>
      refine current_moved current found pc true ?_
      rintro wait rfl
      cases suspended
  | mark w wait marked flagged found same =>
      intro v before waits
      change pcAt (s.pool.set w ⟨.awaiting marked, false⟩) v = _ at waits
      rw [pcAt_set found] at waits
      by_cases here : v = w
      · subst here
        rw [Function.update_self] at waits
        obtain rfl := WorkerPc.awaiting.inj (Option.some.inj waits)
        show s.handlerTasks.get marked.item.job.runId = some marked.task
        rw [same.1, same.2]
        exact current v wait (pcAt_found found)
      · rw [Function.update_of_ne here] at waits
        exact current v before waits
  | contend w item rest locks found => exact current_moved current found _ _ (by simp)
  | contendFull w item rest locks found => exact current_moved current found _ _ (by simp)
  | begin w item rest locks heartbeats deadline events found front wanted free taken logged =>
      intro v wait waits
      change pcAt (s.pool.set w _) v = _ at waits
      show (s.handlerTasks.set item.job.runId s.tasks.length).get _ = _
      rw [pcAt_set found] at waits
      by_cases here : v = w
      · subst here
        rw [Function.update_self] at waits
        obtain rfl := WorkerPc.awaiting.inj (Option.some.inj waits)
        exact Dict.get_set_self _ _ _
      · rw [Function.update_of_ne here] at waits
        rw [Dict.get_set, if_neg]
        · exact current v wait waits
        · intro same
          obtain ⟨worker, present, at_⟩ := Option.map_eq_some_iff.mp waits
          have carried : Known s.jobs wait.item.job := by
            refine registered.circulating.pool worker (List.mem_of_getElem? present) _ ?_
            rw [at_]
            exact List.mem_cons_self
          have task :=
            known_same carried (everywhere_front registered.circulating front).1 same.symm
          refine free (task ▸ sound.exclusive.held v _ ?_)
          simp [holder, waits, WorkerPc.holding]
  | beginFails w item rest locks heartbeats statuses events found =>
      exact current_moved current found _ _ (by simp)
  | reput w item found => exact current_moved current found _ _ (by simp)
  | wake w found => exact current_moved current found _ _ (by simp)
  | outcome w wait flagged result status events pc found finished ends cancelled logged next =>
      refine current_closed sound registered found _ rfl pc ?_
      rcases next with rfl | rfl <;> simp
  | swallow w wait flagged found => exact current_closed sound registered found _ rfl _ (by simp)
  | crash w wait flagged found => exact current_closed sound registered found _ rfl _ (by simp)
  | retry w wait flagged events remaining found =>
      exact current_closed sound registered found _ rfl _ (by simp)
  | retryBlocked w wait flagged events remaining found =>
      exact current_moved current found _ _ (by simp)
  | retryLost w wait flagged remaining found =>
      exact current_closed sound registered found _ rfl _ (by simp)
  | retryPut w item retry found => exact current_closed sound registered found _ rfl _ (by simp)
  | dropRetry w item retry found => exact current_closed sound registered found _ rfl _ (by simp)
  | die w pc found suspended => exact current_moved current found _ _ (by simp)

theorem handlerTasks_effect (effect : Effect cfg s label t) (runId : UUID) (task : Nat)
    (present : t.handlerTasks.get runId = some task) :
    s.handlerTasks.get runId = some task ∨
      ∃ job, taskJob t.tasks task = some job ∧ job.runId = runId := by
  have popped {key : UUID} (present : (s.handlerTasks.pop key).get runId = some task) :
      s.handlerTasks.get runId = some task := by
    rw [Dict.get_pop] at present
    split at present
    · cases present
    · exact present
  cases effect with
  | begin w item rest locks heartbeats deadline events found front wanted free taken logged =>
      change (s.handlerTasks.set item.job.runId s.tasks.length).get runId = some task at present
      rw [Dict.get_set] at present
      split at present
      · next own =>
          obtain rfl := Option.some.inj present
          refine Or.inr ⟨item.job, ?_, own⟩
          show taskJob (s.tasks ++ [_]) s.tasks.length = some item.job
          simp [taskJob]
      · exact Or.inl present
  | outcome | swallow | crash | retry | retryLost | retryPut | dropRetry =>
      exact Or.inl (popped present)
  | _ => exact Or.inl present

theorem owned_effect (registered : Registered s) (effect : Effect cfg s label t) (runId : UUID)
    (task : Nat) (present : t.handlerTasks.get runId = some task) :
    ∃ job, taskJob t.tasks task = some job ∧ job.runId = runId := by
  rcases handlerTasks_effect effect runId task present with before | begun
  · obtain ⟨job, begun, own⟩ := registered.owned runId task before
    exact ⟨job, taskJob_persists effect begun, own⟩
  · exact begun

theorem gathering_effect (registered : Registered s) (fresh : Fresh s label)
    (effect : Effect cfg s label t) : ∀ call ∈ t.recoveries, ∀ runId job task,
      call.pc = .gathering runId job task → t.jobs.get runId = some job ∧
        ∃ begun, taskJob t.tasks task = some begun ∧ begun.runId = runId := by
  have before : ∀ call ∈ s.recoveries, ∀ runId job task, call.pc = .gathering runId job task →
      t.jobs.get runId = some job ∧
        ∃ begun, taskJob t.tasks task = some begun ∧ begun.runId = runId := by
    intro call member runId job task waiting
    obtain ⟨stored, begun, present, own⟩ := registered.gathering call member runId job task waiting
    exact ⟨jobs_persist effect fresh stored, begun, taskJob_persists effect present, own⟩
  have plainly {next : RecoverPc} (plain : next.plain = true) (runId : UUID) (job : AgentRunJob)
      (task : Nat) : next ≠ .gathering runId job task := by
    rintro rfl
    cases plain
  cases effect with
  | recover call scanning new snapshot =>
      refine forall_mem_push before call ?_
      intro runId job task waiting
      exact nomatch new.symm.trans waiting
  | advance i call next recovered snapshot scanning found plain onward suffix =>
      refine forall_mem_set before i _ ?_
      intro runId job task waiting
      exact absurd waiting (plainly onward _ _ _)
  | gather i call runId job task rest scanning found plain front stored current =>
      refine forall_mem_set before i _ ?_
      intro other otherJob otherTask waiting
      obtain ⟨rfl, rfl, rfl⟩ := RecoverPc.gathering.inj waiting
      exact ⟨stored, registered.owned runId task current⟩
  | settle i call runId job requested queue status events pc snapshot recovered scanning found
      suffix source logged branch =>
      refine forall_mem_set before i _ ?_
      intro other otherJob otherTask waiting
      rcases branch with ⟨_, _, _, ⟨_, _, rfl⟩ | ⟨_, _, rfl⟩⟩ | ⟨_, _, _, rfl⟩ | ⟨_, _, _, plain⟩
      · cases waiting
      · cases waiting
      · cases waiting
      · exact absurd waiting (plainly plain _ _ _)
  | recoverPut i call item recovered scanning found waiting room =>
      refine forall_mem_set before i _ ?_
      intro other otherJob otherTask gathering
      cases gathering
  | _ => exact before

theorem registered_effect (sound : Sound s) (registered : Registered s) (fresh : Fresh s label)
    (effect : Effect cfg s label t) : Registered t :=
  ⟨stored_effect registered effect, circulating_effect registered fresh effect,
    listed_effect registered fresh effect, audited_effect registered fresh effect,
    current_effect sound registered effect, owned_effect registered effect,
    gathering_effect registered fresh effect⟩

end Registered

theorem registered_initial : Registered initial := by
  constructor
  · simp [initial]
  · exact everywhere_initial _
  · simp [initial]
  · simp [initial]
  · simp [initial, pcAt]
  · simp [initial]
  · simp [initial]

structure Coherent (s : QueueState) : Prop where
  sound : Sound s
  registered : Registered s

theorem coherent_initial : Coherent initial := ⟨sound_initial, registered_initial⟩

theorem coherent_effect {cfg : Config} {label : Label} {s t : QueueState} (coherent : Coherent s)
    (fresh : Fresh s label) (effect : Effect cfg s label t) : Coherent t :=
  ⟨sound_effect coherent.sound effect,
    registered_effect coherent.sound coherent.registered fresh effect⟩

end SynapseOS.Queue
