import SynapseOS.Lib.Tally
import SynapseOS.Queue.Lifecycle
import SynapseOS.Queue.Registry

/-! Each effect of the queue is a move of the run it is about, and leaves the other runs alone. -/

namespace SynapseOS.Queue

open RunView

def share (runId : UUID) : Option AgentRunJob → Multiset ℕ
  | some job => if job.runId = runId then {job.attempt} else 0
  | none => 0

def WorkerPc.ticket : WorkerPc → Option AgentRunJob
  | .reputting item => some item.job
  | .retrying _ retry => some retry.job
  | .getting | .sleeping | .awaiting _ | .done => none

def WorkerPc.executing : WorkerPc → Option AgentRunJob
  | .awaiting wait => some wait.item.job
  | .getting | .sleeping | .reputting _ | .retrying _ _ | .done => none

def RecoverPc.ticket : RecoverPc → Option AgentRunJob
  | .putting item => some item.job
  | .scanning | .gathering _ _ _ | .returned | .raised => none

def queued (runId : UUID) (queue : List WorkItem) : Multiset ℕ :=
  tally (fun item => share runId (some item.job)) queue

def inHand (runId : UUID) (pool : List Worker) : Multiset ℕ :=
  tally (fun worker => share runId worker.pc.ticket) pool

def running (runId : UUID) (pool : List Worker) : Multiset ℕ :=
  tally (fun worker => share runId worker.pc.executing) pool

def recovering (runId : UUID) (recoveries : List RecoverCall) : Multiset ℕ :=
  tally (fun call => share runId call.pc.ticket) recoveries

def attemptsOf (runId : UUID) (tasks : List HandlerTask) : List ℕ :=
  (tasks.filter fun task => decide (task.job.runId = runId)).map fun task => task.job.attempt

def outcomesOf (runId : UUID) (events : List QueueAuditEvent) : List AgentRunStatus :=
  (events.filter fun event => decide (event.runId = runId) && event.status.terminal).map
    fun event => event.status

/-- The queue as one run sees it. -/
def view (s : QueueState) (runId : UUID) : RunView where
  status := s.statuses.get runId
  tickets := queued runId s.queue + inHand runId s.pool + recovering runId s.recoveries
  executing := running runId s.pool
  started := attemptsOf runId s.tasks
  outcomes := outcomesOf runId s.events

inductive Refined (s : QueueState) (runId : UUID) : Label → RunView → RunView → Prop
  | stays {label : Label} {v w : RunView} (same : w = v) : Refined s runId label v w
  | moves {label : Label} {v w : RunView} (stored : AgentRunJob)
      (known : s.jobs.get runId = some stored) (move : Move stored.maxAttempts v w) :
      Refined s runId label v w
  | submits {v w : RunView} (job : AgentRunJob) (own : job.runId = runId)
      (submit : Submit job.attempt v w) : Refined s runId (.submit job) v w
  | settles {v w : RunView} (job : AgentRunJob) (known : s.jobs.get runId = some job)
      (settle : Settle job.attempt job.maxAttempts v w) : Refined s runId (.settle runId job) v w

section Shares

variable (runId : UUID)

@[simp] theorem share_none : share runId none = 0 := rfl

theorem share_own {runId : UUID} {job : AgentRunJob} (own : job.runId = runId) :
    share runId (some job) = {job.attempt} := if_pos own

theorem share_other {runId : UUID} {job : AgentRunJob} (other : job.runId ≠ runId) :
    share runId (some job) = 0 := if_neg other

theorem mem_share {job : Option AgentRunJob} {attempt : ℕ} (member : attempt ∈ share runId job) :
    ∃ carried, job = some carried ∧ carried.runId = runId ∧ carried.attempt = attempt := by
  cases job with
  | none => exact absurd member (Multiset.notMem_zero _)
  | some carried =>
      by_cases own : carried.runId = runId
      · rw [share_own own, Multiset.mem_singleton] at member
        exact ⟨carried, rfl, own, member.symm⟩
      · rw [share_other own] at member
        exact absurd member (Multiset.notMem_zero _)

theorem queued_push (queue : List WorkItem) (item : WorkItem) :
    queued runId (queue ++ [item]) = queued runId queue + share runId (some item.job) := by
  simp [queued]

theorem queued_front (item : WorkItem) (rest : List WorkItem) :
    queued runId (item :: rest) = share runId (some item.job) + queued runId rest := by
  simp [queued]

theorem attemptsOf_push (tasks : List HandlerTask) (task : HandlerTask) :
    attemptsOf runId (tasks ++ [task]) =
      attemptsOf runId tasks ++ if task.job.runId = runId then [task.job.attempt] else [] := by
  by_cases own : task.job.runId = runId <;> simp [attemptsOf, own]

theorem attemptsOf_modify (tasks : List HandlerTask) (task : Nat) (f : HandlerTask → HandlerTask)
    (same : ∀ handler, (f handler).job = handler.job) :
    attemptsOf runId (tasks.modify task f) = attemptsOf runId tasks := by
  induction tasks generalizing task with
  | nil => simp
  | cons head tail ih =>
      cases task with
      | zero => by_cases own : head.job.runId = runId <;> simp [attemptsOf, same, own]
      | succ task =>
          have tail_ := ih task
          unfold attemptsOf at tail_ ⊢
          by_cases own : head.job.runId = runId <;> simp [own, tail_]

theorem outcomesOf_push (events : List QueueAuditEvent) (event : QueueAuditEvent) :
    outcomesOf runId (events ++ [event]) = outcomesOf runId events ++
      if event.runId = runId ∧ event.status.terminal = true then [event.status] else [] := by
  by_cases own : event.runId = runId
  · by_cases ends : event.status.terminal = true <;> simp [outcomesOf, own, ends]
  · simp [outcomesOf, own]

theorem outcomes_open {before after : List QueueAuditEvent} {event : QueueAuditEvent}
    (logged : Logs before event after) (open_ : event.status.terminal = false) :
    outcomesOf runId after = outcomesOf runId before := by
  rcases logged with rfl | rfl
  · rfl
  · simp [outcomesOf_push, open_]

theorem outcomes_other {before after : List QueueAuditEvent} {event : QueueAuditEvent}
    (logged : Logs before event after) (other : event.runId ≠ runId) :
    outcomesOf runId after = outcomesOf runId before := by
  rcases logged with rfl | rfl
  · rfl
  · simp [outcomesOf_push, other]

theorem outcomes_own {before after : List QueueAuditEvent} {event : QueueAuditEvent}
    (logged : Logs before event after) (own : event.runId = runId)
    (ends : event.status.terminal = true) :
    Recorded (outcomesOf runId before) (outcomesOf runId after) event.status := by
  rcases logged with rfl | rfl
  · exact Or.inl rfl
  · refine Or.inr ?_
    rw [outcomesOf_push, if_pos ⟨own, ends⟩]

end Shares

section Kinds

variable {s t : QueueState} {label : Label} (runId : UUID) (job : AgentRunJob)
  (known : Known s.jobs job)

theorem status_other (statuses : Dict UUID AgentRunStatus) (status : AgentRunStatus)
    (other : job.runId ≠ runId) :
    (statuses.set job.runId status).get runId = statuses.get runId :=
  Dict.get_set_other _ _ _ _ other

include known

theorem refined_drop (status : t.statuses = s.statuses)
    (taken : (view s runId).tickets = share runId (some job) + (view t runId).tickets)
    (executing : (view t runId).executing = (view s runId).executing)
    (tasks : t.tasks = s.tasks) (logged : Logs s.events (auditEvent job .running) t.events) :
    Refined s runId label (view s runId) (view t runId) := by
  have stored_ : (view t runId).status = (view s runId).status := by simp only [view, status]
  have started : (view t runId).started = (view s runId).started := by simp only [view, tasks]
  have outcomes : (view t runId).outcomes = (view s runId).outcomes :=
    outcomes_open runId logged rfl
  by_cases own : job.runId = runId
  · obtain ⟨stored, present, _⟩ := known
    rw [share_own own, Multiset.singleton_add] at taken
    exact .moves stored (own ▸ present)
      (.drop job.attempt stored_ taken executing started outcomes)
  · rw [share_other own, zero_add] at taken
    exact .stays (RunView.ext stored_ taken.symm executing started outcomes)

theorem refined_begin (wanted : s.statuses.get job.runId ≠ some .cancelled)
    (status : t.statuses = s.statuses.set job.runId .running)
    (taken : (view s runId).tickets = share runId (some job) + (view t runId).tickets)
    (executing : (view t runId).executing = share runId (some job) + (view s runId).executing)
    (handler : RunHandler) (tasks : t.tasks = s.tasks ++ [{ job, handler : HandlerTask }])
    (logged : Logs s.events (auditEvent job .running) t.events) :
    Refined s runId label (view s runId) (view t runId) := by
  have outcomes : (view t runId).outcomes = (view s runId).outcomes :=
    outcomes_open runId logged rfl
  have started : (view t runId).started =
      (view s runId).started ++ if job.runId = runId then [job.attempt] else [] := by
    simp only [view, tasks, attemptsOf_push]
  by_cases own : job.runId = runId
  · obtain ⟨stored, present, _⟩ := known
    rw [share_own own, Multiset.singleton_add] at taken executing
    rw [if_pos own] at started
    subst own
    refine .moves stored present (.begin job.attempt wanted ?_ taken executing started outcomes)
    simp only [view, status, Dict.get_set_self]
  · rw [share_other own, zero_add] at taken executing
    rw [if_neg own, List.append_nil] at started
    refine .stays (RunView.ext ?_ taken.symm executing started outcomes)
    simp only [view, status, status_other runId job _ _ own]

theorem refined_beginFails (wanted : s.statuses.get job.runId ≠ some .cancelled)
    (status : t.statuses = s.statuses.set job.runId .running)
    (taken : (view s runId).tickets = share runId (some job) + (view t runId).tickets)
    (executing : (view t runId).executing = (view s runId).executing)
    (tasks : t.tasks = s.tasks) (logged : Logs s.events (auditEvent job .running) t.events) :
    Refined s runId label (view s runId) (view t runId) := by
  have started : (view t runId).started = (view s runId).started := by simp only [view, tasks]
  have outcomes : (view t runId).outcomes = (view s runId).outcomes :=
    outcomes_open runId logged rfl
  by_cases own : job.runId = runId
  · obtain ⟨stored, present, _⟩ := known
    rw [share_own own, Multiset.singleton_add] at taken
    subst own
    refine .moves stored present
      (.beginFails job.attempt wanted ?_ taken executing started outcomes)
    simp only [view, status, Dict.get_set_self]
  · rw [share_other own, zero_add] at taken
    refine .stays (RunView.ext ?_ taken.symm executing started outcomes)
    simp only [view, status, status_other runId job _ _ own]

theorem refined_conclude (outcome : AgentRunStatus) (ends : outcome.terminal = true)
    (status : t.statuses = s.statuses.set job.runId outcome)
    (tickets : (view t runId).tickets = (view s runId).tickets)
    (left : (view s runId).executing = share runId (some job) + (view t runId).executing)
    (tasks : t.tasks = s.tasks) (logged : Logs s.events (auditEvent job outcome) t.events) :
    Refined s runId label (view s runId) (view t runId) := by
  have started : (view t runId).started = (view s runId).started := by simp only [view, tasks]
  by_cases own : job.runId = runId
  · obtain ⟨stored, present, _⟩ := known
    rw [share_own own, Multiset.singleton_add] at left
    have outcomes := outcomes_own runId logged own ends
    subst own
    refine .moves stored present
      (.conclude job.attempt outcome ends ?_ tickets left started outcomes)
    simp only [view, status, Dict.get_set_self]
  · rw [share_other own, zero_add] at left
    refine .stays (RunView.ext ?_ tickets left.symm started (outcomes_other runId logged own))
    simp only [view, status, status_other runId job _ _ own]

theorem refined_abandon (status : t.statuses = s.statuses)
    (tickets : (view t runId).tickets = (view s runId).tickets)
    (left : (view s runId).executing = share runId (some job) + (view t runId).executing)
    (tasks : t.tasks = s.tasks) (events : t.events = s.events) :
    Refined s runId label (view s runId) (view t runId) := by
  have stored_ : (view t runId).status = (view s runId).status := by simp only [view, status]
  have started : (view t runId).started = (view s runId).started := by simp only [view, tasks]
  have outcomes : (view t runId).outcomes = (view s runId).outcomes := by simp only [view, events]
  by_cases own : job.runId = runId
  · obtain ⟨stored, present, _⟩ := known
    rw [share_own own, Multiset.singleton_add] at left
    exact .moves stored (own ▸ present)
      (.abandon job.attempt stored_ tickets left started outcomes)
  · rw [share_other own, zero_add] at left
    exact .stays (RunView.ext stored_ tickets left.symm started outcomes)

theorem refined_retry (remaining : job.attempt < job.maxAttempts)
    (status : t.statuses = s.statuses.set job.runId .retrying)
    (issued : (view t runId).tickets =
      share runId (some (job.retry remaining)) + (view s runId).tickets)
    (left : (view s runId).executing = share runId (some job) + (view t runId).executing)
    (tasks : t.tasks = s.tasks) (logged : Logs s.events (auditEvent job .retrying) t.events) :
    Refined s runId label (view s runId) (view t runId) := by
  have started : (view t runId).started = (view s runId).started := by simp only [view, tasks]
  have outcomes : (view t runId).outcomes = (view s runId).outcomes :=
    outcomes_open runId logged rfl
  by_cases own : job.runId = runId
  · obtain ⟨stored, present, _, limit⟩ := known
    rw [share_own (show (job.retry remaining).runId = runId from own), retry_attempt,
      Multiset.singleton_add] at issued
    rw [share_own own, Multiset.singleton_add] at left
    subst own
    rw [← limit] at remaining
    refine .moves stored present (.retry job.attempt remaining ?_ issued left started outcomes)
    simp only [view, status, Dict.get_set_self]
  · rw [share_other (show (job.retry remaining).runId ≠ runId from own), zero_add] at issued
    rw [share_other own, zero_add] at left
    refine .stays (RunView.ext ?_ issued left.symm started outcomes)
    simp only [view, status, status_other runId job _ _ own]

theorem refined_retryLost (status : t.statuses = s.statuses.set job.runId .retrying)
    (tickets : (view t runId).tickets = (view s runId).tickets)
    (left : (view s runId).executing = share runId (some job) + (view t runId).executing)
    (tasks : t.tasks = s.tasks) (events : t.events = s.events) :
    Refined s runId label (view s runId) (view t runId) := by
  have started : (view t runId).started = (view s runId).started := by simp only [view, tasks]
  have outcomes : (view t runId).outcomes = (view s runId).outcomes := by simp only [view, events]
  by_cases own : job.runId = runId
  · obtain ⟨stored, present, _⟩ := known
    rw [share_own own, Multiset.singleton_add] at left
    subst own
    refine .moves stored present (.retryLost job.attempt ?_ tickets left started outcomes)
    simp only [view, status, Dict.get_set_self]
  · rw [share_other own, zero_add] at left
    refine .stays (RunView.ext ?_ tickets left.symm started outcomes)
    simp only [view, status, status_other runId job _ _ own]

end Kinds

section Pool

variable {pool : List Worker} {w : Nat} {pc : WorkerPc} {flagged : Bool} (runId : UUID)
  (found : pool[w]? = some ⟨pc, flagged⟩) (next : WorkerPc) (mark : Bool)

include found

theorem inHand_kept (same : next.ticket = pc.ticket) :
    inHand runId (pool.set w ⟨next, mark⟩) = inHand runId pool := by
  refine tally_kept _ pool w _ ⟨next, mark⟩ found ?_
  simp only [same]

theorem inHand_left (vacated : next.ticket = none) :
    inHand runId pool = inHand runId (pool.set w ⟨next, mark⟩) + share runId pc.ticket := by
  refine tally_lost _ pool w _ ⟨next, mark⟩ found ?_
  simp only [vacated, share_none]

theorem inHand_entered (idle : pc.ticket = none) :
    inHand runId (pool.set w ⟨next, mark⟩) = inHand runId pool + share runId next.ticket := by
  refine tally_gained _ pool w _ ⟨next, mark⟩ found ?_
  simp only [idle, share_none]

theorem running_kept (same : next.executing = pc.executing) :
    running runId (pool.set w ⟨next, mark⟩) = running runId pool := by
  refine tally_kept _ pool w _ ⟨next, mark⟩ found ?_
  simp only [same]

theorem running_left (vacated : next.executing = none) :
    running runId pool =
      share runId pc.executing + running runId (pool.set w ⟨next, mark⟩) := by
  rw [add_comm]
  refine tally_lost _ pool w _ ⟨next, mark⟩ found ?_
  simp only [vacated, share_none]

theorem running_entered (idle : pc.executing = none) :
    running runId (pool.set w ⟨next, mark⟩) =
      share runId next.executing + running runId pool := by
  rw [add_comm]
  refine tally_gained _ pool w _ ⟨next, mark⟩ found ?_
  simp only [idle, share_none]

end Pool

section Recoveries

variable {recoveries : List RecoverCall} {i : Nat} {call : RecoverCall} (runId : UUID)
  (found : recoveries[i]? = some call) (next : RecoverCall)

include found

theorem recovering_kept (same : next.pc.ticket = call.pc.ticket) :
    recovering runId (recoveries.set i next) = recovering runId recoveries := by
  refine tally_kept _ recoveries i _ next found ?_
  simp only [same]

theorem recovering_left (vacated : next.pc.ticket = none) :
    recovering runId recoveries =
      recovering runId (recoveries.set i next) + share runId call.pc.ticket := by
  refine tally_lost _ recoveries i _ next found ?_
  simp only [vacated, share_none]

theorem recovering_entered (idle : call.pc.ticket = none) :
    recovering runId (recoveries.set i next) =
      recovering runId recoveries + share runId next.pc.ticket := by
  refine tally_gained _ recoveries i _ next found ?_
  simp only [idle, share_none]

end Recoveries

theorem plain_ticket {pc : RecoverPc} (plain : pc.plain = true) : pc.ticket = none := by
  cases pc with
  | scanning | returned | raised => rfl
  | gathering | putting => cases plain

section Effects

variable {cfg : Config} {label : Label} {s t : QueueState} (runId : UUID)

theorem pool_spawned (count : Nat) :
    inHand runId (s.pool ++ List.replicate count ⟨.getting, false⟩) = inHand runId s.pool ∧
      running runId (s.pool ++ List.replicate count ⟨.getting, false⟩) = running runId s.pool := by
  have idle : ∀ worker ∈ List.replicate count (⟨.getting, false⟩ : Worker),
      worker = ⟨.getting, false⟩ := fun worker member => List.eq_of_mem_replicate member
  constructor
  · rw [inHand, inHand, tally_append, tally_empty _ (List.replicate _ _), add_zero]
    intro worker member
    rw [idle worker member]
    rfl
  · rw [running, running, tally_append, tally_empty _ (List.replicate _ _), add_zero]
    intro worker member
    rw [idle worker member]
    rfl

theorem view_same (statuses : t.statuses = s.statuses)
    (tickets : (view t runId).tickets = (view s runId).tickets)
    (executing : (view t runId).executing = (view s runId).executing)
    (tasks : attemptsOf runId t.tasks = attemptsOf runId s.tasks) (events : t.events = s.events) :
    view t runId = view s runId := by
  refine RunView.ext ?_ tickets executing tasks ?_
  · simp only [view, statuses]
  · simp only [view, events]

theorem share_unknown {jobs : Dict UUID AgentRunJob} (absent : jobs.get runId = none)
    {job : AgentRunJob} (known : Known jobs job) : share runId (some job) = 0 := by
  refine share_other ?_
  rintro rfl
  obtain ⟨stored, present, _⟩ := known
  exact nomatch present.symm.trans absent

theorem view_unknown (registered : Registered s) (absent : s.jobs.get runId = none) :
    view s runId = RunView.unknown := by
  have known := registered.circulating
  have queue : queued runId s.queue = 0 :=
    tally_empty _ _ fun item member => share_unknown runId absent (known.queue item member)
  have hands : inHand runId s.pool = 0 := by
    refine tally_empty _ _ ?_
    rintro ⟨pc, flagged⟩ member
    have carried := known.pool _ member
    cases pc with
    | reputting item => exact share_unknown runId absent (carried _ (by simp [WorkerPc.jobs]))
    | retrying item retry => exact share_unknown runId absent (carried _ (by simp [WorkerPc.jobs]))
    | getting | sleeping | awaiting | done => rfl
  have runs : running runId s.pool = 0 := by
    refine tally_empty _ _ ?_
    rintro ⟨pc, flagged⟩ member
    have carried := known.pool _ member
    cases pc with
    | awaiting wait => exact share_unknown runId absent (carried _ (by simp [WorkerPc.jobs]))
    | getting | sleeping | reputting | retrying | done => rfl
  have recovers : recovering runId s.recoveries = 0 := by
    refine tally_empty _ _ ?_
    rintro ⟨now, snapshot, recovered, pc⟩ member
    have carried := known.recoveries _ member
    cases pc with
    | putting item => exact share_unknown runId absent (carried _ (by simp [RecoverPc.jobs]))
    | scanning | gathering | returned | raised => rfl
  have started : attemptsOf runId s.tasks = [] := by
    rw [attemptsOf, List.map_eq_nil_iff, List.filter_eq_nil_iff]
    intro task member own
    obtain ⟨stored, present, _⟩ := known.tasks task member
    rw [of_decide_eq_true own, absent] at present
    cases present
  have outcomes : outcomesOf runId s.events = [] := by
    rw [outcomesOf, List.map_eq_nil_iff, List.filter_eq_nil_iff]
    intro event member own
    obtain ⟨stored, present⟩ := registered.audited event member
    rw [Bool.and_eq_true] at own
    rw [of_decide_eq_true own.1, absent] at present
    cases present
  have status : s.statuses.get runId = none := by
    cases found : s.statuses.get runId with
    | none => rfl
    | some status =>
        obtain ⟨job, present⟩ := registered.listed runId status found
        cases present.symm.trans absent
  refine RunView.ext status ?_ runs started outcomes
  simp only [view, queue, hands, recovers, RunView.unknown, add_zero]

theorem refined_submit (registered : Registered s) (job : AgentRunJob) (handler : RunHandler)
    (new : s.jobs.get job.runId = none) (queue : t.queue = s.queue ++ [⟨job, handler⟩])
    (status : t.statuses = s.statuses.set job.runId .queued)
    (kept : t.pool = s.pool ∧ t.tasks = s.tasks ∧ t.recoveries = s.recoveries)
    (logged : Logs s.events (auditEvent job .queued) t.events) :
    Refined s runId (.submit job) (view s runId) (view t runId) := by
  obtain ⟨pool, tasks, recoveries⟩ := kept
  have tickets : (view t runId).tickets = (view s runId).tickets + share runId (some job) := by
    simp only [view, queue, pool, recoveries, queued_push]
    abel
  have executing : (view t runId).executing = (view s runId).executing := by
    simp only [view, pool]
  have started : (view t runId).started = (view s runId).started := by simp only [view, tasks]
  have outcomes : (view t runId).outcomes = (view s runId).outcomes :=
    outcomes_open runId logged rfl
  by_cases own : job.runId = runId
  · have before : view s runId = RunView.unknown := view_unknown runId registered (own ▸ new)
    rw [before] at tickets executing started outcomes ⊢
    rw [share_own own] at tickets
    subst own
    refine .submits job rfl ⟨rfl, RunView.ext ?_ ?_ executing started outcomes⟩
    · simp only [view, status, Dict.get_set_self]
    · rw [tickets]
      exact zero_add _
  · rw [share_other own, add_zero] at tickets
    refine .stays (RunView.ext ?_ tickets executing started outcomes)
    simp only [view, status, status_other runId job _ _ own]

theorem refined_withdraw (registered : Registered s) (cancelled : UUID)
    (before : s.statuses.get cancelled = some .queued)
    (status : t.statuses = s.statuses.set cancelled .cancelled)
    (kept : t.queue = s.queue ∧ t.pool = s.pool ∧ t.tasks = s.tasks ∧ t.recoveries = s.recoveries)
    (logged : t.events = s.events ∨ ∃ job, s.jobs.get cancelled = some job ∧
      t.events = s.events ++ [auditEvent job .cancelled]) :
    Refined s runId label (view s runId) (view t runId) := by
  obtain ⟨queue, pool, tasks, recoveries⟩ := kept
  obtain ⟨stored, present⟩ := registered.listed cancelled _ before
  have identity := registered.stored cancelled stored present
  have events : Logs s.events (auditEvent stored .cancelled) t.events := by
    rcases logged with same | ⟨job, found, added⟩
    · exact Or.inl same
    · obtain rfl := Option.some.inj (present.symm.trans found)
      exact Or.inr added
  have tickets : (view t runId).tickets = (view s runId).tickets := by
    simp only [view, queue, pool, recoveries]
  have executing : (view t runId).executing = (view s runId).executing := by
    simp only [view, pool]
  have started : (view t runId).started = (view s runId).started := by simp only [view, tasks]
  by_cases own : cancelled = runId
  · subst own
    refine .moves stored present (.withdraw before ?_ tickets executing started
      (outcomes_own cancelled events identity rfl))
    simp only [view, status, Dict.get_set_self]
  · refine .stays (RunView.ext ?_ tickets executing started
      (outcomes_other runId events (fun same => own (identity.symm.trans same))))
    simp only [view, status, Dict.get_set_other _ _ _ _ own]

theorem refined_settle (job : AgentRunJob) (stored : s.jobs.get job.runId = some job)
    (status : AgentRunStatus) (statuses : t.statuses = s.statuses.set job.runId status)
    (issued : Multiset ℕ) (tickets : (view t runId).tickets =
      (if job.runId = runId then issued else 0) + (view s runId).tickets)
    (kept : t.pool = s.pool ∧ t.tasks = s.tasks)
    (logged : Logs s.events (auditEvent job status) t.events)
    (branch : (∃ _ : job.attempt < job.maxAttempts, status = .retrying ∧
        (issued = {job.attempt + 1} ∨ issued = 0)) ∨
      (¬ job.attempt < job.maxAttempts ∧ status = .failed ∧ issued = 0)) :
    Refined s runId (.settle job.runId job) (view s runId) (view t runId) := by
  obtain ⟨pool, tasks⟩ := kept
  have executing : (view t runId).executing = (view s runId).executing := by
    simp only [view, pool]
  have started : (view t runId).started = (view s runId).started := by simp only [view, tasks]
  by_cases own : job.runId = runId
  · subst own
    have after : (view t job.runId).status = some status := by
      simp only [view, statuses, Dict.get_set_self]
    rw [if_pos rfl] at tickets
    refine .settles job stored ?_
    rcases branch with ⟨remaining, rfl, rfl | rfl⟩ | ⟨spent, rfl, rfl⟩
    · rw [Multiset.singleton_add] at tickets
      exact .requeue remaining after tickets executing started
        (outcomes_open job.runId logged rfl)
    · rw [zero_add] at tickets
      exact .lost remaining after tickets executing started (outcomes_open job.runId logged rfl)
    · rw [zero_add] at tickets
      exact .fail spent after tickets executing started (outcomes_own job.runId logged rfl rfl)
  · rw [if_neg own, zero_add] at tickets
    refine .stays (RunView.ext ?_ tickets executing started (outcomes_other runId logged own))
    simp only [view, statuses, status_other runId job _ _ own]

theorem share_retry (job : AgentRunJob) (remaining : job.attempt < job.maxAttempts) :
    share runId (some (job.retry remaining)) =
      if job.runId = runId then {job.attempt + 1} else 0 := rfl

/-- Each effect on the queue is a move of each of its runs. -/
theorem refined_effect (coherent : Coherent s) (fresh : Fresh s label)
    (effect : Effect cfg s label t) : Refined s runId label (view s runId) (view t runId) := by
  have registered := coherent.registered
  have known := registered.circulating
  have working {w : Nat} {wait : HandlerWait} {flagged : Bool}
      (found : s.pool[w]? = some ⟨.awaiting wait, flagged⟩) : Known s.jobs wait.item.job :=
    everywhere_worker known found wait.item.job List.mem_cons_self
  cases effect with
  | environment | flag => exact .stays rfl
  | spawn count workers =>
      obtain ⟨hands, runs⟩ := pool_spawned (s := s) runId count
      refine .stays (view_same runId rfl ?_ runs rfl rfl)
      simp only [view, hands]
  | interrupt w pc flagged found suspended =>
      refine .stays (view_same runId rfl ?_ (running_kept runId found pc true rfl) rfl rfl)
      simp only [view, inHand_kept runId found pc true rfl]
  | mark w wait marked flagged found same =>
      have runs := running_kept runId found (.awaiting marked) false
        (by simp only [WorkerPc.executing, same.1])
      refine .stays (view_same runId rfl ?_ runs rfl rfl)
      simp only [view, QueueState.setPc, inHand_kept runId found (.awaiting marked) false rfl]
  | touch task =>
      refine .stays (view_same runId rfl rfl rfl (attemptsOf_modify runId s.tasks task _ ?_) rfl)
      intro handler
      split <;> rfl
  | finish task outcome active =>
      exact .stays
        (view_same runId rfl rfl rfl (attemptsOf_modify runId s.tasks task _ fun _ => rfl)
        rfl)
  | skip w item rest found front withdrawn =>
      refine refined_drop runId item.job (everywhere_front known front).1 rfl ?_ rfl rfl
        (logs_refl _ _)
      simp only [view, front, queued_front]
      abel
  | contend w item rest locks found front same held =>
      have runs := running_kept runId found .sleeping false rfl
      refine .stays (view_same runId rfl ?_ runs rfl rfl)
      simp only [view, QueueState.setPc, front, queued_front, queued_push,
        inHand_kept runId found .sleeping false rfl]
      abel
  | contendFull w item rest locks found front same full =>
      have runs := running_kept runId found (.reputting item) false rfl
      refine .stays (view_same runId rfl ?_ runs rfl rfl)
      simp only [view, QueueState.setPc, front, queued_front,
        inHand_entered runId found (.reputting item) false rfl, WorkerPc.ticket]
      abel
  | begin w item rest locks heartbeats deadline events found front wanted free taken logged =>
      have hands := inHand_kept runId found
        (.awaiting { item, task := s.tasks.length, deadline }) false rfl
      have runs := running_entered runId found
        (.awaiting { item, task := s.tasks.length, deadline }) false rfl
      refine refined_begin runId item.job (everywhere_front known front).1 wanted rfl ?_ runs
        item.handler rfl logged
      simp only [view, QueueState.setPc, front, queued_front, hands]
      abel
  | beginFails w item rest locks heartbeats statuses events found front wanted same status free
      logged =>
      have accepted := (everywhere_front known front).1
      have runs := running_kept runId found .done false rfl
      have taken : queued runId s.queue + inHand runId s.pool + recovering runId s.recoveries =
          share runId (some item.job) + (queued runId rest +
            inHand runId (s.pool.set w ⟨.done, false⟩) + recovering runId s.recoveries) := by
        rw [front, queued_front, inHand_kept runId found .done false rfl]
        abel
      rcases status with ⟨rfl, _⟩ | rfl
      · exact refined_drop runId item.job accepted rfl taken runs rfl logged
      · exact refined_beginFails runId item.job accepted wanted rfl taken runs rfl logged
  | reput w item found room =>
      have runs := running_kept runId found .sleeping false rfl
      refine .stays (view_same runId rfl ?_ runs rfl rfl)
      simp only [view, QueueState.setPc, QueueState.push, queued_push,
        inHand_left runId found .sleeping false rfl, WorkerPc.ticket]
      abel
  | wake w found =>
      have runs := running_kept runId found .getting false rfl
      refine .stays (view_same runId rfl ?_ runs rfl rfl)
      simp only [view, QueueState.setPc, inHand_kept runId found .getting false rfl]
  | outcome w wait flagged result status events pc found finished ends cancelled logged next =>
      have resting : pc.ticket = none ∧ pc.executing = none := by
        rcases next with rfl | rfl <;> exact ⟨rfl, rfl⟩
      refine refined_conclude runId wait.item.job (working found) status ends rfl ?_
        (running_left runId found pc false resting.2) rfl logged
      simp only [view, QueueState.setPc, closeExecute, releaseLock,
        inHand_kept runId found pc false resting.1]
  | swallow w wait flagged found finished requested =>
      refine refined_abandon runId wait.item.job (working found) rfl ?_
        (running_left runId found .getting false rfl) rfl rfl
      simp only [view, QueueState.setPc, closeExecute, releaseLock,
        inHand_kept runId found .getting false rfl]
  | crash w wait flagged found finished unflagged =>
      refine refined_abandon runId wait.item.job (working found) rfl ?_
        (running_left runId found .done false rfl) rfl rfl
      simp only [view, QueueState.setPc, closeExecute, releaseLock,
        inHand_kept runId found .done false rfl]
  | retry w wait flagged events remaining found finished unflagged room logged =>
      refine refined_retry runId wait.item.job (working found) remaining rfl ?_
        (running_left runId found .getting false rfl) rfl logged
      simp only [view, QueueState.setPc, closeExecute, releaseLock, queued_push,
        inHand_kept runId found .getting false rfl]
      abel
  | retryBlocked w wait flagged events remaining found finished unflagged full logged =>
      let next : WorkerPc :=
        .retrying wait.item ⟨wait.item.job.retry remaining, wait.item.handler⟩
      refine refined_retry runId wait.item.job (working found) remaining rfl ?_
        (running_left runId found next false rfl) rfl logged
      have hands := inHand_entered runId found next false rfl
      show queued runId s.queue + inHand runId (s.pool.set w ⟨next, false⟩) + _ = _ + (_ + _ + _)
      rw [hands]
      show _ + (_ + share runId (some (wait.item.job.retry remaining))) + _ = _
      abel
  | retryLost w wait flagged remaining found finished unflagged =>
      refine refined_retryLost runId wait.item.job (working found) rfl ?_
        (running_left runId found .done false rfl) rfl rfl
      simp only [view, QueueState.setPc, closeExecute, releaseLock,
        inHand_kept runId found .done false rfl]
  | retryPut w item retry found room =>
      have runs := running_kept runId found .getting false rfl
      refine .stays (view_same runId rfl ?_ runs rfl rfl)
      simp only [view, QueueState.setPc, QueueState.push, closeExecute, releaseLock, queued_push,
        inHand_left runId found .getting false rfl, WorkerPc.ticket]
      abel
  | dropRetry w item retry found =>
      have carried : Known s.jobs retry.job :=
        everywhere_worker known found retry.job (by simp [WorkerPc.jobs])
      refine refined_drop runId retry.job carried rfl ?_ (running_kept runId found .done false rfl)
        rfl (logs_refl _ _)
      simp only [view, QueueState.setPc, closeExecute, releaseLock,
        inHand_left runId found .done false rfl, WorkerPc.ticket]
      abel
  | die w pc found suspended =>
      have runs : running runId (s.pool.set w ⟨.done, false⟩) = running runId s.pool := by
        refine running_kept runId found .done false ?_
        rcases suspended with rfl | rfl | ⟨item, rfl⟩ <;> rfl
      have hands := inHand_left runId found .done false rfl
      rcases suspended with rfl | rfl | ⟨item, rfl⟩
      · refine .stays (view_same runId rfl ?_ runs rfl rfl)
        simp only [view, QueueState.setPc, hands, WorkerPc.ticket, share_none, add_zero]
      · refine .stays (view_same runId rfl ?_ runs rfl rfl)
        simp only [view, QueueState.setPc, hands, WorkerPc.ticket, share_none, add_zero]
      · have carried : Known s.jobs item.job :=
          everywhere_worker known found item.job List.mem_cons_self
        refine refined_drop runId item.job carried rfl ?_ runs rfl (logs_refl _ _)
        simp only [view, QueueState.setPc, hands, WorkerPc.ticket]
        abel
  | recover call scanning new snapshot =>
      refine .stays (view_same runId rfl ?_ rfl rfl rfl)
      simp [view, recovering, new, RecoverPc.ticket]
  | advance i call next recovered snapshot scanning found plain onward suffix =>
      refine .stays (view_same runId rfl ?_ rfl rfl rfl)
      simp only [view, recovering_kept runId found ⟨call.now, snapshot, recovered, next⟩
        ((plain_ticket onward).trans (plain_ticket plain).symm)]
  | gather i call settled job task rest scanning found plain front stored current =>
      refine .stays (view_same runId rfl ?_ rfl rfl rfl)
      simp only [view, recovering_kept runId found
        ⟨call.now, rest, call.recovered, .gathering settled job task⟩ (plain_ticket plain).symm]
  | recoverPut i call item recovered scanning found waiting room =>
      refine .stays (view_same runId rfl ?_ rfl rfl rfl)
      have left := recovering_left runId found ⟨call.now, call.snapshot, recovered, .scanning⟩ rfl
      simp only [view, queued_push, left, waiting, RecoverPc.ticket]
      abel
  | submit job handler events new room logged =>
      exact refined_submit runId registered job handler fresh rfl rfl ⟨rfl, rfl, rfl⟩ logged
  | withdraw cancelled events queued logged =>
      exact refined_withdraw runId registered cancelled queued rfl ⟨rfl, rfl, rfl, rfl⟩ logged
  | settle i call settled job requested queue status events pc snapshot recovered scanning found
      suffix source logged branch =>
      obtain ⟨stored, idle⟩ : s.jobs.get settled = some job ∧ call.pc.ticket = none := by
        rcases source with ⟨stored, _, scanning, _⟩ | ⟨task, waiting, _⟩
        · exact ⟨stored, by rw [scanning]; rfl⟩
        · have gathering := registered.gathering call (List.mem_of_getElem? found) _ _ _ waiting
          exact ⟨gathering.1, by rw [waiting]; rfl⟩
      obtain rfl := registered.stored settled job stored
      let after : RecoverCall := ⟨call.now, snapshot, recovered, pc⟩
      have settles := @refined_settle s { s with
          recoveryRequested := requested
          queue
          statuses := s.statuses.set job.runId status
          events
          recoveries := s.recoveries.set i after
          scanning } runId job stored status rfl
      have plainly (plain : pc.ticket = none) :
          recovering runId (s.recoveries.set i after) = recovering runId s.recoveries :=
        recovering_kept runId found after (plain.trans idle.symm)
      rcases branch with ⟨remaining, handler, rfl, ⟨rfl, _, rfl⟩ | ⟨rfl, _, rfl⟩⟩ |
        ⟨remaining, rfl, rfl, rfl⟩ | ⟨spent, rfl, rfl, plain⟩
      · refine settles {job.attempt + 1} ?_ ⟨rfl, rfl⟩ logged (Or.inl ⟨remaining, rfl, Or.inl rfl⟩)
        simp only [view, queued_push, plainly rfl, share_retry]
        abel
      · refine settles {job.attempt + 1} ?_ ⟨rfl, rfl⟩ logged (Or.inl ⟨remaining, rfl, Or.inl rfl⟩)
        have entered := recovering_entered runId found after idle
        simp only [view, entered]
        show _ + _ + (_ + share runId (some (job.retry remaining))) = _
        rw [share_retry]
        abel
      · refine settles 0 ?_ ⟨rfl, rfl⟩ logged (Or.inl ⟨remaining, rfl, Or.inr rfl⟩)
        simp only [view, plainly rfl, ite_self, zero_add]
      · refine settles 0 ?_ ⟨rfl, rfl⟩ logged (Or.inr ⟨spent, rfl, rfl⟩)
        simp only [view, plainly (plain_ticket plain), ite_self, zero_add]

end Effects

end SynapseOS.Queue
