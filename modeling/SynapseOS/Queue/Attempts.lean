import SynapseOS.Queue.Refinement

/-! The attempts of a run, over any interleaving of workers and recoveries. -/

namespace SynapseOS.Queue

open Transition

/-- Accepted jobs have distinct run ids and start at attempt 1. -/
def Submitted (s : QueueState) : Label → Prop
  | .submit job => s.jobs.get job.runId = none ∧ job.attempt = 1
  | .quiet | .resume _ _ | .settle _ _ => True

/-- Moreover a recovery acts on a run only while the attempt of its stored job is the one
started last, and no later attempt waits to be started. -/
def Counted (s : QueueState) : Label → Prop
  | .submit job => s.jobs.get job.runId = none ∧ job.attempt = 1
  | .settle runId job => (attemptsOf runId s.tasks).length = job.attempt ∧
      ∀ ticket ∈ (view s runId).tickets, ticket ≤ job.attempt
  | .quiet | .resume _ _ => True

instance (s : QueueState) (label : Label) : Decidable (Submitted s label) :=
  match label with
  | .submit job => inferInstanceAs (Decidable (s.jobs.get job.runId = none ∧ job.attempt = 1))
  | .quiet | .resume _ _ | .settle _ _ => inferInstanceAs (Decidable True)

instance (s : QueueState) (label : Label) : Decidable (Counted s label) :=
  match label with
  | .submit job => inferInstanceAs (Decidable (s.jobs.get job.runId = none ∧ job.attempt = 1))
  | .settle runId job =>
      inferInstanceAs (Decidable ((attemptsOf runId s.tasks).length = job.attempt ∧
        ∀ ticket ∈ (view s runId).tickets, ticket ≤ job.attempt))
  | .quiet | .resume _ _ => inferInstanceAs (Decidable True)

theorem counted_fresh {s : QueueState} {label : Label} (counted : Counted s label) :
    Fresh s label := by
  cases label with
  | submit job => exact counted.1
  | quiet | resume | settle => trivial

theorem started_once (runId : UUID) (tasks : List HandlerTask) (t u : Nat)
    (left right : AgentRunJob)
    (once : (attemptsOf runId tasks).length ≤ 1) (first : taskJob tasks t = some left)
    (second : taskJob tasks u = some right) (leftOwn : left.runId = runId)
    (rightOwn : right.runId = runId) : t = u := by
  induction tasks generalizing t u with
  | nil => cases first
  | cons head tail ih =>
      have absent (only : (attemptsOf runId (head :: tail)).length ≤ 1)
          (own : head.job.runId = runId) (v : Nat) (job : AgentRunJob)
          (found : taskJob tail v = some job) : job.runId ≠ runId := by
        intro same
        obtain ⟨task, present, rfl⟩ := Option.map_eq_some_iff.mp found
        have member : task ∈ tail.filter fun other => decide (other.job.runId = runId) :=
          List.mem_filter.mpr ⟨List.mem_of_getElem? present, decide_eq_true same⟩
        have positive := List.length_pos_of_mem member
        rw [attemptsOf, List.filter_cons, if_pos (decide_eq_true own)] at only
        simp only [List.length_map, List.length_cons] at only
        omega
      cases t with
      | zero =>
          obtain rfl : head.job = left := by simpa [taskJob] using first
          cases u with
          | zero => rfl
          | succ u => exact absurd rightOwn (absent once leftOwn u right second)
      | succ t =>
          cases u with
          | zero =>
              obtain rfl : head.job = right := by simpa [taskJob] using second
              exact absurd leftOwn (absent once rightOwn t left first)
          | succ u =>
              have fewer : (attemptsOf runId tail).length ≤ 1 := by
                refine Nat.le_trans ?_ once
                unfold attemptsOf
                rw [List.length_map, List.length_map]
                exact ((List.sublist_cons_self head tail).filter _).length_le
              rw [ih t u fewer first second]

section Settling

variable {cfg : Config} {s t : QueueState} {runId : UUID} {job : AgentRunJob}

/-- The only handler call of the run is over, and its worker gone, before a recovery goes on. -/
theorem settle_idle (coherent : Coherent s) (effect : Effect cfg s (.settle runId job) t)
    (once : (attemptsOf runId s.tasks).length ≤ 1) : running runId s.pool = 0 := by
  refine tally_empty _ _ ?_
  rintro ⟨pc, flagged⟩ member
  cases pc with
  | getting | reputting | sleeping | retrying | done => rfl
  | awaiting wait =>
      refine share_other ?_
      intro own
      obtain ⟨w, present⟩ := List.mem_iff_getElem?.mp member
      have waits := pcAt_found present
      have current := coherent.registered.current w wait waits
      rw [own] at current
      cases effect with
      | settle i call _ _ requested queue status events pc snapshot recovered scanning found suffix
          source logged branch =>
          rcases source with ⟨_, absent, _⟩ | ⟨task, waiting, over_⟩
          · exact nomatch current.symm.trans absent
          · obtain ⟨_, begun, started, beginOwn⟩ :=
              coherent.registered.gathering call (List.mem_of_getElem? found) _ _ _ waiting
            have matched := coherent.sound.attended.matched w wait waits
            obtain rfl := started_once runId s.tasks wait.task task _ _ once matched started own
              beginOwn
            have awaited : s.pool.any (awaits wait.task) = true :=
              List.any_eq_true.mpr ⟨_, member, by simp [awaits]⟩
            simp [gathered, awaited] at over_

end Settling

structure Tallied (s : QueueState) : Prop where
  coherent : Coherent s
  first : ∀ runId job, s.jobs.get runId = some job → job.attempt = 1
  numbered : ∀ runId job, s.jobs.get runId = some job →
    RunView.Numbered job.maxAttempts (view s runId)

theorem tallied_initial : Tallied initial := by
  refine ⟨coherent_initial, ?_, ?_⟩
  · simp [initial]
  · simp [initial]

theorem tallied_effect {cfg : Config} {s t : QueueState} {label : Label} (tallied : Tallied s)
    (counted : Counted s label) (effect : Effect cfg s label t) : Tallied t := by
  have fresh := counted_fresh counted
  have coherent := tallied.coherent
  refine ⟨coherent_effect coherent fresh effect, ?_, ?_⟩
  · intro runId job present
    rcases jobs_effect effect with same | ⟨new, rfl, added⟩
    · exact tallied.first runId job (same ▸ present)
    · rw [added, Dict.get_set] at present
      split at present
      · rw [← Option.some.inj present]
        exact counted.2
      · exact tallied.first runId job present
  · intro runId job present
    have before (stored : AgentRunJob) (known : s.jobs.get runId = some stored) : stored = job := by
      have later := jobs_persist effect fresh known
      rw [later] at present
      exact Option.some.inj present
    cases refined_effect runId coherent fresh effect with
    | stays same =>
        rw [same]
        rcases jobs_effect effect with unchanged | ⟨new, rfl, added⟩
        · exact tallied.numbered runId job (unchanged ▸ present)
        · rw [added, Dict.get_set] at present
          split at present
          · next own =>
              have unknown := view_unknown runId coherent.registered (own ▸ fresh)
              rw [unknown]
              exact RunView.numbered_unknown _
          · exact tallied.numbered runId job present
    | moves stored known move =>
        obtain rfl := before stored known
        exact RunView.numbered_move (tallied.numbered runId stored known) move
    | submits new own submit =>
        have stored : t.jobs.get runId = some new := by
          rcases jobs_effect effect with same | ⟨other, submitted, added⟩
          · cases effect
            exact own ▸ Dict.get_set_self _ _ _
          · obtain rfl := Label.submit.inj submitted
            rw [added, own, Dict.get_set_self]
        rw [stored] at present
        obtain rfl := Option.some.inj present
        exact RunView.numbered_submit submit counted.2 new.max_attempts_bounds.1
    | settles settled known settle =>
        obtain rfl := before settled known
        have single := counted.1.trans (tallied.first runId settled known)
        have idle := settle_idle coherent effect single.le
        exact RunView.numbered_settle (tallied.numbered runId settled known) settle counted.1
          counted.2 idle

def staleOnce (maxAttempts : Nat) (bounds : BoundedAttempt maxAttempts) : List Action :=
  [.start, .enqueue (sampleJob maxAttempts bounds) 0 accepts, .workerGet 0 accepts, .tick 2,
    .recoverStart, .recoverScan accepts, .handlerFinish 0 .cancelled, .workerResume 0 accepts]

def staleTwice : List Action :=
  staleOnce 2 two_attempts ++
    [.recoverResume 0 accepts, .recoverScan accepts, .workerGet 0 accepts, .tick 2, .recoverStart,
      .recoverScan accepts, .handlerFinish 1 .cancelled, .workerResume 0 accepts,
      .recoverResume 1 accepts, .recoverScan accepts, .workerGet 0 accepts]

/-- Successive starts of a run are its attempts 1, 2, 3, ..., never more than the job allows;
and a recovery that finds all of them used records the run as failed. -/
theorem attempts_increase (cfg : Config) (s : QueueState) (run : Runs cfg Counted initial s)
    (runId : UUID) (job : AgentRunJob) (accepted : s.jobs.get runId = some job) :
    attemptsOf runId s.tasks = List.range' 1 (attemptsOf runId s.tasks).length ∧
      (attemptsOf runId s.tasks).length ≤ job.maxAttempts ∧
      ∀ (a : Action) (t : QueueState), Counted s (labelOf s a) →
        labelOf s a = .settle runId job → step cfg s a = some t →
        (attemptsOf runId s.tasks).length = job.maxAttempts →
        t.statuses.get runId = some .failed := by
  have tallied : Tallied s := runs_invariant Tallied run tallied_initial (fun _ => trivial)
    (fun _ _ _ held counted effect => tallied_effect held counted effect)
  have numbered := tallied.numbered runId job accepted
  refine ⟨numbered.started, numbered.bounded, ?_⟩
  intro a t counted label taken used
  rw [label] at counted
  have spent : ¬ job.attempt < job.maxAttempts := by
    have latest := counted.1
    omega
  have effect : Effect cfg s (.settle runId job) t := by
    rcases step_amounts cfg s t a taken with ⟨_, other⟩ | effect
    · rw [label] at other
      cases other
    · exact label ▸ effect
  have own := tallied.coherent.registered.stored runId job accepted
  cases effect with
  | settle i call _ _ requested queue status events pc snapshot recovered scanning found suffix
      source logged branch =>
      rcases branch with ⟨remaining, _⟩ | ⟨remaining, _⟩ | ⟨_, rfl, _⟩
      · exact absurd remaining spent
      · exact absurd remaining spent
      · exact Dict.get_set_self _ _ _

theorem attempts_increase_stale : ∃ s t, Runs sampleQueue Counted initial s ∧
    step sampleQueue s (.recoverResume 0 accepts) = some t ∧ attemptsOf 0 s.tasks = [1] ∧
    t.statuses.get 0 = some .failed := by
  obtain ⟨s, run, observed⟩ := runs_observe sampleQueue Counted (staleOnce 1 (by decide))
    (fun s => (s.jobs.get 0, attemptsOf 0 s.tasks, labelOf s (.recoverResume 0 accepts),
      decide (Counted s (labelOf s (.recoverResume 0 accepts))),
      (step sampleQueue s (.recoverResume 0 accepts)).isSome))
    (some (sampleJob 1 (by decide)), [1], .settle 0 (sampleJob 1 (by decide)), true, true)
    (by decide +kernel)
  simp only [Prod.mk.injEq, decide_eq_true_eq] at observed
  obtain ⟨accepted, attempts, label, counted, taken⟩ := observed
  obtain ⟨t, taken⟩ := Option.isSome_iff_exists.mp taken
  have failed := (attempts_increase sampleQueue s run 0 _ accepted).2.2 _ t counted label taken
    (by rw [attempts]; rfl)
  exact ⟨s, t, run, taken, attempts, failed⟩

/-- Recovery reads the attempt of the job stored at `enqueue`, so the second recovery of a run
starts its second attempt once more. -/
theorem attempts_repeat : ∃ s job, Runs sampleQueue Submitted initial s ∧
    s.jobs.get job.runId = some job ∧ attemptsOf job.runId s.tasks = [1, 2, 2] ∧
    ¬ (attemptsOf job.runId s.tasks).length ≤ job.maxAttempts ∧
    ¬ (attemptsOf job.runId s.tasks).Pairwise (· < ·) := by
  obtain ⟨s, run, observed⟩ := runs_observe sampleQueue Submitted staleTwice
    (fun s => (s.jobs.get 0, attemptsOf 0 s.tasks)) (some (sampleJob 2 (by decide)), [1, 2, 2])
    (by decide +kernel)
  obtain ⟨accepted, attempts⟩ := Prod.mk.inj observed
  refine ⟨s, sampleJob 2 (by decide), run, accepted, attempts, ?_, ?_⟩
  · rw [show attemptsOf (sampleJob 2 (by decide)).runId s.tasks = _ from attempts]
    decide
  · rw [show attemptsOf (sampleJob 2 (by decide)).runId s.tasks = _ from attempts]
    decide

end SynapseOS.Queue
