import SynapseOS.Lib.SerialAllocation
import SynapseOS.Scheduling.Assignments

/-! When a task that is left without an agent had no free one. -/

namespace SynapseOS.Scheduling

open AgentRegistry Program ProjectScheduler SerialAllocation

section Ranking

variable {request : AgentMatchingRequest} {candidates : List AgentCandidate}

def Eligible (request : AgentMatchingRequest) (candidate : AgentCandidate) : Prop :=
  rejectionReasons request candidate = []

instance (request : AgentMatchingRequest) (candidate : AgentCandidate) :
    Decidable (Eligible request candidate) :=
  inferInstanceAs (Decidable (rejectionReasons request candidate = []))

/-- All eligible candidates, ranked, before the matcher cuts them to the limit. -/
def ranking (request : AgentMatchingRequest) (candidates : List AgentCandidate) :
    List RankedAgentMatch :=
  ((candidates.map (judged request)).filterMap Sum.getLeft?).insertionSort fun first second =>
    second.score.units < first.score.units ∨
      second.score.units = first.score.units ∧ first.agent.agentId ≤ second.agent.agentId

theorem matchAgents_ranking {result : AgentMatchingResult}
    (matched : matchAgents request candidates = .ok result) :
    result.matched = (ranking request candidates).take request.limit := by
  unfold matchAgents at matched
  split at matched
  · cases matched
  · split at matched
    · cases matched
    · cases matched
      rfl

theorem eligible_cost {candidate : AgentCandidate} (eligible : Eligible request candidate) :
    ∃ cost, costOf request candidate = some cost := by
  unfold Eligible rejectionReasons at eligible
  simp only [List.append_eq_nil_iff, itemIf_nil] at eligible
  have supplied := eligible.2
  cases held : costOf request candidate with
  | none =>
      rw [held] at supplied
      cases supplied
  | some cost => exact ⟨cost, rfl⟩

theorem judged_eligible {candidate : AgentCandidate} (eligible : Eligible request candidate)
    {cost : Score} (supplied : costOf request candidate = some cost) :
    judged request candidate = .inl (rankedMatch request candidate cost) := by
  unfold judged
  unfold Eligible at eligible
  rw [eligible, supplied]

theorem judged_left {candidate : AgentCandidate} {ranked : RankedAgentMatch}
    (left : (judged request candidate).getLeft? = some ranked) :
    Eligible request candidate ∧ ranked.agent = candidate := by
  unfold judged at left
  split at left
  · next none_ _ =>
      cases left
      exact ⟨none_, rfl⟩
  · cases left

theorem ranking_eligible {candidate : AgentCandidate} (among : candidate ∈ candidates)
    (eligible : Eligible request candidate) : ∃ ranked ∈ ranking request candidates, ranked.agent =
      candidate := by
  obtain ⟨cost, supplied⟩ := eligible_cost eligible
  refine ⟨rankedMatch request candidate cost, ?_, rfl⟩
  unfold ranking
  rw [List.mem_insertionSort, List.mem_filterMap]
  refine ⟨judged request candidate, List.mem_map_of_mem among, ?_⟩
  rw [judged_eligible eligible supplied]
  rfl

theorem ranking_agent {ranked : RankedAgentMatch} (among : ranked ∈ ranking request candidates) :
    ranked.agent ∈ candidates ∧ Eligible request ranked.agent := by
  unfold ranking at among
  rw [List.mem_insertionSort, List.mem_filterMap] at among
  obtain ⟨outcome, there, left⟩ := among
  obtain ⟨candidate, known, rfl⟩ := List.mem_map.mp there
  obtain ⟨eligible, rfl⟩ := judged_left left
  exact ⟨known, eligible⟩

theorem ranking_length : (ranking request candidates).length =
    candidates.countP fun candidate => decide (Eligible request candidate) := by
  unfold ranking
  rw [List.length_insertionSort, List.filterMap_map, List.length_filterMap_eq_countP]
  refine List.countP_congr fun candidate _ => ?_
  rw [decide_eq_true_eq]
  constructor
  · intro left
    obtain ⟨ranked, held⟩ := Option.isSome_iff_exists.mp left
    exact (judged_left held).1
  · intro eligible
    obtain ⟨cost, supplied⟩ := eligible_cost eligible
    show ((judged request candidate).getLeft?).isSome = true
    rw [judged_eligible eligible supplied]
    rfl

end Ranking

section Turns

def rankedFor (candidates : List AgentCandidate) (request : ProjectScheduleRequest) :
    List RankedAgentMatch :=
  ranking request.matchingRequest candidates

def limitOf (request : ProjectScheduleRequest) : Nat := request.matchingRequest.limit

def agentOf (ranked : RankedAgentMatch) : UUID := ranked.agent.agentId

/-- A request when its turn has come, with the agents that are claimed and the match that it
gets. -/
abbrev Turn := Round ProjectScheduleRequest RankedAgentMatch UUID

def made (turn : Turn) : Option (UUID × UUID × UUID) :=
  turn.given.map fun ranked => (agentOf ranked, turn.request.projectId, turn.request.taskId)

def turns (candidates : List AgentCandidate) (requests : List ProjectScheduleRequest)
    (claimed : List UUID) : List Turn :=
  allocate (cut (rankedFor candidates) limitOf) agentOf requests claimed

/-- The turns as they were if the matcher cut nobody off. -/
def unlimitedTurns (candidates : List AgentCandidate) (requests : List ProjectScheduleRequest)
    (claimed : List UUID) : List Turn :=
  allocate (rankedFor candidates) agentOf requests claimed

variable {fresh : Nat → UUID} {clock : Nat → ℚ} {candidates : List AgentCandidate}

/-- The loop of `schedule` takes the requests in turn. -/
theorem scheduleEach_turns {requests : List ProjectScheduleRequest} {claimed : List UUID}
    {scheduler after : ProjectScheduler} {assignments : List AgentAssignment}
    (run : scheduleEach matchAgents fresh clock candidates requests claimed scheduler =
      (.ok assignments, after)) :
    (assignments.map fun assignment => (assignment.agentId, assignment.projectId,
      assignment.taskId)) = (turns candidates requests claimed).filterMap made := by
  induction requests generalizing claimed scheduler assignments with
  | nil =>
      cases run
      rfl
  | cons request rest ih =>
      rw [scheduleEach] at run
      cases matched : matchAgents request.matchingRequest candidates with
      | error raised =>
          rw [matched] at run
          cases run
      | ok result =>
          rw [matched, resume_ok_run] at run
          have cut_ := matchAgents_ranking matched
          have seen : (unclaimed claimed result : Option RankedAgentMatch) =
              (cut (rankedFor candidates) limitOf request).find? fun ranked =>
                !claimed.contains (agentOf ranked) := by
            unfold unclaimed
            rw [cut_]
            rfl
          rw [turns, allocate, ← seen]
          cases free : unclaimed claimed result with
          | none =>
              simp only [free] at run
              exact ih run
          | some selected =>
              simp only [free] at run
              obtain ⟨assignment, next, assigns, later⟩ := run_returned run
              obtain ⟨others, last, ends, returned⟩ := run_returned later
              cases assigns
              cases returned
              rw [List.filterMap_cons, List.map_cons, ih ends]
              rfl

def Exhausted (candidates : List AgentCandidate) (turn : Turn) : Prop :=
  turn.given = none → ∀ candidate ∈ candidates, Eligible turn.request.matchingRequest candidate →
    candidate.agentId ∈ turn.taken

instance (candidates : List AgentCandidate) (turn : Turn) : Decidable (Exhausted candidates turn) :=
  inferInstanceAs (Decidable (turn.given = none → ∀ candidate ∈ candidates,
    Eligible turn.request.matchingRequest candidate → candidate.agentId ∈ turn.taken))

/-- What a turn gives stands within the limit of its request. -/
def Within (candidates : List AgentCandidate) (turn : Turn) : Prop :=
  ∀ ranked ∈ turn.given, ranked ∈ (rankedFor candidates turn.request).take (limitOf turn.request)

theorem exhausted_iff (turn : Turn) :
    Exhausted candidates turn ↔ turn.Exhausted (rankedFor candidates) agentOf := by
  refine imp_congr_right fun _ => ?_
  constructor
  · intro exhausted ranked among
    obtain ⟨known, eligible⟩ := ranking_agent among
    exact exhausted ranked.agent known eligible
  · intro exhausted candidate known eligible
    obtain ⟨ranked, there, rfl⟩ := ranking_eligible known eligible
    exact exhausted ranked there

theorem turns_exhausted (requests : List ProjectScheduleRequest) (claimed : List UUID) :
    (∀ turn ∈ turns candidates requests claimed, Exhausted candidates turn) ↔
      ∀ turn ∈ unlimitedTurns candidates requests claimed, Within candidates turn :=
  (forall₂_congr fun turn _ => exhausted_iff turn).trans (exhausted_within requests claimed)

/-- Each task that a call of `schedule` leaves unassigned had no free eligible candidate exactly
when, whatever the limits, every task in turn would get a candidate within its limit. Limits that
are not below the number of eligible candidates are enough. -/
theorem unassigned_exhausted {requests : List ProjectScheduleRequest}
    {scheduler after : ProjectScheduler} {assignments : List AgentAssignment}
    (run : schedule matchAgents fresh clock requests candidates scheduler =
      (.ok assignments, after)) :
    (assignments.map fun assignment => (assignment.agentId, assignment.projectId,
      assignment.taskId)) =
        (turns candidates (requests.insertionSort comesBefore)
          (scheduler.activeByAgent.entries.map Prod.fst)).filterMap made ∧
      ((∀ turn ∈ turns candidates (requests.insertionSort comesBefore)
          (scheduler.activeByAgent.entries.map Prod.fst), Exhausted candidates turn) ↔
        ∀ turn ∈ unlimitedTurns candidates (requests.insertionSort comesBefore)
          (scheduler.activeByAgent.entries.map Prod.fst), Within candidates turn) ∧
      ((∀ request ∈ requests, candidates.countP (fun candidate =>
          decide (Eligible request.matchingRequest candidate)) ≤ request.matchingRequest.limit) →
        ∀ turn ∈ turns candidates (requests.insertionSort comesBefore)
          (scheduler.activeByAgent.entries.map Prod.fst), Exhausted candidates turn) := by
  refine ⟨?_, turns_exhausted _ _, ?_⟩
  · unfold schedule at run
    rw [look_run] at run
    exact scheduleEach_turns run
  · intro roomy
    refine (turns_exhausted _ _).mpr (within_roomy _ fun request among => ?_)
    show (ranking request.matchingRequest candidates).length ≤ _
    rw [ranking_length]
    exact roomy request ((List.mem_insertionSort _).mp among)

end Turns

section Sample

/-- Of three tasks two get the two candidates, and the third finds both of them claimed. -/
theorem unassigned_exhausted_sample : ∃ assignments after,
    schedule matchAgents (fun n => n) (fun _ => 0) [requestFor 8, requestFor 9, requestFor 10]
        [sampleCandidate 1, sampleCandidate 2] .initial = (.ok assignments, after) ∧
      assignments.map AgentAssignment.taskId = [8, 9] ∧
      ∀ turn ∈ turns [sampleCandidate 1, sampleCandidate 2]
          ([requestFor 8, requestFor 9, requestFor 10].insertionSort comesBefore) [],
        Exhausted [sampleCandidate 1, sampleCandidate 2] turn := by
  have observed : ((schedule matchAgents (fun n => n) (fun _ => 0)
        [requestFor 8, requestFor 9, requestFor 10] [sampleCandidate 1, sampleCandidate 2]
        .initial).1.toOption.map fun assignments => assignments.map AgentAssignment.taskId) =
      some [8, 9] ∧
      ∀ request ∈ [requestFor 8, requestFor 9, requestFor 10],
        [sampleCandidate 1, sampleCandidate 2].countP (fun candidate =>
          decide (Eligible request.matchingRequest candidate)) ≤ request.matchingRequest.limit := by
    decide +kernel
  obtain ⟨returns, roomy⟩ := observed
  rcases run : schedule matchAgents (fun n => n) (fun _ => 0)
      [requestFor 8, requestFor 9, requestFor 10] [sampleCandidate 1, sampleCandidate 2] .initial
    with ⟨raised | assignments, after⟩
  · rw [run] at returns
    cases returns
  · rw [run] at returns
    exact ⟨assignments, after, rfl, Option.some.inj returns, (unassigned_exhausted run).2.2 roomy⟩

def narrowRequest (task : UUID) : ProjectScheduleRequest :=
  { sampleScheduleRequest with
    taskId := task
    matchingRequest :=
      { sampleScheduleRequest.matchingRequest with limit := 1, limit_valid := by decide }
    scope_valid := rfl }

/-- The second task gets no agent although the second candidate is eligible and free. -/
theorem candidate_unseen :
    ((schedule matchAgents (fun n => n) (fun _ => 0) [narrowRequest 8, narrowRequest 9]
        [sampleCandidate 1, sampleCandidate 2] .initial).1.toOption.map
          fun assignments => assignments.map AgentAssignment.taskId) = some [8] ∧
      ¬ ∀ turn ∈ turns [sampleCandidate 1, sampleCandidate 2]
        ([narrowRequest 8, narrowRequest 9].insertionSort comesBefore) [],
          Exhausted [sampleCandidate 1, sampleCandidate 2] turn := by
  decide +kernel

end Sample

end SynapseOS.Scheduling
