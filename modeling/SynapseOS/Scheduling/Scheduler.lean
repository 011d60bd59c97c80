import SynapseOS.AgentRegistry.Matcher
import SynapseOS.Lib.Dict
import SynapseOS.Lib.Program

/-! The scheduler of agents over projects (`core/scheduling`). -/

namespace SynapseOS.Scheduling

open AgentRegistry Program

inductive AssignmentStatus
  | active
  | released
  deriving DecidableEq, Repr

structure ProjectScheduleRequest where
  projectId : UUID
  taskId : UUID
  projectPriority : Nat
  matchingRequest : AgentMatchingRequest
  priority_valid : projectPriority ≤ 100
  scope_valid : matchingRequest.projectId = projectId

structure AgentAssignment where
  assignmentId : UUID
  agentId : UUID
  projectId : UUID
  taskId : UUID
  projectPriority : Nat
  score : Score
  status : AssignmentStatus
  assignedAt : ℚ
  releasedAt : Option ℚ
  deriving DecidableEq

def AgentAssignment.isActive (assignment : AgentAssignment) : Bool :=
  decide (assignment.status = .active)

def AgentAssignment.released (assignment : AgentAssignment) (time : ℚ) : AgentAssignment :=
  { assignment with status := .released, releasedAt := some time }

/-- The scheduler, with the number of values it has drawn from outside. -/
structure ProjectScheduler where
  activeByAgent : Dict UUID AgentAssignment
  history : List AgentAssignment
  draws : Nat

namespace ProjectScheduler

def initial : ProjectScheduler := ⟨.empty, [], 0⟩

def comesBefore (first second : ProjectScheduleRequest) : Prop :=
  second.projectPriority < first.projectPriority ∨
    first.projectPriority = second.projectPriority ∧
      (first.projectId < second.projectId ∨
        first.projectId = second.projectId ∧ first.taskId ≤ second.taskId)

instance : DecidableRel comesBefore := fun _ _ => by
  unfold comesBefore
  infer_instance

abbrev SchedulerProgram (α : Type) : Type := Program ProjectScheduler ValidationError α

variable (matcher : AgentMatchingRequest → List AgentCandidate →
    Except ValidationError AgentMatchingResult)
  (fresh : Nat → UUID) (clock : Nat → ℚ)

def assign (request : ProjectScheduleRequest) (selected : RankedAgentMatch) :
    SchedulerProgram AgentAssignment := do
  let scheduler ← look
  let assignment : AgentAssignment :=
    { assignmentId := fresh scheduler.draws
      agentId := selected.agent.agentId
      projectId := request.projectId
      taskId := request.taskId
      projectPriority := request.projectPriority
      score := selected.score
      status := .active
      assignedAt := clock scheduler.draws
      releasedAt := none }
  update fun scheduler =>
    { activeByAgent := scheduler.activeByAgent.set assignment.agentId assignment
      history := scheduler.history ++ [assignment]
      draws := scheduler.draws + 1 }
  pure assignment

def unclaimed (claimed : List UUID) (result : AgentMatchingResult) : Option RankedAgentMatch :=
  result.matched.find? fun matched => !claimed.contains matched.agent.agentId

def scheduleEach (candidates : List AgentCandidate) :
    List ProjectScheduleRequest → List UUID → SchedulerProgram (List AgentAssignment)
  | [], _ => pure []
  | request :: rest, claimed => do
      let result ← resume (matcher request.matchingRequest candidates)
      match unclaimed claimed result with
      | none => scheduleEach candidates rest claimed
      | some selected => do
          let assignment ← assign fresh clock request selected
          let later ← scheduleEach candidates rest (assignment.agentId :: claimed)
          pure (assignment :: later)

def schedule (requests : List ProjectScheduleRequest) (candidates : List AgentCandidate) :
    SchedulerProgram (List AgentAssignment) := do
  let scheduler ← look
  scheduleEach matcher fresh clock candidates (requests.insertionSort comesBefore)
    (scheduler.activeByAgent.entries.map Prod.fst)

def releaseEach (project : UUID) : List (UUID × AgentAssignment) → SchedulerProgram Nat
  | [] => pure 0
  | (agent, assignment) :: rest =>
      if assignment.projectId ≠ project then releaseEach project rest
      else do
        let scheduler ← look
        let released := assignment.released (clock scheduler.draws)
        update fun scheduler =>
          { scheduler with
            activeByAgent := scheduler.activeByAgent.pop agent
            draws := scheduler.draws + 1 }
        match scheduler.history.findIdx? fun entry => decide (entry = assignment) with
        | none => raise (.invalid "history")
        | some place => do
            update fun scheduler =>
              { scheduler with history := scheduler.history.set place released }
            let more ← releaseEach project rest
            pure (more + 1)

def releaseProject (project : UUID) : SchedulerProgram Nat := do
  let scheduler ← look
  releaseEach clock project scheduler.activeByAgent.entries

end ProjectScheduler

inductive Call
  | schedule (requests : List ProjectScheduleRequest) (candidates : List AgentCandidate)
  | release (project : UUID)

section Runs

variable (matcher : AgentMatchingRequest → List AgentCandidate →
    Except ValidationError AgentMatchingResult)
  (fresh : Nat → UUID) (clock : Nat → ℚ)

def perform (scheduler : ProjectScheduler) : Call → ProjectScheduler
  | .schedule requests candidates =>
      (ProjectScheduler.schedule matcher fresh clock requests candidates scheduler).2
  | .release project => (ProjectScheduler.releaseProject clock project scheduler).2

def performed (calls : List Call) : ProjectScheduler :=
  calls.foldl (perform matcher fresh clock) .initial

end Runs

end SynapseOS.Scheduling
