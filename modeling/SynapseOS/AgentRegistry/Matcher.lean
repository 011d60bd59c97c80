import SynapseOS.Core.Fields
import SynapseOS.Core.Enums
import SynapseOS.Lib.Rounding
import SynapseOS.Permissions.Types

/-! The matching of agents to a workstream (`core/agent_registry`). -/

namespace SynapseOS.AgentRegistry

open Tools Permissions

inductive AgentSeniority
  | trainee
  | junior
  | engineer
  | senior
  | staff
  | principal
  deriving DecidableEq, Repr

namespace AgentSeniority

def value : AgentSeniority → String
  | .trainee => "TRAINEE"
  | .junior => "JUNIOR"
  | .engineer => "ENGINEER"
  | .senior => "SENIOR"
  | .staff => "STAFF"
  | .principal => "PRINCIPAL"

/-- `_SENIORITY_RANK`. -/
def rank : AgentSeniority → Nat
  | .trainee => 0
  | .junior => 1
  | .engineer => 2
  | .senior => 3
  | .staff => 4
  | .principal => 5

theorem rank_le (seniority : AgentSeniority) : seniority.rank ≤ 5 := by
  cases seniority <;> decide

end AgentSeniority

def riskValue : ToolRiskLevel → String
  | .low => "LOW"
  | .medium => "MEDIUM"
  | .high => "HIGH"
  | .critical => "CRITICAL"

def riskAutonomy : ToolRiskLevel → Nat
  | .low => 0
  | .medium => 1
  | .high => 2
  | .critical => 3

/-- A decimal from 0 to 1 with four places, in ten-thousandths. -/
structure Score where
  units : Nat
  small : units ≤ 10000
  deriving DecidableEq

namespace Score

def value (score : Score) : ℚ := (score.units : ℚ) / 10000

theorem value_unit (score : Score) : 0 ≤ score.value ∧ score.value ≤ 1 := by
  have small : (score.units : ℚ) ≤ 10000 := by exact_mod_cast score.small
  unfold value
  constructor
  · positivity
  · rw [div_le_one (by norm_num)]
    exact small

/-- `_quantize` of a value from 0 to 1. -/
def quantize (value : ℚ) (unit : 0 ≤ value ∧ value ≤ 1) : Score where
  units := (Rounding.halfUp (value * (10000 : Nat))).toNat
  small := by
    have bounds := Rounding.halfUp_unit unit.1 unit.2 10000
    omega

end Score

structure AgentCapabilitySnapshot where
  name : Identifier
  expertise : Score
  deriving DecidableEq

structure AgentCandidate where
  agentId : UUID
  slug : Identifier
  seniority : AgentSeniority
  status : AgentStatus
  autonomyLevel : Nat
  reputation : Score
  reliability : Score
  capabilities : List AgentCapabilitySnapshot
  activePermissions : List Permission
  autonomy_valid : autonomyLevel ≤ 5
  capabilities_few : capabilities.length ≤ 64
  capabilities_unique : (capabilities.map fun capability => capability.name).Nodup
  permissions_unique : activePermissions.Nodup

structure AgentCostEstimate where
  agentId : UUID
  normalizedCost : Score
  deriving DecidableEq

structure DomainWorkstream where
  id : Identifier
  requiredCapabilities : List Identifier
  capabilities_few : 1 ≤ requiredCapabilities.length ∧ requiredCapabilities.length ≤ 32
  capabilities_unique : requiredCapabilities.Nodup

structure AgentMatchingRequest where
  projectId : UUID
  workstream : DomainWorkstream
  requiredPermissions : List Permission
  minimumSeniority : AgentSeniority
  riskLevel : ToolRiskLevel
  costEstimates : List AgentCostEstimate
  limit : Nat
  permissions_valid : requiredPermissions.length ≤ 32 ∧ requiredPermissions.Nodup
  costs_few : costEstimates.length ≤ 100
  costs_unique : (costEstimates.map fun estimate => estimate.agentId).Nodup
  limit_valid : 1 ≤ limit ∧ limit ≤ 100

structure AgentMatchScore where
  expertise : Score
  reputation : Score
  reliability : Score
  seniorityFit : Score
  costEfficiency : Score

structure RankedAgentMatch where
  agent : AgentCandidate
  score : Score
  breakdown : AgentMatchScore
  explanation : List String

structure RejectedAgentMatch where
  agentId : UUID
  reasons : List String

structure AgentMatchingResult where
  workstreamId : Identifier
  matched : List RankedAgentMatch
  rejections : List RejectedAgentMatch

section Matching

def sortedTexts (texts : List String) : List String :=
  texts.insertionSort fun first second => ¬ second < first

variable (request : AgentMatchingRequest) (candidate : AgentCandidate)

def costOf : Option Score :=
  (request.costEstimates.find? fun estimate => decide (estimate.agentId = candidate.agentId)).map
    fun estimate => estimate.normalizedCost

/-- The expertise in a capability. Identifiers have no upper case. -/
def expertiseIn (name : Identifier) : Option Score :=
  (candidate.capabilities.find? fun capability => decide (capability.name = name)).map
    fun capability => capability.expertise

def rejectionReasons : List String :=
  let lacked := request.workstream.requiredCapabilities.filter fun name =>
    (expertiseIn candidate name).isNone
  let refused := request.requiredPermissions.filter fun permission =>
    !candidate.activePermissions.contains permission
  itemIf (decide (candidate.status ≠ .available)) "Agent is not available." ++
    itemIf (!lacked.isEmpty) ("Missing required capabilities: " ++
      String.intercalate ", " (sortedTexts (lacked.map fun name => name.text)) ++ ".") ++
    itemIf (!refused.isEmpty) ("Missing required permissions: " ++
      String.intercalate ", " (sortedTexts (refused.map Permission.value)) ++ ".") ++
    itemIf (decide (candidate.autonomyLevel < riskAutonomy request.riskLevel))
      ("Autonomy level is below the " ++ riskValue request.riskLevel ++ " risk requirement.") ++
    itemIf (decide (candidate.seniority.rank < request.minimumSeniority.rank))
      ("Seniority is below the " ++ request.minimumSeniority.value ++ " requirement.") ++
    itemIf (costOf request candidate).isNone "No task cost estimate was supplied."

end Matching

theorem mean_unit (scores : List Score) :
    0 ≤ (scores.map Score.value).sum / (scores.length : ℚ) ∧
      (scores.map Score.value).sum / (scores.length : ℚ) ≤ 1 := by
  have each : 0 ≤ (scores.map Score.value).sum ∧ (scores.map Score.value).sum ≤ scores.length := by
    induction scores with
    | nil => simp
    | cons score rest ih =>
        have unit := score.value_unit
        rw [List.map_cons, List.sum_cons, List.length_cons]
        push_cast
        constructor <;> linarith
  exact ⟨div_nonneg each.1 (Nat.cast_nonneg _), div_le_one_of_le₀ each.2 (Nat.cast_nonneg _)⟩

def seniorityFit (seniority : AgentSeniority) : Score :=
  .quantize ((seniority.rank : ℚ) / 5) (by
    have top : (seniority.rank : ℚ) ≤ 5 := by exact_mod_cast seniority.rank_le
    constructor
    · positivity
    · rw [div_le_one (by norm_num)]
      exact top)

def AgentMatchScore.total (breakdown : AgentMatchScore) : Score :=
  .quantize (breakdown.expertise.value * (35 / 100) + breakdown.reputation.value * (20 / 100) +
    breakdown.reliability.value * (20 / 100) + breakdown.seniorityFit.value * (10 / 100) +
    breakdown.costEfficiency.value * (15 / 100)) (by
    have expertise := breakdown.expertise.value_unit
    have reputation := breakdown.reputation.value_unit
    have reliability := breakdown.reliability.value_unit
    have fit := breakdown.seniorityFit.value_unit
    have cost := breakdown.costEfficiency.value_unit
    constructor <;> linarith)

/-- `_ranked_match` of a candidate that has no reason to be rejected. -/
def rankedMatch (request : AgentMatchingRequest) (candidate : AgentCandidate) (cost : Score) :
    RankedAgentMatch :=
  let scores := request.workstream.requiredCapabilities.filterMap (expertiseIn candidate)
  let breakdown : AgentMatchScore :=
    { expertise := .quantize _ (mean_unit scores)
      reputation := candidate.reputation
      reliability := candidate.reliability
      seniorityFit := seniorityFit candidate.seniority
      costEfficiency := .quantize (1 - cost.value) (by
        have unit := cost.value_unit
        constructor <;> linarith) }
  { agent := candidate
    score := breakdown.total
    breakdown
    explanation :=
      ["All required capabilities are active.",
        "All required permissions are active for the project scope.",
        "Autonomy level satisfies " ++ riskValue request.riskLevel ++ " risk."] }

def judged (request : AgentMatchingRequest) (candidate : AgentCandidate) :
    RankedAgentMatch ⊕ RejectedAgentMatch :=
  match rejectionReasons request candidate, costOf request candidate with
  | [], some cost => .inl (rankedMatch request candidate cost)
  | reasons, _ => .inr ⟨candidate.agentId, reasons⟩

/-- `AgentMatcher.match`. -/
def matchAgents (request : AgentMatchingRequest) (candidates : List AgentCandidate) :
    Except ValidationError AgentMatchingResult :=
  if 100 < candidates.length then
    .error (.invalid "agent candidates must be a bounded sequence")
  else if ¬ (candidates.map fun candidate => candidate.agentId).Nodup then
    .error (.invalid "agent candidates must be unique")
  else
    let results := candidates.map (judged request)
    let matched := (results.filterMap Sum.getLeft?).insertionSort fun first second =>
      second.score.units < first.score.units ∨
        second.score.units = first.score.units ∧ first.agent.agentId ≤ second.agent.agentId
    let rejections := (results.filterMap Sum.getRight?).insertionSort fun first second =>
      first.agentId ≤ second.agentId
    .ok ⟨request.workstream.id, matched.take request.limit, rejections⟩

end SynapseOS.AgentRegistry
