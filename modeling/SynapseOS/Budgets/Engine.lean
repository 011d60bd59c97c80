import SynapseOS.Core.Fields

/-! The budget gate (`core/budget`), on exact amounts. -/

namespace SynapseOS.Budgets

open Execution

inductive BudgetScope
  | project
  | task
  | run
  | agent
  deriving DecidableEq, Repr

inductive UsageKind
  | llmRequest
  | toolCall
  deriving DecidableEq, Repr

structure UsageRecord where
  id : UUID
  projectId : UUID
  taskId : Option UUID
  runId : Option UUID
  agentId : Option UUID
  kind : UsageKind
  inputTokens : Option Nat
  outputTokens : Option Nat
  durationMs : ℚ
  toolCalls : Nat
  cpuMs : ℚ
  gpuMs : ℚ
  providerCost : Option ℚ
  tokens_valid : inputTokens.getD 0 ≤ 10000000 ∧ outputTokens.getD 0 ≤ 10000000
  duration_valid : 0 ≤ durationMs ∧ durationMs ≤ 86400000
  calls_valid : toolCalls ≤ 100000
  cpu_valid : 0 ≤ cpuMs ∧ cpuMs ≤ 86400000
  gpu_valid : 0 ≤ gpuMs ∧ gpuMs ≤ 86400000
  cost_valid : 0 ≤ providerCost.getD 0
  deriving DecidableEq

def UsageRecord.totalTokens (record : UsageRecord) : Nat :=
  record.inputTokens.getD 0 + record.outputTokens.getD 0

inductive Dimension
  | tokens
  | llmCalls
  | duration
  | toolCalls
  | cpu
  | gpu
  | providerCost
  deriving DecidableEq, Repr

def dimensions : List Dimension :=
  [.tokens, .llmCalls, .duration, .toolCalls, .cpu, .gpu, .providerCost]

theorem mem_dimensions (dimension : Dimension) : dimension ∈ dimensions := by
  cases dimension <;> decide

def UsageRecord.amount (record : UsageRecord) : Dimension → ℚ
  | .tokens => record.totalTokens
  | .llmCalls => if record.kind = .llmRequest then 1 else 0
  | .duration => record.durationMs
  | .toolCalls => record.toolCalls
  | .cpu => record.cpuMs
  | .gpu => record.gpuMs
  | .providerCost => record.providerCost.getD 0

theorem UsageRecord.amount_nonneg (record : UsageRecord) (dimension : Dimension) :
    0 ≤ record.amount dimension := by
  cases dimension with
  | tokens => exact Nat.cast_nonneg _
  | llmCalls =>
      show (0 : ℚ) ≤ if record.kind = .llmRequest then 1 else 0
      split <;> norm_num
  | duration => exact record.duration_valid.1
  | toolCalls => exact Nat.cast_nonneg _
  | cpu => exact record.cpu_valid.1
  | gpu => exact record.gpu_valid.1
  | providerCost => exact record.cost_valid

structure Budget where
  scope : BudgetScope
  scopeId : UUID
  maxTokens : Option Nat
  maxLlmCalls : Option Nat
  maxDurationMs : Option ℚ
  maxToolCalls : Option Nat
  maxCpuMs : Option ℚ
  maxGpuMs : Option ℚ
  maxProviderCost : Option ℚ

def Budget.limit (budget : Budget) : Dimension → Option ℚ
  | .tokens => budget.maxTokens.map Nat.cast
  | .llmCalls => budget.maxLlmCalls.map Nat.cast
  | .duration => budget.maxDurationMs
  | .toolCalls => budget.maxToolCalls.map Nat.cast
  | .cpu => budget.maxCpuMs
  | .gpu => budget.maxGpuMs
  | .providerCost => budget.maxProviderCost

def Budget.valid (budget : Budget) : Bool :=
  dimensions.all (fun dimension => (budget.limit dimension).all fun limit => decide (0 ≤ limit)) &&
    dimensions.any fun dimension => (budget.limit dimension).isSome

structure BudgetPolicy where
  budgets : List Budget
  few : budgets.length ≤ 4
  valid : ∀ budget ∈ budgets, budget.valid = true
  unique : (budgets.map fun budget => (budget.scope, budget.scopeId)).Nodup

inductive BudgetDecisionOutcome
  | allow
  | stop
  deriving DecidableEq, Repr

structure BudgetDecision where
  outcome : BudgetDecisionOutcome
  scope : Option BudgetScope
  reason : PyStr
  escalationRequired : Bool
  deriving DecidableEq

/-- `_matches`. -/
def budgetMatches (budget : Budget) (record : UsageRecord) : Bool :=
  decide ((match budget.scope with
    | .project => some record.projectId
    | .task => record.taskId
    | .run => record.runId
    | .agent => record.agentId) = some budget.scopeId)

def used (records : List UsageRecord) (dimension : Dimension) : ℚ :=
  (records.map fun record => record.amount dimension).sum

def exceeded : Dimension → PyStr
  | .tokens => .ofString "token budget exceeded"
  | .llmCalls => .ofString "LLM call budget exceeded"
  | .duration => .ofString "duration budget exceeded"
  | .toolCalls => .ofString "tool-call budget exceeded"
  | .cpu => .ofString "CPU budget exceeded"
  | .gpu => .ofString "GPU budget exceeded"
  | .providerCost => .ofString "provider cost budget exceeded"

def exceeds (budget : Budget) (records : List UsageRecord) (dimension : Dimension) : Bool :=
  (budget.limit dimension).any fun limit => decide (limit < used records dimension)

def evaluateBudget (budget : Budget) (current : UsageRecord) (history : List UsageRecord) :
    Option BudgetDecision :=
  let counted := history.filter (budgetMatches budget) ++ [current]
  (dimensions.find? (exceeds budget counted)).map fun dimension =>
    ⟨.stop, some budget.scope, exceeded dimension, true⟩

def evaluate (policy : BudgetPolicy) (record : UsageRecord) (history : List UsageRecord) :
    BudgetDecision :=
  (policy.budgets.findSome? fun budget =>
    if budgetMatches budget record = true then evaluateBudget budget record history else none).getD
      ⟨.allow, none, .ofString "within budget", false⟩

end SynapseOS.Budgets
