import SynapseOS.Budgets.Engine

/-! Runs in which what is allowed is recorded. -/

namespace SynapseOS.Budgets

section Totals

variable {records others : List UsageRecord} {dimension : Dimension}

theorem used_append : used (records ++ others) dimension = used records dimension +
    used others dimension := by
  unfold used
  rw [List.map_append, List.sum_append]

theorem used_nonneg (records : List UsageRecord) : 0 ≤ used records dimension := by
  unfold used
  refine List.sum_nonneg fun amount among => ?_
  obtain ⟨record, _, rfl⟩ := List.mem_map.mp among
  exact record.amount_nonneg dimension

theorem used_perm (same : records.Perm others) : used records dimension = used others dimension :=
  (same.map fun record : UsageRecord => record.amount dimension).sum_eq

theorem used_subperm (part : records.Subperm others) :
    used records dimension ≤ used others dimension := by
  obtain ⟨kept, same, sublist⟩ := part
  obtain ⟨rest, whole⟩ := sublist.exists_perm_append
  rw [used_perm whole, used_append, used_perm same]
  exact le_add_of_nonneg_right (used_nonneg rest)

end Totals

section Growth

structure Grows (record grown : UsageRecord) : Prop where
  project : grown.projectId = record.projectId
  task : grown.taskId = record.taskId
  run : grown.runId = record.runId
  agent : grown.agentId = record.agentId
  kind : grown.kind = record.kind
  amounts : ∀ dimension, record.amount dimension ≤ grown.amount dimension

def HistoryGrows (history later : List UsageRecord) : Prop :=
  ∃ kept, List.Forall₂ Grows history kept ∧ kept.Subperm later

variable {budget : Budget} {record grown : UsageRecord} {history later kept : List UsageRecord}

theorem grows_matches (grows : Grows record grown) :
    budgetMatches budget grown = budgetMatches budget record := by
  unfold budgetMatches
  rw [grows.project, grows.task, grows.run, grows.agent]

theorem filter_grows (pairs : List.Forall₂ Grows history kept) :
    List.Forall₂ Grows (history.filter (budgetMatches budget))
    (kept.filter (budgetMatches budget)) := by
  induction pairs with
  | nil => exact .nil
  | cons first rest ih =>
      rw [List.filter_cons, List.filter_cons, grows_matches first]
      split
      · exact .cons first ih
      · exact ih

theorem used_grows {dimension : Dimension} (pairs : List.Forall₂ Grows history kept) :
    used history dimension ≤ used kept dimension := by
  unfold used
  induction pairs with
  | nil => exact le_refl _
  | cons first rest ih =>
      rw [List.map_cons, List.map_cons, List.sum_cons, List.sum_cons]
      exact add_le_add (first.amounts dimension) ih

theorem scoped_grows {dimension : Dimension} (grows : Grows record grown)
    (more : HistoryGrows history later) :
    used (history.filter (budgetMatches budget) ++ [record]) dimension ≤
      used (later.filter (budgetMatches budget) ++ [grown]) dimension := by
  obtain ⟨kept, pairs, part⟩ := more
  have kept_less : used (history.filter (budgetMatches budget)) dimension ≤
      used (kept.filter (budgetMatches budget)) dimension := used_grows (filter_grows pairs)
  have past := kept_less.trans (used_subperm (part.filter _))
  have last : used [record] dimension ≤ used [grown] dimension := used_grows (.cons grows .nil)
  rw [used_append, used_append]
  exact add_le_add past last

end Growth

section Decisions

variable {policy : BudgetPolicy} {record : UsageRecord} {history : List UsageRecord}

theorem evaluateBudget_none {budget : Budget} : evaluateBudget budget record history = none ↔
    ∀ dimension limit, budget.limit dimension = some limit →
      used (history.filter (budgetMatches budget) ++ [record]) dimension ≤ limit := by
  unfold evaluateBudget
  rw [Option.map_eq_none_iff, List.find?_eq_none]
  constructor
  · intro within dimension limit bound
    have held := within dimension (mem_dimensions dimension)
    unfold exceeds at held
    rw [bound] at held
    simpa using held
  · intro within dimension _
    unfold exceeds
    cases bound : budget.limit dimension with
    | none => exact Bool.false_ne_true
    | some limit => simpa using within dimension limit bound

theorem evaluateBudget_stops {budget : Budget} {decision : BudgetDecision}
    (stops : evaluateBudget budget record history = some decision) : decision.outcome = .stop := by
  obtain ⟨_, _, rfl⟩ := Option.map_eq_some_iff.mp stops
  rfl

/-- A record is allowed when it exceeds no limit of a budget that it falls under. -/
theorem evaluate_allow : (evaluate policy record history).outcome = .allow ↔
    ∀ budget ∈ policy.budgets, budgetMatches budget record = true →
      ∀ dimension limit, budget.limit dimension = some limit →
        used (history.filter (budgetMatches budget) ++ [record]) dimension ≤ limit := by
  unfold evaluate
  cases found : policy.budgets.findSome? fun budget =>
      if budgetMatches budget record = true then evaluateBudget budget record history else none with
  | none =>
      refine ⟨fun _ budget among falls => ?_, fun _ => rfl⟩
      have passes := List.findSome?_eq_none_iff.mp found budget among
      rw [if_pos falls] at passes
      exact evaluateBudget_none.mp passes
  | some decision =>
      obtain ⟨budget, among, stops⟩ := List.exists_of_findSome?_eq_some found
      split at stops
      · next falls =>
          have stopped := evaluateBudget_stops stops
          refine ⟨fun allows => ?_, fun within => ?_⟩
          · rw [Option.getD_some, stopped] at allows
            cases allows
          · rw [evaluateBudget_none.mpr (within budget among falls)] at stops
            cases stops
      · cases stops

end Decisions

/-- No limit of a budget is exceeded by what is recorded in its scope. -/
def Within (policy : BudgetPolicy) (history : List UsageRecord) : Prop :=
  ∀ budget ∈ policy.budgets, ∀ dimension limit, budget.limit dimension = some limit →
    used (history.filter (budgetMatches budget)) dimension ≤ limit

def grant (policy : BudgetPolicy) (history : List UsageRecord) (record : UsageRecord) :
    List UsageRecord :=
  if (evaluate policy record history).outcome = .allow then history ++ [record] else history

def recorded (policy : BudgetPolicy) (requests : List UsageRecord) : List UsageRecord :=
  requests.foldl (grant policy) []

theorem within_nil (policy : BudgetPolicy) : Within policy [] := by
  intro budget among dimension limit bound
  have checks := policy.valid budget among
  unfold Budget.valid at checks
  rw [Bool.and_eq_true, List.all_eq_true] at checks
  have nonneg := checks.1 dimension (mem_dimensions dimension)
  rw [bound] at nonneg
  exact of_decide_eq_true nonneg

theorem within_admit {policy : BudgetPolicy} {history : List UsageRecord} (record : UsageRecord)
    (within : Within policy history) : Within policy (grant policy history record) := by
  unfold grant
  split
  · next allows =>
      intro budget among dimension limit bound
      rw [List.filter_append]
      by_cases falls : budgetMatches budget record = true
      · rw [List.filter_cons_of_pos falls, List.filter_nil]
        exact evaluate_allow.mp allows budget among falls dimension limit bound
      · rw [List.filter_cons_of_neg falls, List.filter_nil, List.append_nil]
        exact within budget among dimension limit bound
  · exact within

theorem within_recorded (policy : BudgetPolicy) (requests : List UsageRecord) :
    Within policy (recorded policy requests) := by
  induction requests using List.reverseRecOn with
  | nil => exact within_nil policy
  | append_singleton requests record ih =>
      unfold recorded
      rw [List.foldl_append]
      exact within_admit record ih

theorem evaluate_history {policy : BudgetPolicy} {record : UsageRecord}
    {history other : List UsageRecord}
    (same : other.Perm history) : evaluate policy record other =
      evaluate policy record history := by
  have each : ∀ budget, evaluateBudget budget record other =
      evaluateBudget budget record history := by
    intro budget
    have checks : exceeds budget (other.filter (budgetMatches budget) ++ [record]) =
        exceeds budget (history.filter (budgetMatches budget) ++ [record]) := by
      funext dimension
      unfold exceeds
      rw [used_perm ((same.filter _).append_right _)]
    unfold evaluateBudget
    simp only [checks]
  unfold evaluate
  simp only [each]

theorem evaluate_budgets {policy other : BudgetPolicy} {record : UsageRecord}
    {history : List UsageRecord} (same : other.budgets.Perm policy.budgets) :
    (evaluate other record history).outcome = (evaluate policy record history).outcome := by
  have both : (evaluate other record history).outcome = .allow ↔
      (evaluate policy record history).outcome = .allow := by
    rw [evaluate_allow, evaluate_allow]
    simp only [same.mem_iff]
  cases left : (evaluate other record history).outcome <;>
    cases right : (evaluate policy record history).outcome <;> simp_all

/-- What is refused stays refused when its amounts and the records grow. -/
theorem refused_grows {policy : BudgetPolicy} {record grown : UsageRecord}
    {history later : List UsageRecord} (grows : Grows record grown)
    (more : HistoryGrows history later)
    (refused : (evaluate policy record history).outcome = .stop) :
    (evaluate policy grown later).outcome = .stop := by
  cases answer : (evaluate policy grown later).outcome with
  | stop => rfl
  | allow =>
      have allows : (evaluate policy record history).outcome = .allow := by
        refine evaluate_allow.mpr fun budget among falls dimension limit bound => ?_
        rw [← grows_matches grows] at falls
        exact (scoped_grows grows more).trans
          (evaluate_allow.mp answer budget among falls dimension limit bound)
      rw [allows] at refused
      cases refused

/-- The budgets hold along every run, in whatever order they and the records are listed. -/
theorem budgets_hold (policy : BudgetPolicy) :
    (∀ requests, Within policy (recorded policy requests)) ∧
      (∀ other : BudgetPolicy, other.budgets.Perm policy.budgets → ∀ history past record,
        past.Perm history → evaluate policy record past = evaluate policy record history ∧
        (evaluate other record past).outcome = (evaluate policy record history).outcome) ∧
      ∀ record grown history later, Grows record grown → HistoryGrows history later →
        (evaluate policy record history).outcome = .stop →
        (evaluate policy grown later).outcome = .stop := by
  refine ⟨within_recorded policy, ?_, fun _ _ _ _ grows more refused =>
    refused_grows grows more refused⟩
  intro other budgets history past record records
  refine ⟨evaluate_history records, ?_⟩
  rw [evaluate_history records]
  exact evaluate_budgets budgets

end SynapseOS.Budgets
