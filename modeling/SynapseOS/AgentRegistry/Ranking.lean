import SynapseOS.Lib.Standing
import SynapseOS.Scheduling.Unassigned

/-! What the matching of agents owes its candidates: who is rejected and why, who is ranked where,
and that a better candidate stands no lower. -/

namespace SynapseOS.AgentRegistry

open Tools Permissions Scheduling

section Requirements

inductive Requirement
  | availability
  | capabilities
  | permissions
  | autonomy
  | seniority
  | cost
  deriving DecidableEq, Repr

def requirements : List Requirement :=
  [.availability, .capabilities, .permissions, .autonomy, .seniority, .cost]

variable (request : AgentMatchingRequest) (candidate : AgentCandidate)

def lacks (name : Identifier) : Bool :=
  decide (∀ capability ∈ candidate.capabilities, capability.name ≠ name)

def fails : Requirement → Bool
  | .availability => decide (candidate.status ≠ .available)
  | .capabilities => request.workstream.requiredCapabilities.any (lacks candidate)
  | .permissions => request.requiredPermissions.any fun permission =>
      decide (permission ∉ candidate.activePermissions)
  | .autonomy => decide (candidate.autonomyLevel < riskAutonomy request.riskLevel)
  | .seniority => decide (candidate.seniority.rank < request.minimumSeniority.rank)
  | .cost => decide (∀ estimate ∈ request.costEstimates, estimate.agentId ≠ candidate.agentId)

def reason : Requirement → String
  | .availability => "Agent is not available."
  | .capabilities => "Missing required capabilities: " ++ String.intercalate ", " (sortedTexts
      ((request.workstream.requiredCapabilities.filter (lacks candidate)).map fun name =>
        name.text)) ++ "."
  | .permissions => "Missing required permissions: " ++ String.intercalate ", " (sortedTexts
      ((request.requiredPermissions.filter fun permission =>
        decide (permission ∉ candidate.activePermissions)).map Permission.value)) ++ "."
  | .autonomy => "Autonomy level is below the " ++ riskValue request.riskLevel ++
      " risk requirement."
  | .seniority => "Seniority is below the " ++ request.minimumSeniority.value ++ " requirement."
  | .cost => "No task cost estimate was supplied."

def suitable : Bool := requirements.all fun requirement => !fails request candidate requirement

variable {request candidate}

theorem expertiseIn_none {name : Identifier} :
    (expertiseIn candidate name).isNone = lacks candidate name := by
  rw [Bool.eq_iff_iff]
  simp [expertiseIn, lacks]

theorem costOf_none : (costOf request candidate).isNone = fails request candidate .cost := by
  rw [Bool.eq_iff_iff]
  simp [costOf, fails]

theorem filter_isEmpty {α : Type} {items : List α} {chosen : α → Bool} :
    (!(items.filter chosen).isEmpty) = items.any chosen := by
  induction items with
  | nil => rfl
  | cons item rest ih =>
      cases picked : chosen item with
      | true => simp [picked]
      | false => simpa [picked] using ih

/-- The reasons are those of exactly the failed requirements. -/
theorem rejectionReasons_eq : rejectionReasons request candidate =
    (requirements.filter (fails request candidate)).map (reason request candidate) := by
  have one : ∀ requirement, itemIf (fails request candidate requirement)
      (reason request candidate requirement) =
        ([requirement].filter (fails request candidate)).map (reason request candidate) := by
    intro requirement
    cases failed : fails request candidate requirement <;> simp [itemIf, failed]
  have lacked : (fun name => (expertiseIn candidate name).isNone) = lacks candidate :=
    funext fun name => expertiseIn_none
  have refused : (fun permission => !candidate.activePermissions.contains permission) =
      fun permission => decide (permission ∉ candidate.activePermissions) := by
    funext permission
    rw [Bool.eq_iff_iff]
    simp
  unfold rejectionReasons
  rw [lacked, refused]
  dsimp only
  rw [filter_isEmpty, filter_isEmpty, costOf_none]
  calc
    _ = itemIf (fails request candidate .availability) (reason request candidate .availability) ++
          itemIf (fails request candidate .capabilities) (reason request candidate .capabilities) ++
          itemIf (fails request candidate .permissions) (reason request candidate .permissions) ++
          itemIf (fails request candidate .autonomy) (reason request candidate .autonomy) ++
          itemIf (fails request candidate .seniority) (reason request candidate .seniority) ++
          itemIf (fails request candidate .cost) (reason request candidate .cost) := rfl
    _ = _ := by
      simp only [one, ← List.map_append, ← List.filter_append]
      rfl

theorem suitable_iff : suitable request candidate = true ↔ Eligible request candidate := by
  unfold Eligible
  rw [rejectionReasons_eq, List.map_eq_nil_iff, List.filter_eq_nil_iff]
  simp [suitable]

end Requirements

section Outcome

def matchKey (found : RankedAgentMatch) : Natᵒᵈ ×ₗ Nat :=
  toLex (OrderDual.toDual found.score.units, found.agent.agentId)

def Outranks (first second : RankedAgentMatch) : Prop :=
  second.score.units < first.score.units ∨
    second.score.units = first.score.units ∧ first.agent.agentId ≤ second.agent.agentId

variable {request : AgentMatchingRequest} {candidate : AgentCandidate}
    {candidates : List AgentCandidate}
  {found : RankedAgentMatch}

theorem outranks_iff {first second : RankedAgentMatch} :
    Outranks first second ↔ matchKey first ≤ matchKey second := by
  unfold Outranks matchKey
  rw [Prod.Lex.toLex_le_toLex, OrderDual.toDual_lt_toDual]
  apply or_congr_right
  apply and_congr_left
  intro _
  exact ⟨fun same => congrArg OrderDual.toDual same.symm,
    fun same => (OrderDual.toDual.injective same).symm⟩

def matchOf (request : AgentMatchingRequest) (candidate : AgentCandidate) :
    Option RankedAgentMatch :=
  (judged request candidate).getLeft?

theorem matchOf_some : matchOf request candidate = some found ↔
    Eligible request candidate ∧ ∃ cost, costOf request candidate = some cost ∧
      found = rankedMatch request candidate cost := by
  unfold matchOf judged Eligible
  constructor
  · intro left
    split at left
    · next none_ supplied =>
        exact ⟨none_, _, supplied, (Option.some.inj left).symm⟩
    · cases left
  · rintro ⟨eligible, cost, supplied, rfl⟩
    rw [eligible, supplied]
    rfl

theorem matchOf_agent (ofCandidate : matchOf request candidate = some found) :
    found.agent = candidate := by
  rw [matchOf_some] at ofCandidate
  rcases ofCandidate with ⟨_, cost, _, rfl⟩
  rfl

theorem matchOf_eligible (eligible : Eligible request candidate) :
    ∃ found, matchOf request candidate = some found := by
  rcases eligible_cost eligible with ⟨cost, supplied⟩
  refine ⟨rankedMatch request candidate cost, ?_⟩
  rw [matchOf_some]
  exact ⟨eligible, cost, supplied, rfl⟩

theorem matchOf_none (ineligible : ¬Eligible request candidate) :
    matchOf request candidate = none := by
  cases ofCandidate : matchOf request candidate with
  | none => rfl
  | some found =>
      rw [matchOf_some] at ofCandidate
      exact absurd ofCandidate.1 ineligible

def rejectionOf (request : AgentMatchingRequest) (candidate : AgentCandidate) :
    Option RejectedAgentMatch :=
  (judged request candidate).getRight?

theorem rejectionOf_eq : rejectionOf request candidate =
    if suitable request candidate = true then none
    else some ⟨candidate.agentId, rejectionReasons request candidate⟩ := by
  unfold rejectionOf judged
  by_cases eligible : Eligible request candidate
  · rw [if_pos (by rwa [suitable_iff])]
    rcases eligible_cost eligible with ⟨cost, supplied⟩
    unfold Eligible at eligible
    rw [eligible, supplied]
    rfl
  · rw [if_neg (by rwa [suitable_iff])]
    split
    · next none_ _ => exact absurd none_ eligible
    · rfl

def matchesOf (request : AgentMatchingRequest) (candidates : List AgentCandidate) :
    List RankedAgentMatch :=
  candidates.filterMap (matchOf request)

theorem matchesOf_agents : (matchesOf request candidates).map (fun found => found.agent) =
    candidates.filter (suitable request) := by
  unfold matchesOf
  induction candidates with
  | nil => rfl
  | cons candidate rest ih =>
      by_cases eligible : Eligible request candidate
      · rcases matchOf_eligible eligible with ⟨found, ofCandidate⟩
        rw [List.filterMap_cons_some ofCandidate, List.map_cons, ih, matchOf_agent ofCandidate,
          List.filter_cons_of_pos (by rwa [suitable_iff])]
      · rw [List.filterMap_cons_none (matchOf_none eligible), ih,
          List.filter_cons_of_neg (by rwa [suitable_iff])]

theorem rejectionsOf_eq : candidates.filterMap (rejectionOf request) =
    (candidates.filter fun candidate => !suitable request candidate).map fun candidate =>
      ⟨candidate.agentId, rejectionReasons request candidate⟩ := by
  induction candidates with
  | nil => rfl
  | cons candidate rest ih =>
      cases fit : suitable request candidate with
      | true =>
          rw [List.filterMap_cons_none (by rw [rejectionOf_eq, if_pos fit]), ih,
            List.filter_cons_of_neg (by simp [fit])]
      | false =>
          rw [List.filterMap_cons_some (by rw [rejectionOf_eq, if_neg (by simp [fit])]), ih,
            List.filter_cons_of_pos (by simp [fit]), List.map_cons]

theorem ranking_eq : ranking request candidates = (matchesOf request candidates).insertionSort
    fun first second => second.score.units < first.score.units ∨
      second.score.units = first.score.units ∧ first.agent.agentId ≤ second.agent.agentId := by
  unfold ranking matchesOf
  rw [List.filterMap_map]
  rfl

theorem ranking_perm : (ranking request candidates).Perm (matchesOf request candidates) := by
  rw [ranking_eq]
  exact List.perm_insertionSort _ _

theorem ranking_sorted : (ranking request candidates).Pairwise Outranks := by
  have total : Std.Total fun first second : RankedAgentMatch =>
      second.score.units < first.score.units ∨
        second.score.units = first.score.units ∧ first.agent.agentId ≤ second.agent.agentId :=
    ⟨fun first second => by
      rcases le_total (matchKey first) (matchKey second) with below | above
      · exact .inl (outranks_iff.mpr below)
      · exact .inr (outranks_iff.mpr above)⟩
  have trans : IsTrans RankedAgentMatch fun first second : RankedAgentMatch =>
      second.score.units < first.score.units ∨
        second.score.units = first.score.units ∧ first.agent.agentId ≤ second.agent.agentId :=
    ⟨fun first second third before after =>
      outranks_iff.mpr ((outranks_iff.mp before).trans (outranks_iff.mp after))⟩
  rw [ranking_eq]
  exact List.pairwise_insertionSort (fun first second : RankedAgentMatch =>
    second.score.units < first.score.units ∨
      second.score.units = first.score.units ∧ first.agent.agentId ≤ second.agent.agentId) _

theorem matchKey_apart (distinct : (candidates.map fun candidate => candidate.agentId).Nodup) :
    ((matchesOf request candidates).map matchKey).Nodup := by
  have ids : (matchesOf request candidates).map (fun found => found.agent.agentId) =
      (candidates.filter (suitable request)).map fun candidate => candidate.agentId := by
    rw [← matchesOf_agents, List.map_map]
    rfl
  have part :
      ((candidates.filter (suitable request)).map fun candidate => candidate.agentId).Nodup :=
    distinct.sublist (List.filter_sublist.map _)
  rw [← ids] at part
  have same : (fun found : RankedAgentMatch => found.agent.agentId) =
      (fun key : Natᵒᵈ ×ₗ Nat => (ofLex key).2) ∘ matchKey := rfl
  rw [same, ← List.map_map] at part
  exact part.of_map

theorem ranking_keys : (ranking request candidates).Pairwise fun first second =>
    matchKey first ≤ matchKey second :=
  ranking_sorted.imp outranks_iff.mp

/-- The ranking does not depend on the order of the candidates. -/
theorem ranking_permuted {permuted : List AgentCandidate} (same : candidates.Perm permuted)
    (distinct : (candidates.map fun candidate => candidate.agentId).Nodup) :
    ranking request candidates = ranking request permuted := by
  have perm : (ranking request candidates).Perm (ranking request permuted) :=
    ranking_perm.trans ((same.filterMap _).trans ranking_perm.symm)
  apply Standing.sorted_unique perm _ ranking_keys ranking_keys
  exact (ranking_perm.map matchKey).nodup_iff.mpr (matchKey_apart distinct)

def rejected (request : AgentMatchingRequest) (candidates : List AgentCandidate) :
    List RejectedAgentMatch :=
  ((candidates.map (judged request)).filterMap Sum.getRight?).insertionSort fun first second =>
    first.agentId ≤ second.agentId

theorem rejected_perm : (rejected request candidates).Perm
    ((candidates.filter fun candidate => !suitable request candidate).map fun candidate =>
      ⟨candidate.agentId, rejectionReasons request candidate⟩) := by
  rw [← rejectionsOf_eq]
  apply (List.perm_insertionSort _ _).trans
  rw [List.filterMap_map]
  exact List.Perm.refl _

theorem rejected_sorted : (rejected request candidates).Pairwise fun first second =>
    first.agentId ≤ second.agentId := by
  have total : Std.Total fun first second : RejectedAgentMatch => first.agentId ≤ second.agentId :=
    ⟨fun first second => le_total _ _⟩
  have trans : IsTrans RejectedAgentMatch fun first second => first.agentId ≤ second.agentId :=
    ⟨fun first second third => le_trans⟩
  exact List.pairwise_insertionSort (fun first second : RejectedAgentMatch =>
    first.agentId ≤ second.agentId) _

theorem rejected_apart (distinct : (candidates.map fun candidate => candidate.agentId).Nodup) :
    ((rejected request candidates).map fun rejection => rejection.agentId).Nodup := by
  rw [(rejected_perm.map _).nodup_iff, List.map_map]
  exact distinct.sublist (List.filter_sublist.map _)

theorem rejected_permuted {permuted : List AgentCandidate} (same : candidates.Perm permuted)
    (distinct : (candidates.map fun candidate => candidate.agentId).Nodup) :
    rejected request candidates = rejected request permuted := by
  have perm : (rejected request candidates).Perm (rejected request permuted) :=
    rejected_perm.trans (((same.filter _).map _).trans rejected_perm.symm)
  exact Standing.sorted_unique perm (rejected_apart distinct) rejected_sorted rejected_sorted

theorem matchAgents_eq : matchAgents request candidates =
    if 100 < candidates.length then .error (.invalid "agent candidates must be a bounded sequence")
    else if ¬(candidates.map fun candidate => candidate.agentId).Nodup then
      .error (.invalid "agent candidates must be unique")
    else .ok ⟨request.workstream.id, (ranking request candidates).take request.limit,
      rejected request candidates⟩ :=
  rfl

theorem matchAgents_permuted {permuted : List AgentCandidate} (same : candidates.Perm permuted) :
    matchAgents request candidates = matchAgents request permuted := by
  have ids : (permuted.map fun candidate => candidate.agentId).Nodup ↔
      (candidates.map fun candidate => candidate.agentId).Nodup := (same.map _).nodup_iff.symm
  simp only [matchAgents_eq, ids, same.length_eq]
  split_ifs with many distinct
  · rfl
  · rw [ranking_permuted same distinct, rejected_permuted same distinct]
  · rfl

/-- A result says of the candidates what the requirements and the scores make of them. -/
structure Faithful (request : AgentMatchingRequest) (candidates : List AgentCandidate)
    (result : AgentMatchingResult) : Prop where
  workstream : result.workstreamId = request.workstream.id
  /-- Each ineligible candidate is rejected, with the reason of every requirement that it fails. -/
  rejections : result.rejections.Perm ((candidates.filter fun candidate =>
      !suitable request candidate).map fun candidate => ⟨candidate.agentId,
        (requirements.filter (fails request candidate)).map (reason request candidate)⟩)
  rejections_ordered : result.rejections.Pairwise fun first second => first.agentId < second.agentId
  /-- The matches are the first ones of all eligible candidates, each scored with its own cost. -/
  first_matches : ∃ cut, ((result.matched ++ cut).map fun found => found.agent).Perm
      (candidates.filter (suitable request)) ∧
    (result.matched ++ cut).Pairwise Outranks ∧
    result.matched.length = min request.limit (candidates.filter (suitable request)).length ∧
    ∀ found ∈ result.matched ++ cut, ∃ cost, costOf request found.agent = some cost ∧
      found = rankedMatch request found.agent cost
  unit_scores : ∀ found ∈ result.matched, ∀ score ∈ [found.score, found.breakdown.expertise,
    found.breakdown.reputation, found.breakdown.reliability, found.breakdown.seniorityFit,
    found.breakdown.costEfficiency], 0 ≤ score.value ∧ score.value ≤ 1

theorem matchAgents_faithful (few : candidates.length ≤ 100)
    (distinct : (candidates.map fun candidate => candidate.agentId).Nodup) :
    ∃ result, matchAgents request candidates = .ok result ∧ Faithful request candidates result := by
  have accepted : matchAgents request candidates = .ok ⟨request.workstream.id,
      (ranking request candidates).take request.limit, rejected request candidates⟩ := by
    rw [matchAgents_eq, if_neg (by omega), if_neg (not_not.mpr distinct)]
  refine ⟨_, accepted, ⟨rfl, ?_, ?_, ?_, ?_⟩⟩
  · simp only [← rejectionReasons_eq]
    exact rejected_perm
  · have apart : ((rejected request candidates).map fun rejection => rejection.agentId).Nodup :=
      rejected_apart distinct
    rw [List.Nodup, List.pairwise_map] at apart
    exact (rejected_sorted.and apart).imp fun both => lt_of_le_of_ne both.1 both.2
  · have agents : ((ranking request candidates).map fun found => found.agent).Perm
        (candidates.filter (suitable request)) := by
      rw [← matchesOf_agents]
      exact ranking_perm.map _
    refine ⟨(ranking request candidates).drop request.limit, ?_⟩
    dsimp only
    rw [List.take_append_drop]
    refine ⟨agents, ranking_sorted, ?_, ?_⟩
    · rw [List.length_take, ← agents.length_eq, List.length_map]
    · intro found among
      rcases List.mem_filterMap.mp (ranking_perm.mem_iff.mp among) with ⟨candidate, _, ofCandidate⟩
      rcases matchOf_some.mp ofCandidate with ⟨_, cost, supplied, rfl⟩
      exact ⟨cost, supplied, rfl⟩
  · intro found _ score _
    exact score.value_unit

end Outcome

section Improvement

structure Improved (old new : AgentCandidate) : Prop where
  same : new.agentId = old.agentId ∧ new.status = old.status ∧
    new.autonomyLevel = old.autonomyLevel ∧ new.activePermissions = old.activePermissions
  expertise : List.Forall₂ (fun before after : AgentCapabilitySnapshot => after.name = before.name ∧
    before.expertise.units ≤ after.expertise.units) old.capabilities new.capabilities
  reputation : old.reputation.units ≤ new.reputation.units
  reliability : old.reliability.units ≤ new.reliability.units
  seniority : old.seniority.rank ≤ new.seniority.rank

structure Cheaper (agentId : UUID) (old new : AgentMatchingRequest) : Prop where
  same : new.workstream = old.workstream ∧ new.requiredPermissions = old.requiredPermissions ∧
    new.minimumSeniority = old.minimumSeniority ∧ new.riskLevel = old.riskLevel
  costs : List.Forall₂ (fun before after : AgentCostEstimate => after.agentId = before.agentId ∧
    after.normalizedCost.units ≤ before.normalizedCost.units ∧
    (before.agentId ≠ agentId → after.normalizedCost = before.normalizedCost))
    old.costEstimates new.costEstimates

theorem value_mono {low high : Score} (below : low.units ≤ high.units) :
    low.value ≤ high.value := by
  unfold Score.value
  have cast : (low.units : ℚ) ≤ high.units := by exact_mod_cast below
  linarith

theorem spared_unit (cost : Score) : 0 ≤ 1 - cost.value ∧ 1 - cost.value ≤ 1 := by
  have unit := cost.value_unit
  constructor <;> linarith

theorem quantize_mono {low high : ℚ} (lowUnit : 0 ≤ low ∧ low ≤ 1) (highUnit : 0 ≤ high ∧ high ≤ 1)
    (below : low ≤ high) : (Score.quantize low lowUnit).units ≤
      (Score.quantize high highUnit).units := by
  unfold Score.quantize
  exact Int.toNat_le_toNat
    (Rounding.halfUp_mono (mul_le_mul_of_nonneg_right below (Nat.cast_nonneg _)))

theorem total_mono {low high : AgentMatchScore}
    (expertise : low.expertise.units ≤ high.expertise.units)
    (reputation : low.reputation.units ≤ high.reputation.units)
    (reliability : low.reliability.units ≤ high.reliability.units)
    (fit : low.seniorityFit.units ≤ high.seniorityFit.units)
    (cost : low.costEfficiency.units ≤ high.costEfficiency.units) :
    low.total.units ≤ high.total.units := by
  apply quantize_mono
  have ofExpertise := value_mono expertise
  have ofReputation := value_mono reputation
  have ofReliability := value_mono reliability
  have ofFit := value_mono fit
  have ofCost := value_mono cost
  linarith

variable {old new : AgentCandidate} {request cheaper : AgentMatchingRequest}

theorem find_related {α κ : Type} [DecidableEq κ] (key : α → κ) (related : α → α → Prop)
    {before after : List α} (each : List.Forall₂ (fun first second => key second = key first ∧
      related first second) before after) (wanted : κ) :
    Option.Rel related (before.find? fun item => decide (key item = wanted))
      (after.find? fun item => decide (key item = wanted)) := by
  induction each with
  | nil => exact .none
  | @cons first second rest others pair _ ih =>
      by_cases found : key first = wanted
      · rw [List.find?_cons, List.find?_cons, decide_eq_true found,
          decide_eq_true (pair.1.trans found)]
        exact .some pair.2
      · have missed : ¬key second = wanted := fun same => found (pair.1.symm.trans same)
        rw [List.find?_cons, List.find?_cons, decide_eq_false found, decide_eq_false missed]
        exact ih

theorem expertiseIn_improved (improved : Improved old new) (name : Identifier) :
    Option.Rel (fun before after : Score => before.units ≤ after.units) (expertiseIn old name)
      (expertiseIn new name) := by
  have found := find_related (fun capability : AgentCapabilitySnapshot => capability.name)
    (fun before after => before.expertise.units ≤ after.expertise.units) improved.expertise name
  unfold expertiseIn
  cases before : old.capabilities.find? fun capability => decide (capability.name = name) <;>
    cases after : new.capabilities.find? fun capability => decide (capability.name = name) <;>
    rw [before, after] at found <;> cases found
  · exact .none
  · next grown => exact .some grown

theorem lacks_improved (improved : Improved old new) : lacks new = lacks old := by
  funext name
  rw [← expertiseIn_none, ← expertiseIn_none]
  have related := expertiseIn_improved improved name
  generalize expertiseIn old name = before at related ⊢
  generalize expertiseIn new name = after at related ⊢
  cases related with
  | none => rfl
  | some _ => rfl

theorem costOf_cheaper {agentId : UUID} (lower : Cheaper agentId request cheaper)
    (candidate : AgentCandidate) :
    Option.Rel (fun before after : Score => after.units ≤ before.units ∧
        (candidate.agentId ≠ agentId → after = before))
      (costOf request candidate) (costOf cheaper candidate) := by
  have found := find_related (fun estimate : AgentCostEstimate => estimate.agentId)
    (fun before after => after.normalizedCost.units ≤ before.normalizedCost.units ∧
      (before.agentId ≠ agentId → after.normalizedCost = before.normalizedCost))
    lower.costs candidate.agentId
  unfold costOf
  cases before : request.costEstimates.find? fun estimate =>
    decide (estimate.agentId = candidate.agentId) <;>
    cases after : cheaper.costEstimates.find? fun estimate =>
      decide (estimate.agentId = candidate.agentId) <;>
    rw [before, after] at found <;> cases found
  · exact .none
  · next first second fallen =>
      have own : first.agentId = candidate.agentId := by simpa using List.find?_some before
      exact .some ⟨fallen.1, fun other => fallen.2 fun same => other (own.symm.trans same)⟩

theorem cost_fails {agentId : UUID} (lower : Cheaper agentId request cheaper)
    (candidate : AgentCandidate) :
    fails cheaper candidate .cost = fails request candidate .cost := by
  rw [← costOf_none, ← costOf_none]
  have related := costOf_cheaper lower candidate
  generalize costOf request candidate = before at related ⊢
  generalize costOf cheaper candidate = after at related ⊢
  cases related with
  | none => rfl
  | some _ => rfl

theorem fails_improved (improved : Improved old new) (lower : Cheaper old.agentId request cheaper)
    {requirement : Requirement} (failed : fails cheaper new requirement = true) :
    fails request old requirement = true := by
  obtain ⟨sameId, status, autonomy, permissions⟩ := improved.same
  obtain ⟨workstream, required, minimum, risk⟩ := lower.same
  cases requirement with
  | availability =>
      unfold fails at failed ⊢
      rw [← status]
      exact failed
  | capabilities =>
      unfold fails at failed ⊢
      rw [workstream, lacks_improved improved] at failed
      exact failed
  | permissions =>
      unfold fails at failed ⊢
      rw [required, permissions] at failed
      exact failed
  | autonomy =>
      unfold fails at failed ⊢
      rw [autonomy, risk] at failed
      exact failed
  | seniority =>
      unfold fails at failed ⊢
      rw [minimum] at failed
      have short : new.seniority.rank < request.minimumSeniority.rank := of_decide_eq_true failed
      exact decide_eq_true (improved.seniority.trans_lt short)
  | cost =>
      rw [← cost_fails lower]
      unfold fails at failed ⊢
      rw [← sameId]
      exact failed

theorem eligible_improved (improved : Improved old new)
    (lower : Cheaper old.agentId request cheaper)
    (eligible : Eligible request old) : Eligible cheaper new := by
  rw [← suitable_iff, suitable, List.all_eq_true] at eligible ⊢
  intro requirement listed
  have met := eligible requirement listed
  rw [Bool.not_eq_true', Bool.eq_false_iff] at met ⊢
  exact fun failed => met (fails_improved improved lower failed)

theorem matchOf_other {agentId : UUID} (lower : Cheaper agentId request cheaper)
    {other : AgentCandidate}
    (apart : other.agentId ≠ agentId) : matchOf cheaper other = matchOf request other := by
  obtain ⟨workstream, required, minimum, risk⟩ := lower.same
  have cost : costOf cheaper other = costOf request other := by
    have related := costOf_cheaper lower other
    generalize costOf request other = before at related ⊢
    generalize costOf cheaper other = after at related ⊢
    cases related with
    | none => rfl
    | some kept => rw [kept.2 apart]
  have reasons : rejectionReasons cheaper other = rejectionReasons request other := by
    unfold rejectionReasons
    rw [workstream, required, minimum, risk, cost]
  have found : ∀ price, rankedMatch cheaper other price = rankedMatch request other price := by
    intro price
    unfold rankedMatch
    simp only [workstream, risk]
  unfold matchOf judged
  simp only [reasons, cost, found]

theorem sum_related {before after : List Score}
    (each : List.Forall₂ (fun first second => first.units ≤ second.units) before after) :
    (before.map Score.value).sum ≤ (after.map Score.value).sum := by
  induction each with
  | nil => exact le_rfl
  | cons grown _ ih =>
      rw [List.map_cons, List.map_cons, List.sum_cons, List.sum_cons]
      exact add_le_add (value_mono grown) ih

theorem expertise_related (improved : Improved old new) (names : List Identifier) :
    List.Forall₂ (fun first second : Score => first.units ≤ second.units)
      (names.filterMap (expertiseIn old)) (names.filterMap (expertiseIn new)) := by
  induction names with
  | nil => exact .nil
  | cons name rest ih =>
      have related := expertiseIn_improved improved name
      cases before : expertiseIn old name with
      | none =>
          rw [before] at related
          cases after : expertiseIn new name with
          | none =>
              rw [List.filterMap_cons_none before, List.filterMap_cons_none after]
              exact ih
          | some score =>
              rw [after] at related
              cases related
      | some score =>
          rw [before] at related
          cases after : expertiseIn new name with
          | none =>
              rw [after] at related
              cases related
          | some higher =>
              rw [after] at related
              rw [List.filterMap_cons_some before, List.filterMap_cons_some after]
              cases related with
              | some grown => exact .cons grown ih

theorem rank_fit {low high : AgentSeniority} (below : low.rank ≤ high.rank) :
    (seniorityFit low).units ≤ (seniorityFit high).units := by
  apply quantize_mono
  have cast : (low.rank : ℚ) ≤ high.rank := by exact_mod_cast below
  linarith

theorem rankedMatch_improved (improved : Improved old new)
    (lower : Cheaper old.agentId request cheaper)
    {cost less : Score} (fallen : less.units ≤ cost.units) :
    (rankedMatch request old cost).score.units ≤ (rankedMatch cheaper new less).score.units := by
  obtain ⟨workstream, _, _, _⟩ := lower.same
  have related := expertise_related improved request.workstream.requiredCapabilities
  have mean :
    ((request.workstream.requiredCapabilities.filterMap (expertiseIn old)).map Score.value).sum /
        ((request.workstream.requiredCapabilities.filterMap (expertiseIn old)).length : ℚ) ≤
      ((cheaper.workstream.requiredCapabilities.filterMap (expertiseIn new)).map Score.value).sum /
        ((cheaper.workstream.requiredCapabilities.filterMap (expertiseIn new)).length : ℚ) := by
    rw [workstream, related.length_eq]
    exact div_le_div_of_nonneg_right (sum_related related) (Nat.cast_nonneg _)
  exact total_mono (quantize_mono (mean_unit _) (mean_unit _) mean) improved.reputation
    improved.reliability (rank_fit improved.seniority)
    (quantize_mono (spared_unit cost) (spared_unit less) (sub_le_sub_left (value_mono fallen) 1))

def position (ranked : List RankedAgentMatch) (agentId : UUID) : Nat :=
  ranked.findIdx fun found => decide (found.agent.agentId = agentId)

theorem position_standing {candidates : List AgentCandidate} (found : RankedAgentMatch)
    (distinct : (candidates.map fun candidate => candidate.agentId).Nodup)
    (among : found ∈ matchesOf request candidates) :
    position (ranking request candidates) found.agent.agentId =
      Standing.standing matchKey (matchesOf request candidates) (matchKey found) := by
  have apart : ((ranking request candidates).map matchKey).Nodup :=
    (ranking_perm.map matchKey).nodup_iff.mpr (matchKey_apart distinct)
  have present : found ∈ ranking request candidates := ranking_perm.mem_iff.mpr among
  rw [← Standing.standing_perm ranking_perm]
  apply Standing.findIdx_standing apart ranking_keys present
  intro other there
  rw [decide_eq_true_eq]
  constructor
  · intro same
    have ids : ((ranking request candidates).map fun found => found.agent.agentId).Nodup := by
      have agents : ((ranking request candidates).map fun found => found.agent).Perm
          (candidates.filter (suitable request)) := by
        rw [← matchesOf_agents]
        exact ranking_perm.map _
      have perm := agents.map fun candidate => candidate.agentId
      rw [List.map_map] at perm
      exact perm.nodup_iff.mpr (distinct.sublist (List.filter_sublist.map _))
    exact List.inj_on_of_nodup_map ids there present same
  · rintro rfl
    rfl

/-- A better candidate is eligible if it was before, and stands no further back. -/
theorem position_improved {front back : List AgentCandidate} (improved : Improved old new)
    (lower : Cheaper old.agentId request cheaper)
    (distinct : ((front ++ old :: back).map fun candidate => candidate.agentId).Nodup)
    (eligible : Eligible request old) :
    position (ranking cheaper (front ++ new :: back)) old.agentId ≤
      position (ranking request (front ++ old :: back)) old.agentId := by
  have sameId : new.agentId = old.agentId := improved.same.1
  have newDistinct : ((front ++ new :: back).map fun candidate => candidate.agentId).Nodup := by
    rw [List.map_append, List.map_cons, sameId]
    rw [List.map_append, List.map_cons] at distinct
    exact distinct
  obtain ⟨found, ofOld⟩ := matchOf_eligible eligible
  obtain ⟨_, cost, supplied, rfl⟩ := matchOf_some.mp ofOld
  obtain ⟨better, ofNew⟩ := matchOf_eligible (eligible_improved improved lower eligible)
  obtain ⟨_, less, charged, rfl⟩ := matchOf_some.mp ofNew
  have fallen : less.units ≤ cost.units := by
    have related := costOf_cheaper lower old
    have own : costOf cheaper new = costOf cheaper old := by
      unfold costOf
      rw [sameId]
    rw [supplied, ← own, charged] at related
    cases related with
    | some kept => exact kept.1
  have others : ∀ other ∈ front ++ back, matchOf cheaper other = matchOf request other := by
    intro other among
    apply matchOf_other lower
    intro same
    rw [List.map_append, List.map_cons, List.nodup_middle, List.nodup_cons] at distinct
    apply distinct.1
    rw [← List.map_append, ← same]
    exact List.mem_map_of_mem among
  have before : matchesOf request (front ++ old :: back) = matchesOf request front ++
      rankedMatch request old cost :: matchesOf request back := by
    unfold matchesOf
    rw [List.filterMap_append, List.filterMap_cons_some ofOld]
  have after : matchesOf cheaper (front ++ new :: back) = matchesOf request front ++
      rankedMatch cheaper new less :: matchesOf request back := by
    unfold matchesOf
    rw [List.filterMap_append, List.filterMap_cons_some ofNew,
      List.filterMap_congr fun other among => others other (List.mem_append_left _ among),
      List.filterMap_congr fun other among => others other (List.mem_append_right _ among)]
  have key : matchKey (rankedMatch cheaper new less) ≤ matchKey (rankedMatch request old cost) := by
    apply outranks_iff.mp
    have score := rankedMatch_improved improved lower fallen
    rcases score.lt_or_eq with higher | equal
    · exact .inl higher
    · exact .inr ⟨equal, sameId.le⟩
  have first := position_standing (rankedMatch request old cost) distinct
    (by rw [before]; exact List.mem_append_right _ List.mem_cons_self)
  have second := position_standing (rankedMatch cheaper new less) newDistinct
    (by rw [after]; exact List.mem_append_right _ List.mem_cons_self)
  calc
    position (ranking cheaper (front ++ new :: back)) old.agentId =
        position (ranking cheaper (front ++ new :: back)) new.agentId := by rw [sameId]
    _ = Standing.standing matchKey (matchesOf cheaper (front ++ new :: back))
        (matchKey (rankedMatch cheaper new less)) := second
    _ ≤ Standing.standing matchKey (matchesOf request (front ++ old :: back))
        (matchKey (rankedMatch request old cost)) := by
      rw [before, after]
      exact Standing.standing_replaced key
    _ = position (ranking request (front ++ old :: back)) old.agentId := first.symm

end Improvement

/-- Matching ignores the order of the candidates, is faithful to them, and ranks a better candidate
no lower. -/
theorem matching_lawful :
    (∀ request candidates permuted, candidates.Perm permuted →
      matchAgents request candidates = matchAgents request permuted) ∧
    (∀ request candidates, (candidates.map fun candidate => candidate.agentId).Nodup →
      (candidates.length ≤ 100 →
        ∃ result, matchAgents request candidates = .ok result ∧
        Faithful request candidates result) ∧
      (100 < candidates.length → matchAgents request candidates =
        .error (.invalid "agent candidates must be a bounded sequence"))) ∧
    ∀ request cheaper front back old new, Improved old new → Cheaper old.agentId request cheaper →
      ((front ++ old :: back).map fun candidate => candidate.agentId).Nodup →
      suitable request old = true →
      suitable cheaper new = true ∧
        position (ranking cheaper (front ++ new :: back)) old.agentId ≤
          position (ranking request (front ++ old :: back)) old.agentId := by
  refine ⟨fun request candidates permuted => matchAgents_permuted, ?_, ?_⟩
  · intro request candidates distinct
    constructor
    · intro few
      exact matchAgents_faithful few distinct
    · intro many
      rw [matchAgents_eq, if_pos many]
  · intro request cheaper front back old new improved lower distinct fit
    have eligible := suitable_iff.mp fit
    exact ⟨suitable_iff.mpr (eligible_improved improved lower eligible),
      position_improved improved lower distinct eligible⟩

end SynapseOS.AgentRegistry
