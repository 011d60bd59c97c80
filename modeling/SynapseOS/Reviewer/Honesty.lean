import SynapseOS.Reviewer.Gate

/-! What the published score of a review depends on, and what can only lower it. -/

namespace SynapseOS.Reviewer

open Commands Execution Rounding

section Penalty

def hundredths : FindingSeverity → Nat
  | .info => 0
  | .low => 2
  | .medium => 8
  | .high => 20
  | .critical => 40

theorem severityPenalty_hundredths (severity : FindingSeverity) :
    severityPenalty severity = (hundredths severity : ℚ) / 100 := by
  cases severity <;> norm_num [severityPenalty, hundredths]

theorem hundredths_le (severity : FindingSeverity) : hundredths severity ≤ 40 := by
  cases severity <;> decide

theorem decimal_hundredths {count : Nat} (small : count < 10000) :
    decimal ((count : ℚ) / 100) = (count : ℚ) / 100 := by
  rcases Nat.eq_zero_or_pos count with rfl | positive
  · simp [decimal, significant]
  · have above : (0 : ℚ) < (count : ℚ) / 100 := by positivity
    have below : (count : ℚ) / 100 < ((10 : Nat) : ℚ) ^ (2 : ℤ) := by
      rw [div_lt_iff₀ (by norm_num)]
      norm_num
      exact small
    have log : Int.log 10 |(count : ℚ) / 100| < 2 := by
      rw [abs_of_pos above]
      exact (Int.lt_zpow_iff_log_lt (by norm_num) above).mp below
    obtain ⟨shift, shifts⟩ := Int.eq_ofNat_of_zero_le
      (show 0 ≤ ((28 : Nat) : ℤ) - 1 - Int.log 10 |(count : ℚ) / 100| - 2 by omega)
    have exponent : ((28 : Nat) : ℤ) - 1 - Int.log 10 |(count : ℚ) / 100| =
        ((shift + 2 : Nat) : ℤ) := by omega
    apply significant_exact (n := ((count * 10 ^ shift : Nat) : ℤ)) (by norm_num)
    rw [exponent, zpow_natCast, pow_add]
    push_cast
    ring

def totalHundredths (findings : List ReviewFinding) : Nat :=
  (findings.map fun finding => hundredths finding.severity).sum

theorem findingPenalty_total (findings : List ReviewFinding) (start : Nat)
    (few : start + 40 * findings.length < 10000) :
    findings.foldl (fun total finding => decimal (total + severityPenalty finding.severity))
        ((start : ℚ) / 100) = ((start + totalHundredths findings : Nat) : ℚ) / 100 := by
  induction findings generalizing start with
  | nil => rfl
  | cons finding rest ih =>
      have bound := hundredths_le finding.severity
      rw [List.length_cons] at few
      have next : (start : ℚ) / 100 + severityPenalty finding.severity =
          ((start + hundredths finding.severity : Nat) : ℚ) / 100 := by
        rw [severityPenalty_hundredths]
        push_cast
        ring
      rw [List.foldl_cons, next, decimal_hundredths (by omega), ih _ (by omega)]
      unfold totalHundredths
      rw [List.map_cons, List.sum_cons, Nat.add_assoc]

def scoreOf (incomplete total penalty : Nat) : ℚ :=
  let checkPenalty := decimal (decimal (50 / 100 * incomplete) / total)
  let score := decimal (decimal (1 - checkPenalty) - penalty / 100)
  halfUp (min 1 (max 0 score) * (10000 : Nat)) / 10000

def incompleteChecks (checks : List ReviewCheck) : Nat :=
  (checks.filter fun check => !isPassingCheck check).length

theorem calculateReviewScore_of {checks : List ReviewCheck} (some_ : checks ≠ [])
    {findings : List ReviewFinding} (few : findings.length ≤ 64) :
    calculateReviewScore checks findings =
      scoreOf (incompleteChecks checks) checks.length (totalHundredths findings) := by
  have total := findingPenalty_total findings 0 (by omega)
  rw [Nat.cast_zero, zero_div, Nat.zero_add] at total
  unfold calculateReviewScore scoreOf
  rw [if_neg some_]
  dsimp only
  rw [total]
  rfl

theorem decimal_mono {a b : ℚ} (le : a ≤ b) : decimal a ≤ decimal b :=
  significant_mono (by norm_num) (by norm_num) le

/-- More incomplete checks and a higher penalty never raise the score. -/
theorem scoreOf_antitone {incomplete more total penalty heavier : Nat} (checks : incomplete ≤ more)
    (findings : penalty ≤ heavier) : scoreOf more total heavier ≤
      scoreOf incomplete total penalty := by
  have check : decimal (decimal (50 / 100 * incomplete) / total) ≤ decimal
      (decimal (50 / 100 * more) / total) := by
    apply decimal_mono
    apply div_le_div_of_nonneg_right _ (Nat.cast_nonneg total)
    apply decimal_mono
    have cast : (incomplete : ℚ) ≤ more := by exact_mod_cast checks
    linarith
  have finding : (penalty : ℚ) / 100 ≤ (heavier : ℚ) / 100 := by
    have cast : (penalty : ℚ) ≤ heavier := by exact_mod_cast findings
    linarith
  have score : decimal (decimal (1 - decimal (decimal (50 / 100 * more) / total)) - heavier / 100) ≤
      decimal (decimal (1 - decimal (decimal (50 / 100 * incomplete) / total)) - penalty / 100) :=
    decimal_mono (sub_le_sub (decimal_mono (sub_le_sub_left check 1)) finding)
  unfold scoreOf
  dsimp only
  apply div_le_div_of_nonneg_right _ (by norm_num)
  rw [Int.cast_le]
  apply halfUp_mono
  apply mul_le_mul_of_nonneg_right _ (Nat.cast_nonneg _)
  exact min_le_min le_rfl (max_le_max le_rfl score)

end Penalty

section Weights

variable {weights : List Nat}

theorem sum_take_le {count : Nat} {most : Nat}
    (light : ∀ weight ∈ weights.drop count, weight ≤ most) :
    weights.sum ≤ (weights.take count).sum + most * (weights.length - count) := by
  have rest : (weights.drop count).sum ≤ (weights.drop count).length • most :=
    List.sum_le_card_nsmul _ _ light
  have whole : weights.sum = (weights.take count).sum + (weights.drop count).sum := by
    rw [← List.sum_append, List.take_append_drop]
  rw [smul_eq_mul, List.length_drop, Nat.mul_comm] at rest
  omega

theorem sum_take_mono {few many : Nat} (le : few ≤ many) :
    (weights.take few).sum ≤ (weights.take many).sum := by
  have part : weights.take few = (weights.take many).take few := by
    rw [List.take_take, min_eq_left le]
  rw [part]
  exact List.Sublist.sum_le_sum (List.take_sublist _ _) fun _ _ => Nat.zero_le _

variable (before after : List Nat) (weight : Nat)

theorem sum_take_insert {count : Nat} (early : before.length ≤ count) :
    ((before ++ weight :: after).take (count + 1)).sum = weight +
      ((before ++ after).take count).sum := by
  obtain ⟨more, rfl⟩ := Nat.exists_eq_add_of_le early
  rw [Nat.add_assoc, List.take_length_add_append, List.take_length_add_append]
  simp only [List.take_succ_cons, List.sum_append, List.sum_cons]
  omega

theorem sum_take_inserted (count : Nat) :
    ((before ++ after).take count).sum ≤ ((before ++ weight :: after).take (count + 1)).sum := by
  rcases Nat.lt_or_ge count before.length with late | early
  · rw [List.take_append_of_le_length late.le, List.take_append_of_le_length late]
    exact sum_take_mono (Nat.le_succ count)
  · rw [sum_take_insert before after weight early]
    omega

theorem sum_take_raised {lighter : Nat} (le : lighter ≤ weight) (count : Nat) :
    ((before ++ lighter :: after).take count).sum ≤
      ((before ++ weight :: after).take count).sum := by
  rcases Nat.lt_or_ge before.length count with early | late
  · obtain ⟨more, rfl⟩ := Nat.exists_eq_add_of_lt early
    rw [Nat.add_assoc, List.take_length_add_append, List.take_length_add_append]
    simp only [List.take_succ_cons, List.sum_append, List.sum_cons]
    omega
  · rw [List.take_append_of_le_length late, List.take_append_of_le_length late]

end Weights

section Published

variable (casefold : PyStr → PyStr) (request : ReviewerRequest) (analysis : ReviewAnalysis)

def publishedScore : Except ValidationError ℚ :=
  (buildReviewerResult casefold request analysis).map fun result => result.reviewScore

/-- How many findings of the model the blockers leave room for. -/
def modelBudget : Nat := 64 - (deterministicBlockerCodes request analysis).length

def retainedFindings : List ReviewFinding := analysis.findings.take (modelBudget request analysis)

def publishedPenalty : Nat :=
  totalHundredths (retainedFindings request analysis) +
    20 * (deterministicBlockerCodes request analysis).length

theorem totalHundredths_append (front back : List ReviewFinding) :
    totalHundredths (front ++ back) = totalHundredths front + totalHundredths back := by
  unfold totalHundredths
  rw [List.map_append, List.sum_append]

theorem totalHundredths_blockers (codes : List BlockerCode) :
    totalHundredths (codes.map gateFinding) = 20 * codes.length := by
  induction codes with
  | nil => rfl
  | cons code rest ih =>
      have own : totalHundredths (gateFinding code :: rest.map gateFinding) =
          20 + totalHundredths (rest.map gateFinding) := rfl
      rw [List.map_cons, own, ih, List.length_cons]
      omega

theorem totalHundredths_redacted {findings proposed : List ReviewFinding}
    (related : List.Forall₂ (fun finding redacted : ReviewFinding =>
      redacted.severity = finding.severity) findings proposed) (count : Nat) :
    totalHundredths (proposed.take count) = totalHundredths (findings.take count) := by
  have same : proposed.map (fun finding => hundredths finding.severity) =
      findings.map fun finding => hundredths finding.severity := by
    induction related with
    | nil => rfl
    | cons same _ ih => rw [List.map_cons, List.map_cons, same, ih]
  unfold totalHundredths
  rw [List.map_take, List.map_take, same]

theorem publishedScore_of : publishedScore casefold request analysis =
    .ok (significant 2 53 (scoreOf (incompleteChecks request.checks) request.checks.length
      (publishedPenalty request analysis))) := by
  obtain ⟨result, proposed, made, related, _, kept, score⟩ :=
    buildReviewerResult_made casefold request analysis
  have some_ : request.checks ≠ [] := List.ne_nil_of_length_pos request.checks_valid.1
  have few : (deterministicBlockerCodes request analysis).length ≤ 9 := blockers_few
  have length : result.findings.length ≤ 64 := by
    rw [kept, List.length_append, List.length_take, List.length_map]
    omega
  have penalty : totalHundredths result.findings = publishedPenalty request analysis := by
    rw [kept, totalHundredths_append, totalHundredths_blockers, totalHundredths_redacted related]
    rfl
  unfold publishedScore
  rw [made]
  show Except.ok result.reviewScore = _
  rw [score, calculateReviewScore_of some_ length, penalty]

def Lowers (later former : Except ValidationError ℚ) : Prop :=
  ∃ low high, later = .ok low ∧ former = .ok high ∧ low ≤ high

variable {request analysis} {other : ReviewerRequest} {changed : ReviewAnalysis}

theorem publishedScore_lowers
    (checks : incompleteChecks request.checks ≤ incompleteChecks other.checks)
    (length : other.checks.length = request.checks.length)
    (penalty : publishedPenalty request analysis ≤ publishedPenalty other changed) :
    Lowers (publishedScore casefold other changed) (publishedScore casefold request analysis) := by
  refine ⟨_, _, publishedScore_of casefold other changed,
    publishedScore_of casefold request analysis, ?_⟩
  rw [length]
  exact significant_mono (by norm_num) (by norm_num) (scoreOf_antitone checks penalty)

theorem publishedScore_same
    (checks : incompleteChecks other.checks = incompleteChecks request.checks)
    (length : other.checks.length = request.checks.length)
    (penalty : publishedPenalty other changed = publishedPenalty request analysis) :
    publishedScore casefold other changed = publishedScore casefold request analysis := by
  rw [publishedScore_of, publishedScore_of, checks, length, penalty]

end Published

section Blockers

variable {request other : ReviewerRequest} {analysis changed : ReviewAnalysis}

theorem blockers_nodup (request : ReviewerRequest) (analysis : ReviewAnalysis) :
    (deterministicBlockerCodes request analysis).Nodup :=
  deterministicBlockerCodes_sublist.nodup (by decide)

theorem blockers_mono (more : ∀ code, Applies request analysis code → Applies other changed code) :
    (deterministicBlockerCodes request analysis).length ≤
      (deterministicBlockerCodes other changed).length := by
  apply (List.subperm_of_subset (blockers_nodup request analysis) ?_).length_le
  intro code among
  exact mem_deterministicBlockerCodes code |>.mpr
    (more code (mem_deterministicBlockerCodes code |>.mp among))

theorem blockers_same (same : ∀ code, Applies other changed code ↔ Applies request analysis code) :
    (deterministicBlockerCodes other changed).length =
      (deterministicBlockerCodes request analysis).length :=
  le_antisymm (blockers_mono fun code => (same code).mp) (blockers_mono fun code => (same code).mpr)

end Blockers

def ReviewerRequest.withChecks (request : ReviewerRequest) (checks : List ReviewCheck)
    (valid : 1 ≤ checks.length ∧ checks.length ≤ 16 ∧ (checks.map ReviewCheck.profileId).Nodup) :
    ReviewerRequest :=
  { request with checks := checks, checks_valid := valid }

def ReviewAnalysis.withFindings (analysis : ReviewAnalysis) (findings : List ReviewFinding)
    (few : findings.length ≤ 64) : ReviewAnalysis :=
  { analysis with findings := findings, finding_bound := few }

def FindingSeverity.rank : FindingSeverity → Nat
  | .info => 0
  | .low => 1
  | .medium => 2
  | .high => 3
  | .critical => 4

theorem hundredths_mono {lower higher : FindingSeverity} (le : lower.rank ≤ higher.rank) :
    hundredths lower ≤ hundredths higher := by
  revert le
  cases lower <;> cases higher <;> decide

section Findings

variable {analysis : ReviewAnalysis} {findings : List ReviewFinding}

theorem blockers_findings (request : ReviewerRequest) (few : findings.length ≤ 64)
    (keeps : analysis.findings.any severe = true → findings.any severe = true) :
    (deterministicBlockerCodes request (analysis.withFindings findings few)).length =
        (deterministicBlockerCodes request analysis).length ∨
      (deterministicBlockerCodes request (analysis.withFindings findings few)).length =
        (deterministicBlockerCodes request analysis).length + 1 ∧
      analysis.findings.any severe = false ∧ findings.any severe = true := by
  have others : ∀ code, code ≠ .severeFindings →
      (Applies request (analysis.withFindings findings few) code ↔
        Applies request analysis code) := by
    intro code other
    cases code with
    | severeFindings => exact absurd rfl other
    | _ => exact Iff.rfl
  have own : ∀ analysis : ReviewAnalysis,
      Applies request analysis .severeFindings ↔ analysis.findings.any severe = true := by
    intro analysis
    simp [Applies, severe]
  cases known : analysis.findings.any severe with
  | true =>
      refine .inl (blockers_same fun code => ?_)
      by_cases same : code = .severeFindings
      · rw [same, own, own, known]
        exact ⟨fun _ => rfl, fun _ => keeps known⟩
      · exact others code same
  | false =>
      cases gained : findings.any severe with
      | false =>
          refine .inl (blockers_same fun code => ?_)
          by_cases same : code = .severeFindings
          · rw [same, own, own, known]
            exact Eq.congr_left gained
          · exact others code same
      | true =>
          refine .inr ⟨?_, rfl, rfl⟩
          have fresh : .severeFindings ∉ deterministicBlockerCodes request analysis := by
            rw [mem_deterministicBlockerCodes, own, known]
            exact Bool.false_ne_true
          have perm : (deterministicBlockerCodes request (analysis.withFindings findings few)).Perm
              (.severeFindings :: deterministicBlockerCodes request analysis) := by
            rw [List.perm_ext_iff_of_nodup (blockers_nodup _ _)
              (List.nodup_cons.mpr ⟨fresh, blockers_nodup _ _⟩)]
            intro code
            rw [List.mem_cons, mem_deterministicBlockerCodes, mem_deterministicBlockerCodes]
            by_cases same : code = .severeFindings
            · rw [same, own]
              exact ⟨fun _ => .inl rfl, fun _ => gained⟩
            · rw [others code same]
              exact ⟨.inr, fun either => either.resolve_left same⟩
          exact perm.length_eq

def weights (findings : List ReviewFinding) : List Nat :=
  findings.map fun finding => hundredths finding.severity

theorem totalHundredths_take (findings : List ReviewFinding) (count : Nat) :
    totalHundredths (findings.take count) = ((weights findings).take count).sum := by
  unfold totalHundredths weights
  rw [List.map_take]

theorem weights_light (mild : findings.any severe = false) :
    ∀ weight ∈ weights findings, weight ≤ 8 := by
  intro weight among
  obtain ⟨finding, there, rfl⟩ := List.mem_map.mp among
  have known := (List.any_eq_false.mp mild) finding there
  revert known
  unfold severe
  cases finding.severity <;> decide

theorem sum_take_light {weights : List Nat} {most : Nat} {budget lost : Nat}
    (light : ∀ weight ∈ (weights.take budget).drop (budget - lost), weight ≤ most) :
    (weights.take budget).sum ≤ (weights.take (budget - lost)).sum + most * lost := by
  have part := sum_take_le light
  rw [List.take_take, min_eq_left (Nat.sub_le _ _), List.length_take] at part
  have few : min budget weights.length - (budget - lost) ≤ lost := by omega
  exact part.trans (Nat.add_le_add_left (Nat.mul_le_mul_left most few) _)

end Findings

section Changes

variable {request : ReviewerRequest} {analysis : ReviewAnalysis} {before after : List ReviewFinding}
  {finding : ReviewFinding}

theorem publishedPenalty_weights (request : ReviewerRequest) (analysis : ReviewAnalysis) :
    publishedPenalty request analysis =
      ((weights analysis.findings).take
        (64 - (deterministicBlockerCodes request analysis).length)).sum +
        20 * (deterministicBlockerCodes request analysis).length := by
  unfold publishedPenalty retainedFindings
  rw [totalHundredths_take]
  rfl

/-- A finding that is added keeps the penalty up, unless it displaces a more severe one. -/
theorem penalty_added (few : (before ++ finding :: after).length ≤ 64)
    (split : analysis.findings = before ++ after)
    (spares : modelBudget request (analysis.withFindings (before ++ finding :: after) few) ≤
      before.length ∨
      ∀ lost ∈ (retainedFindings request analysis).drop
          (modelBudget request (analysis.withFindings (before ++ finding :: after) few) - 1),
        lost.severity.rank ≤ finding.severity.rank) :
    publishedPenalty request analysis ≤
      publishedPenalty request (analysis.withFindings (before ++ finding :: after) few) := by
  have keeps : analysis.findings.any severe = true →
      (before ++ finding :: after).any severe = true := by
    rw [split, List.any_append, List.any_append, List.any_cons, Bool.or_eq_true, Bool.or_eq_true,
      Bool.or_eq_true]
    rintro (early | late)
    · exact .inl early
    · exact .inr (.inr late)
  have old : weights analysis.findings = weights before ++ weights after := by
    rw [split]
    exact List.map_append
  have new : weights (before ++ finding :: after) =
      weights before ++ hundredths finding.severity :: weights after := List.map_append
  have room : (deterministicBlockerCodes request analysis).length ≤ 9 := blockers_few
  have length : (weights before).length = before.length := List.length_map _
  rw [publishedPenalty_weights, publishedPenalty_weights]
  show _ ≤ ((weights (before ++ finding :: after)).take _).sum + _
  unfold retainedFindings modelBudget at spares
  rcases blockers_findings request few keeps with same | ⟨more, mild, _⟩
  · rw [same] at spares ⊢
    generalize (deterministicBlockerCodes request analysis).length = count at room spares
    apply Nat.add_le_add_right
    rw [new, old]
    rcases spares with late | spared
    · rw [List.take_append_of_le_length (by omega), List.take_append_of_le_length (by omega)]
    · rcases Nat.lt_or_ge before.length (64 - count) with early | late
      · have light :
          ∀ weight ∈ ((weights before ++ weights after).take (64 - count)).drop (64 - count - 1),
            weight ≤ hundredths finding.severity := by
          rw [← old]
          unfold weights
          rw [← List.map_take, ← List.map_drop]
          intro weight among
          obtain ⟨lost, there, rfl⟩ := List.mem_map.mp among
          exact hundredths_mono (spared lost there)
        have least := sum_take_light light
        have insert := sum_take_insert (weights before) (weights after)
          (hundredths finding.severity) (show (weights before).length ≤ 64 - count - 1 by omega)
        rw [Nat.sub_add_cancel (show 1 ≤ 64 - count by omega)] at insert
        omega
      · rw [List.take_append_of_le_length (by omega), List.take_append_of_le_length (by omega)]
  · rw [more]
    generalize (deterministicBlockerCodes request analysis).length = count at room
    have light :
        ∀ weight ∈ ((weights analysis.findings).take (64 - count)).drop (64 - count - 2), weight ≤
          8 :=
      fun weight among =>
        weights_light mild weight (List.mem_of_mem_take (List.mem_of_mem_drop among))
    have least := sum_take_light light
    have insert := sum_take_inserted (weights before) (weights after) (hundredths finding.severity)
      (64 - count - 2)
    rw [show 64 - count - 2 + 1 = 64 - (count + 1) by omega] at insert
    rw [new]
    rw [old] at least ⊢
    omega

theorem penalty_raised {raised : ReviewFinding} (few : (before ++ raised :: after).length ≤ 64)
    (split : analysis.findings = before ++ finding :: after)
    (higher : finding.severity.rank ≤ raised.severity.rank) :
    publishedPenalty request analysis ≤
      publishedPenalty request (analysis.withFindings (before ++ raised :: after) few) := by
  have grows : severe finding = true → severe raised = true := by
    unfold severe
    revert higher
    cases finding.severity <;> cases raised.severity <;> decide
  have keeps : analysis.findings.any severe = true →
      (before ++ raised :: after).any severe = true := by
    rw [split, List.any_append, List.any_append, List.any_cons, List.any_cons, Bool.or_eq_true,
      Bool.or_eq_true, Bool.or_eq_true, Bool.or_eq_true]
    rintro (early | own | late)
    · exact .inl early
    · exact .inr (.inl (grows own))
    · exact .inr (.inr late)
  have old : weights analysis.findings = weights before ++ hundredths finding.severity ::
      weights after := by
    rw [split]
    exact List.map_append
  have new : weights (before ++ raised :: after) =
      weights before ++ hundredths raised.severity :: weights after := List.map_append
  have room : (deterministicBlockerCodes request analysis).length ≤ 9 := blockers_few
  have heavier := sum_take_raised (weights before) (weights after) _ (hundredths_mono higher)
  rw [publishedPenalty_weights, publishedPenalty_weights]
  show _ ≤ ((weights (before ++ raised :: after)).take _).sum + _
  rw [new]
  rcases blockers_findings request few keeps with same | ⟨more, mild, _⟩
  · rw [same, old]
    exact Nat.add_le_add_right (heavier _) _
  · rw [more]
    generalize (deterministicBlockerCodes request analysis).length = count at room
    have light :
        ∀ weight ∈ ((weights analysis.findings).take (64 - count)).drop (64 - count - 1), weight ≤
          8 :=
      fun weight among =>
        weights_light mild weight (List.mem_of_mem_take (List.mem_of_mem_drop among))
    have least := sum_take_light light
    have next := heavier (64 - count - 1)
    rw [← old] at next
    rw [show 64 - (count + 1) = 64 - count - 1 by omega]
    omega

end Changes

section Replaced

variable {request : ReviewerRequest} {analysis : ReviewAnalysis} {before after : List ReviewCheck}
  {check failing : ReviewCheck}
  {valid : 1 ≤ (before ++ failing :: after).length ∧ (before ++ failing :: after).length ≤ 16 ∧
    ((before ++ failing :: after).map ReviewCheck.profileId).Nodup}

theorem blockers_failed (split : request.checks = before ++ check :: after)
    (profile : failing.profileId = check.profileId) (passing : isPassingCheck check = true) :
    (deterministicBlockerCodes request analysis).length ≤
      (deterministicBlockerCodes (request.withChecks (before ++ failing :: after) valid)
        analysis).length := by
  obtain ⟨_, passed, zero, whole⟩ := of_decide_eq_true passing
  have others : ∀ {holds : ReviewCheck → Prop}, ¬ holds check →
      SomeRequired request.requiredCheckProfiles request.checks holds →
      SomeRequired request.requiredCheckProfiles (before ++ failing :: after) holds := by
    rintro holds not ⟨required, listed, found, among, named, so⟩
    refine ⟨required, listed, found, ?_, named, so⟩
    rw [split, List.mem_append, List.mem_cons] at among
    rcases among with early | rfl | late
    · exact List.mem_append_left _ early
    · exact absurd so not
    · exact List.mem_append_right _ (List.mem_cons_of_mem _ late)
  apply blockers_mono
  intro code applies
  cases code with
  | missingChecks =>
      obtain ⟨required, listed, absent⟩ := applies
      refine ⟨required, listed, fun found among => ?_⟩
      have there : found ∈ before ++ failing :: after := among
      rw [List.mem_append, List.mem_cons] at there
      rw [split] at absent
      rcases there with early | rfl | late
      · exact absent found (List.mem_append_left _ early)
      · rw [profile]
        exact absent check (List.mem_append_right _ List.mem_cons_self)
      · exact absent found (List.mem_append_right _ (List.mem_cons_of_mem _ late))
  | truncatedChecks => exact others (by rw [whole]; exact Bool.false_ne_true) applies
  | failedChecks =>
      exact others (by rintro (status | exit); exacts [status passed, exit zero]) applies
  | _ => exact applies

theorem penalty_failed (split : request.checks = before ++ check :: after)
    (profile : failing.profileId = check.profileId) (passing : isPassingCheck check = true)
    (spares : ∀ lost ∈ (retainedFindings request analysis).drop
      (modelBudget (request.withChecks (before ++ failing :: after) valid) analysis),
      lost.severity ≠ .critical) :
    publishedPenalty request analysis ≤
      publishedPenalty (request.withChecks (before ++ failing :: after) valid) analysis := by
  have room : (deterministicBlockerCodes (request.withChecks (before ++ failing :: after) valid)
    analysis).length ≤ 9 := blockers_few
  have more : (deterministicBlockerCodes request analysis).length ≤
      (deterministicBlockerCodes (request.withChecks (before ++ failing :: after) valid)
        analysis).length :=
    blockers_failed split profile passing
  unfold retainedFindings modelBudget at spares
  rw [publishedPenalty_weights, publishedPenalty_weights]
  generalize (deterministicBlockerCodes request analysis).length = count at more spares
  generalize (deterministicBlockerCodes (request.withChecks (before ++ failing :: after) valid)
    analysis).length = later at more room spares
  have light :
    ∀ weight ∈ ((weights analysis.findings).take (64 - count)).drop (64 - count - (later - count)),
      weight ≤ 20 := by
    rw [show 64 - count - (later - count) = 64 - later by omega]
    unfold weights
    rw [← List.map_take, ← List.map_drop]
    intro weight among
    obtain ⟨lost, there, rfl⟩ := List.mem_map.mp among
    have known := spares lost there
    revert known
    cases lost.severity <;> decide
  have least := sum_take_light light
  rw [show 64 - count - (later - count) = 64 - later by omega] at least
  omega

theorem incompleteChecks_failed (split : request.checks = before ++ check :: after)
    (passing : isPassingCheck check = true) (fails : isPassingCheck failing = false) :
    incompleteChecks request.checks ≤ incompleteChecks (before ++ failing :: after) := by
  unfold incompleteChecks
  rw [split, List.filter_append, List.filter_append,
    List.filter_cons_of_neg (by rw [passing]; decide),
    List.filter_cons_of_pos (by rw [fails]; rfl), List.length_append, List.length_append,
    List.length_cons]
  omega

theorem blockers_reordered {checks : List ReviewCheck} (order : checks.Perm request.checks)
    (valid : 1 ≤ checks.length ∧ checks.length ≤ 16 ∧ (checks.map ReviewCheck.profileId).Nodup) :
    (deterministicBlockerCodes (request.withChecks checks valid) analysis).length =
      (deterministicBlockerCodes request analysis).length := by
  apply blockers_same
  intro code
  have some_ :
    ∀ holds : ReviewCheck → Prop, SomeRequired request.requiredCheckProfiles checks holds ↔
      SomeRequired request.requiredCheckProfiles request.checks holds := by
    intro holds
    unfold SomeRequired
    simp only [order.mem_iff]
  cases code with
  | missingChecks =>
      show (∃ profile ∈ request.requiredCheckProfiles, ∀ check ∈ checks, _) ↔ _
      simp only [order.mem_iff]
      exact Iff.rfl
  | truncatedChecks => exact some_ _
  | failedChecks => exact some_ _
  | _ => exact Iff.rfl

end Replaced

section Honest

variable (casefold : PyStr → PyStr) (request : ReviewerRequest) (analysis : ReviewAnalysis)

/-- What the published score depends on: not on an order, and worse evidence does not raise it, as
long as no finding that counts for more is displaced. -/
structure ScoreHonest : Prop where
  unit : ∃ score, publishedScore casefold request analysis = .ok score ∧ 0 ≤ score ∧ score ≤ 1
  checks_order : ∀ checks valid, checks.Perm request.checks →
    publishedScore casefold (request.withChecks checks valid) analysis =
      publishedScore casefold request analysis
  findings_order : ∀ findings few, findings.Perm analysis.findings →
    ((retainedFindings request (analysis.withFindings findings few)).map fun finding =>
      finding.severity).Perm
      ((retainedFindings request analysis).map fun finding => finding.severity) →
    publishedScore casefold request (analysis.withFindings findings few) =
      publishedScore casefold request analysis
  added : ∀ before finding after few, analysis.findings = before ++ after →
    (modelBudget request (analysis.withFindings (before ++ finding :: after) few) ≤ before.length ∨
      ∀ lost ∈ (retainedFindings request analysis).drop
          (modelBudget request (analysis.withFindings (before ++ finding :: after) few) - 1),
        lost.severity.rank ≤ finding.severity.rank) →
    Lowers (publishedScore casefold request
      (analysis.withFindings (before ++ finding :: after) few))
      (publishedScore casefold request analysis)
  raised : ∀ before finding raised after few, analysis.findings = before ++ finding :: after →
    finding.severity.rank ≤ raised.severity.rank →
    Lowers (publishedScore casefold request (analysis.withFindings (before ++ raised :: after) few))
      (publishedScore casefold request analysis)
  failed : ∀ before check failing after valid, request.checks = before ++ check :: after →
    failing.profileId = check.profileId → isPassingCheck check = true →
    isPassingCheck failing = false →
    (∀ lost ∈ (retainedFindings request analysis).drop
      (modelBudget (request.withChecks (before ++ failing :: after) valid) analysis),
        lost.severity ≠ .critical) →
    Lowers (publishedScore casefold
      (request.withChecks (before ++ failing :: after) valid) analysis)
      (publishedScore casefold request analysis)

theorem score_honest : ScoreHonest casefold request analysis where
  unit := by
    obtain ⟨result, _, made, _, _, _, score⟩ := buildReviewerResult_made casefold request analysis
    obtain ⟨low, high⟩ := calculateReviewScore_unit request.checks result.findings
    refine ⟨result.reviewScore, ?_, ?_⟩
    · unfold publishedScore
      rw [made]
      rfl
    · rw [score]
      exact significant_unit low high (by norm_num) (by norm_num)
  checks_order := by
    intro checks valid order
    refine publishedScore_same casefold ?_ order.length_eq ?_
    · exact (order.filter _).length_eq
    · rw [publishedPenalty_weights, publishedPenalty_weights, blockers_reordered order]
  findings_order := by
    intro findings few order retained
    have blockers :
      (deterministicBlockerCodes request (analysis.withFindings findings few)).length =
        (deterministicBlockerCodes request analysis).length := by
      have same : findings.any severe = analysis.findings.any severe := by
        rw [Bool.eq_iff_iff, List.any_eq_true, List.any_eq_true]
        simp only [order.mem_iff]
      rcases blockers_findings request few (fun known => same.trans known)
        with equal | ⟨_, mild, gained⟩
      · exact equal
      · rw [same, mild] at gained
        cases gained
    refine publishedScore_same casefold rfl rfl ?_
    have total := (retained.map hundredths).sum_eq
    rw [List.map_map, List.map_map] at total
    unfold publishedPenalty
    rw [blockers]
    exact congrArg (· + _) total
  added := by
    intro before finding after few split spares
    exact publishedScore_lowers casefold le_rfl rfl (penalty_added few split spares)
  raised := by
    intro before finding raised after few split higher
    exact publishedScore_lowers casefold le_rfl rfl (penalty_raised few split higher)
  failed := by
    intro before check failing after valid split profile passing fails spares
    refine publishedScore_lowers casefold (incompleteChecks_failed split passing fails) ?_
      (penalty_failed split profile passing spares)
    rw [split]
    show (before ++ failing :: after).length = _
    rw [List.length_append, List.length_append, List.length_cons, List.length_cons]

end Honest

section Sample

def sampleFinding (severity : FindingSeverity) : ReviewFinding where
  category := .ofString "c"
  severity := severity
  rationale := .ofString "r"
  path := none
  line := none
  recommendation := .ofString "r"
  valid := by cases severity <;> decide

def sampleCheck (profile : CommandProfileId) (truncated : Bool) : ReviewCheck where
  profileId := profile
  category := profile.category
  status := .succeeded
  exitCode := 0
  truncated := truncated
  exit_bounds := by decide
  truthful := by cases profile <;> decide

def samplePassing : List ReviewCheck :=
  [.ruff, .mypy, .npmTest, .npmBuild].map fun profile => sampleCheck profile false

def sampleReview : ReviewerRequest where
  developerId := .ofString "d"
  reviewerId := .ofString "r"
  taskTitle := .ofString "t"
  taskDescription := .ofString "t"
  acceptanceCriteria := [.ofString "a"]
  diff := .ofString "+"
  requiredCheckProfiles := [.pytest]
  checks := sampleCheck .pytest false :: samplePassing
  developerReport := ⟨.ofString "s", .succeeded, [], []⟩
  ids_valid := by decide
  title_valid := by decide
  description_valid := by decide
  criteria_valid := by decide
  diff_valid := by decide
  profiles_valid := by decide
  checks_valid := by decide

def sampleFindings : List ReviewFinding :=
  sampleFinding .high :: List.replicate 60 (sampleFinding .info) ++ [sampleFinding .critical]

def sampleReviewed : ReviewAnalysis where
  decision := .approved
  findings := sampleFindings
  rationale := .ofString "r"
  confidence := ⟨1 / 2, by norm_num, by norm_num⟩
  finding_bound := by decide
  rationale_valid := by decide

def sampleFront : ReviewAnalysis :=
  sampleReviewed.withFindings (sampleFinding .info :: sampleFindings) (by decide)

def sampleBack : ReviewAnalysis :=
  sampleReviewed.withFindings (sampleFindings ++ [sampleFinding .info]) (by decide)

def sampleTruncated : ReviewerRequest :=
  sampleReview.withChecks (sampleCheck .pytest true :: samplePassing) (by decide)

theorem sample_none {request : ReviewerRequest} {analysis : ReviewAnalysis}
    (score : scoreOf (incompleteChecks request.checks) request.checks.length
      (publishedPenalty request analysis) = 0) : publishedScore id request analysis = .ok 0 := by
  rw [publishedScore_of, score, significant, if_pos rfl]

theorem sample_some {request : ReviewerRequest} {analysis : ReviewAnalysis}
    (score : 0 < scoreOf (incompleteChecks request.checks) request.checks.length
      (publishedPenalty request analysis)) :
    ∃ high, publishedScore id request analysis = .ok high ∧ 0 < high :=
  ⟨_, publishedScore_of id request analysis, significant_pos (by norm_num) (by norm_num) score⟩

theorem sample_rises {later former : Except ValidationError ℚ}
    (some_ : ∃ high, later = .ok high ∧ 0 < high)
    (none_ : former = .ok 0) : ¬ Lowers later former := by
  rintro ⟨low, high, lows, highs, le⟩
  obtain ⟨score, rfl, positive⟩ := some_
  subst none_
  cases lows
  cases highs
  linarith

/-- Blockers displace the last findings of the model, which may count for more. -/
theorem score_displaced :
    (¬ ∀ request analysis findings few, findings.Perm analysis.findings →
      publishedScore id request (analysis.withFindings findings few) =
        publishedScore id request analysis) ∧
    (¬ ∀ request analysis before finding after few, analysis.findings = before ++ after →
      Lowers (publishedScore id request (analysis.withFindings (before ++ finding :: after) few))
        (publishedScore id request analysis)) ∧
    ¬ ∀ request analysis before check failing after valid, request.checks = before ++
      check :: after →
      failing.profileId = check.profileId → isPassingCheck check = true →
      isPassingCheck failing = false →
      Lowers (publishedScore id (request.withChecks (before ++ failing :: after) valid) analysis)
        (publishedScore id request analysis) := by
  have base : publishedScore id sampleReview sampleReviewed = .ok 0 :=
    sample_none (by decide +kernel)
  have back : publishedScore id sampleReview sampleBack = .ok 0 := sample_none (by decide +kernel)
  have front : ∃ high, publishedScore id sampleReview sampleFront = .ok high ∧ 0 < high :=
    sample_some (by decide +kernel)
  have truncated : ∃ high, publishedScore id sampleTruncated sampleReviewed = .ok high ∧ 0 < high :=
    sample_some (by decide +kernel)
  refine ⟨fun same => ?_, fun lowers => ?_, fun lowers => ?_⟩
  · obtain ⟨high, published, positive⟩ := front
    have equal :=
      same sampleReview sampleFront (sampleFindings ++ [sampleFinding .info]) (by decide)
      (List.perm_append_singleton _ _)
    have zero : high = 0 := Except.ok.inj (published.symm.trans (equal.symm.trans back))
    exact positive.ne' zero
  · exact sample_rises front base
      (lowers sampleReview sampleReviewed [] (sampleFinding .info) sampleFindings (by decide) rfl)
  · exact sample_rises truncated base
      (lowers sampleReview sampleReviewed [] (sampleCheck .pytest false)
        (sampleCheck .pytest true) samplePassing (by decide) rfl rfl (by decide) (by decide))

end Sample

end SynapseOS.Reviewer
