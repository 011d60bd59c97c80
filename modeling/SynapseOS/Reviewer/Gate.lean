import SynapseOS.Reviewer.Decision

/-! The gate approves exactly what has no blocker, and publishes every blocker. -/

namespace SynapseOS.Reviewer

open Agents Commands Execution Rounding

theorem blocker_valid (code : BlockerCode) : (blockerFields code).check = true := by
  cases code <;>
  · dsimp only [blockerFields, blockerText]
    repeat rw [PyStr.ofString_ofList]
    decide

def gateFinding (code : BlockerCode) : ReviewFinding := ⟨blockerFields code, blocker_valid code⟩

/-- What a reader of the result is told of each blocker, and advised to do. -/
def publishedText : BlockerCode → String × String
  | .identities =>
      ("Reviewer and Developer identities are not independent.",
        "Assign an independent Reviewer before approval.")
  | .developerReport =>
      ("Developer report was not successful.",
        "Resolve the Developer outcome before requesting approval.")
  | .missingChecks =>
      ("Required review checks are missing.",
        "Provide complete deterministic verification evidence.")
  | .inconsistentChecks =>
      ("Required review check metadata is inconsistent.",
        "Provide canonical verification metadata.")
  | .truncatedChecks =>
      ("Required review checks were truncated.",
        "Rerun verification with complete retained evidence.")
  | .failedChecks =>
      ("Required review checks did not pass.",
        "Fix the failed verification before approval.")
  | .severeFindings =>
      ("Review findings include a high-severity issue.",
        "Resolve high-severity findings before approval.")
  | .modelChanges =>
      ("Model requested changes.",
        "Address the requested changes before approval.")
  | .lowConfidence =>
      ("Review confidence is below the approval threshold.",
        "Provide stronger review evidence before approval.")

def published (code : BlockerCode) : FindingFields where
  category := .ofString "review-gate"
  severity := .high
  rationale := .ofString (publishedText code).1
  path := none
  line := none
  recommendation := .ofString (publishedText code).2

theorem gateFinding_published (code : BlockerCode) :
    (gateFinding code).toFindingFields = published code := by
  cases code <;> rfl

/-- No two blockers are published alike. -/
theorem published_injective : Function.Injective published := by
  intro first second same
  have told : (publishedText first).1 = (publishedText second).1 :=
    PyStr.ofString_injective (congrArg FindingFields.rationale same)
  cases first <;> cases second <;> first | rfl | simp [publishedText] at told

theorem findings_published (codes : List BlockerCode) :
    (codes.map gateFinding).map ReviewFinding.toFindingFields = codes.map published := by
  rw [List.map_map]
  exact List.map_congr_left fun code _ => gateFinding_published code

theorem blocker_ok (code : BlockerCode) : blocker code = .ok (gateFinding code) := by
  unfold blocker FindingFields.validate
  rw [dif_pos (blocker_valid code)]
  rfl

theorem blockers_ok (codes : List BlockerCode) :
    codes.mapM blocker = .ok (codes.map gateFinding) := by
  induction codes with
  | nil => rfl
  | cons code rest ih =>
      rw [List.mapM_cons, blocker_ok, ih]
      rfl

section Checks

variable {requiredProfiles : List CommandProfileId} {checks : List ReviewCheck}

def SomeRequired (requiredProfiles : List CommandProfileId) (checks : List ReviewCheck)
    (holds : ReviewCheck → Prop) : Prop :=
  ∃ profile ∈ requiredProfiles, ∃ check ∈ checks, check.profileId = profile ∧ holds check

theorem flags_fold (indexed : Dict CommandProfileId ReviewCheck) (flags : CheckFlags)
    (profiles : List CommandProfileId) :
    let final := profiles.foldl (flagProfile indexed) flags
    (final.missing = true ↔ flags.missing = true ∨ ∃ profile ∈ profiles,
      indexed.get profile = none) ∧
      (final.inconsistent = true ↔ flags.inconsistent = true ∨
        ∃ profile ∈ profiles, ∃ check, indexed.get profile = some check ∧
          (check.category ≠ profile.category ∨ check.status ≠ expectedStatus check.exitCode)) ∧
      (final.truncated = true ↔ flags.truncated = true ∨
        ∃ profile ∈ profiles, ∃ check, indexed.get profile = some check ∧ check.truncated = true) ∧
      (final.failed = true ↔ flags.failed = true ∨
        ∃ profile ∈ profiles, ∃ check, indexed.get profile = some check ∧
          (check.status ≠ .succeeded ∨ check.exitCode ≠ 0)) := by
  induction profiles generalizing flags with
  | nil => simp
  | cons profile rest ih =>
      have next := ih (flagProfile indexed flags profile)
      simp only [List.foldl_cons, List.exists_mem_cons_iff]
      refine ⟨next.1.trans ?_, next.2.1.trans ?_, next.2.2.1.trans ?_, next.2.2.2.trans ?_⟩
      all_goals
        unfold flagProfile
        cases held : indexed.get profile <;> simp [or_assoc]

theorem some_indexed (holds : CommandProfileId → ReviewCheck → Prop)
    (unique : (checks.map ReviewCheck.profileId).Nodup) :
    (∃ profile ∈ requiredProfiles, ∃ check,
        (indexChecks checks).1.get profile = some check ∧ holds profile check) ↔
      SomeRequired requiredProfiles checks fun check => holds check.profileId check := by
  unfold SomeRequired indexChecks
  constructor
  · rintro ⟨profile, required, check, held, so⟩
    obtain ⟨among, rfl⟩ := (Dict.indexLast_get unique).mp held
    exact ⟨_, required, check, among, rfl, so⟩
  · rintro ⟨profile, required, check, among, rfl, so⟩
    exact ⟨_, required, check, (Dict.indexLast_get unique).mpr ⟨among, rfl⟩, so⟩

/-- When a code of the checks applies. Canonical metadata is never inconsistent. -/
def CheckApplies (requiredProfiles : List CommandProfileId) (checks : List ReviewCheck) :
    BlockerCode → Prop
  | .missingChecks => ∃ profile ∈ requiredProfiles, ∀ check ∈ checks, check.profileId ≠ profile
  | .truncatedChecks => SomeRequired requiredProfiles checks fun check => check.truncated = true
  | .failedChecks =>
      SomeRequired requiredProfiles checks fun check => check.status ≠ .succeeded ∨
        check.exitCode ≠ 0
  | _ => False

theorem mem_checkBlockerCodes (some_ : checks ≠ []) (required : requiredProfiles ≠ [])
    (unique : (checks.map ReviewCheck.profileId).Nodup) (code : BlockerCode) :
    code ∈ checkBlockerCodes requiredProfiles checks ↔
    CheckApplies requiredProfiles checks code := by
  have once : (indexChecks checks).2 = false := Dict.indexLast_twice.mpr unique
  have missing : ∀ profile, (indexChecks checks).1.get profile = none ↔
      ∀ check ∈ checks, check.profileId ≠ profile := by
    intro profile
    rw [← Option.not_isSome_iff_eq_none, indexChecks, Dict.indexLast_isSome]
    simp
  have held : (indexChecks checks).1.entries ≠ [] := by
    intro empty
    obtain ⟨check, among⟩ := List.exists_mem_of_ne_nil _ some_
    refine (missing check.profileId).mp ?_ check among rfl
    unfold Dict.get
    rw [empty]
    rfl
  have starts :
    (⟨decide (requiredProfiles = []), (indexChecks checks).2, false, false⟩ : CheckFlags) =
      ⟨false, false, false, false⟩ := by
    rw [once, decide_eq_false required]
  obtain ⟨flag1, flag2, flag3, flag4⟩ :=
    flags_fold (indexChecks checks).1 ⟨false, false, false, false⟩ requiredProfiles
  unfold checkBlockerCodes
  dsimp only at flag1 flag2 flag3 flag4 ⊢
  rw [if_neg held, starts]
  simp only [List.mem_append, mem_itemIf, flag1, flag2, flag3, flag4, missing, Bool.false_eq_true,
    false_or]
  rw [some_indexed (fun profile check => check.category ≠ profile.category ∨
      check.status ≠ expectedStatus check.exitCode) unique,
    some_indexed (fun _ check => check.truncated = true) unique,
    some_indexed (fun _ check => check.status ≠ .succeeded ∨ check.exitCode ≠ 0) unique]
  have truthful : ¬ SomeRequired requiredProfiles checks fun check =>
      check.category ≠ check.profileId.category ∨ check.status ≠ expectedStatus check.exitCode := by
    rintro ⟨_, _, check, _, _, odd | odd⟩
    · exact odd check.truthful.1
    · exact odd check.truthful.2
  cases code <;> simp [CheckApplies, truthful]

theorem checkBlockerCodes_sublist : (checkBlockerCodes requiredProfiles checks).Sublist
    [.missingChecks, .inconsistentChecks, .truncatedChecks, .failedChecks] := by
  unfold checkBlockerCodes
  dsimp only
  split
  · simp
  · exact ((itemIf_sublist.append itemIf_sublist).append itemIf_sublist).append
      itemIf_sublist

end Checks

section Request

variable (request : ReviewerRequest) (analysis : ReviewAnalysis)

def Applies : BlockerCode → Prop
  | .identities => request.developerId = request.reviewerId
  | .developerReport => request.developerReport.outcome ≠ .succeeded
  | .severeFindings => ∃ finding ∈ analysis.findings,
      finding.severity = .high ∨ finding.severity = .critical
  | .modelChanges => analysis.decision = .changesRequested
  | .lowConfidence => analysis.confidence.val < approvalConfidenceThreshold
  | code => CheckApplies request.requiredCheckProfiles request.checks code

structure Approvable : Prop where
  independent : request.reviewerId ≠ request.developerId
  reported : request.developerReport.outcome = .succeeded
  checked : ∀ profile ∈ request.requiredCheckProfiles, ∃ check ∈ request.checks,
    check.profileId = profile ∧ check.category = profile.category ∧ check.truncated = false ∧
      check.status = .succeeded ∧ check.exitCode = 0
  harmless : ∀ finding ∈ analysis.findings, finding.severity ≠ .high ∧ finding.severity ≠ .critical
  proposed : analysis.decision = .approved
  confident : approvalConfidenceThreshold ≤ analysis.confidence.val

variable {request analysis}

theorem mem_deterministicBlockerCodes (code : BlockerCode) :
    code ∈ deterministicBlockerCodes request analysis ↔ Applies request analysis code := by
  have some_ : request.checks ≠ [] := List.ne_nil_of_length_pos request.checks_valid.1
  have required : request.requiredCheckProfiles ≠ [] :=
    List.ne_nil_of_length_pos request.profiles_valid.1
  unfold deterministicBlockerCodes
  simp only [List.mem_append, mem_itemIf,
    mem_checkBlockerCodes some_ required request.checks_valid.2.2]
  cases code <;> simp [Applies, CheckApplies, severe]

theorem deterministicBlockerCodes_sublist : (deterministicBlockerCodes request analysis).Sublist
    [.identities, .developerReport, .missingChecks, .inconsistentChecks, .truncatedChecks,
      .failedChecks, .severeFindings, .modelChanges, .lowConfidence] := by
  unfold deterministicBlockerCodes
  exact ((((itemIf_sublist.append itemIf_sublist).append checkBlockerCodes_sublist).append
    itemIf_sublist).append itemIf_sublist).append itemIf_sublist

/-- An approval is what no blocker stands against. -/
theorem approvable_iff : Approvable request analysis ↔ ∀ code, ¬ Applies request analysis code := by
  constructor
  · intro approvable code applies
    cases code with
    | identities => exact approvable.independent applies.symm
    | developerReport => exact applies approvable.reported
    | missingChecks =>
        obtain ⟨profile, required, absent⟩ := applies
        obtain ⟨check, among, same, _⟩ := approvable.checked profile required
        exact absent check among same
    | inconsistentChecks => exact applies
    | truncatedChecks =>
        obtain ⟨profile, required, check, among, same, cut⟩ := applies
        obtain ⟨other, there, again, _, whole, _⟩ := approvable.checked profile required
        have equal := List.inj_on_of_nodup_map request.checks_valid.2.2 among there
          (same.trans again.symm)
        rw [equal, whole] at cut
        cases cut
    | failedChecks =>
        obtain ⟨profile, required, check, among, same, failed⟩ := applies
        obtain ⟨other, there, again, _, _, passed, zero⟩ := approvable.checked profile required
        have equal := List.inj_on_of_nodup_map request.checks_valid.2.2 among there
          (same.trans again.symm)
        rw [equal] at failed
        rcases failed with status | exit
        · exact status passed
        · exact exit zero
    | severeFindings =>
        obtain ⟨finding, among, high | critical⟩ := applies
        · exact (approvable.harmless finding among).1 high
        · exact (approvable.harmless finding among).2 critical
    | modelChanges =>
        have proposed := approvable.proposed
        rw [show analysis.decision = .changesRequested from applies] at proposed
        cases proposed
    | lowConfidence => exact not_lt.mpr approvable.confident applies
  · intro none
    constructor
    · exact fun same => none .identities same.symm
    · by_contra other
      exact none .developerReport other
    · intro profile required
      by_contra lacking
      refine none .missingChecks ⟨profile, required, fun check among same => lacking ?_⟩
      subst same
      refine ⟨check, among, rfl, check.truthful.1, ?_, ?_, ?_⟩
      · by_contra cut
        exact none .truncatedChecks ⟨_, required, check, among, rfl, by simpa using cut⟩
      · by_contra failed
        exact none .failedChecks ⟨_, required, check, among, rfl, .inl failed⟩
      · by_contra exit
        exact none .failedChecks ⟨_, required, check, among, rfl, .inr exit⟩
    · intro finding among
      exact ⟨fun high => none .severeFindings ⟨finding, among, .inl high⟩,
        fun critical => none .severeFindings ⟨finding, among, .inr critical⟩⟩
    · cases proposed : analysis.decision with
      | approved => rfl
      | changesRequested => exact absurd proposed (none .modelChanges)
    · by_contra low
      exact none .lowConfidence (not_le.mp low)

end Request

section Result

variable (casefold : PyStr → PyStr)

theorem redactFinding_ok (sources markers : List PyStr) (finding : ReviewFinding) :
    ∃ redacted, redactFinding casefold sources markers finding = .ok redacted ∧
      redacted.severity = finding.severity := by
  have valid := finding.valid
  simp only [FindingFields.check, Bool.and_eq_true] at valid
  obtain ⟨⟨⟨⟨category, rationale⟩, path⟩, line⟩, recommendation⟩ := valid
  have fields : (redactedFields casefold sources markers finding).check = true := by
    simp only [FindingFields.check, redactedFields, Bool.and_eq_true]
    refine ⟨⟨⟨⟨?_, ?_⟩, ?_⟩, ?_⟩, ?_⟩
    · exact redactText_either (fun text => identifierText false text = true)
        (by rw [PyStr.ofString_ofList]; decide) category
    · exact redactText_either (fun text => boundedText 16384 text = true)
        (by rw [PyStr.ofString_ofList]; decide) rationale
    · split
      · rfl
      · exact path
    · split
      · rfl
      · exact line
    · exact redactText_either (fun text => boundedText 16384 text = true)
        (by rw [PyStr.ofString_ofList]; decide) recommendation
  refine ⟨⟨redactedFields casefold sources markers finding, fields⟩, ?_, rfl⟩
  unfold redactFinding FindingFields.validate
  rw [dif_pos fields]

theorem blockers_few {request : ReviewerRequest} {analysis : ReviewAnalysis} :
    (deterministicBlockerCodes request analysis).length ≤ 9 :=
  deterministicBlockerCodes_sublist.length_le

theorem buildReviewerResult_made (request : ReviewerRequest) (analysis : ReviewAnalysis) :
    ∃ result proposed, buildReviewerResult casefold request analysis = .ok result ∧
      List.Forall₂ (fun finding redacted : ReviewFinding => redacted.severity = finding.severity)
        analysis.findings proposed ∧
      result.decision = (if (deterministicBlockerCodes request analysis).map gateFinding = [] then
        .approved else .changesRequested) ∧
      result.findings = proposed.take (64 - (deterministicBlockerCodes request analysis).length) ++
        (deterministicBlockerCodes request analysis).map gateFinding ∧
      result.reviewScore = significant 2 53
        (calculateReviewScore request.checks result.findings) := by
  have few : (deterministicBlockerCodes request analysis).length ≤ 9 := blockers_few
  revert few
  unfold buildReviewerResult
  generalize deterministicBlockerCodes request analysis = codes
  intro few
  let sources := canonicalTextEvidence request
  let markers := obviousSecretMarkers casefold sources
  obtain ⟨proposed, redacts, related⟩ :
      ∃ proposed, analysis.findings.mapM (redactFinding casefold sources markers) = .ok proposed ∧
        List.Forall₂ (fun finding redacted : ReviewFinding => redacted.severity = finding.severity)
          analysis.findings proposed :=
    mapM_validates fun finding _ => redactFinding_ok casefold sources markers finding
  let findings := appendBlockers proposed (codes.map gateFinding)
  have kept : findings = proposed.take (64 - codes.length) ++ codes.map gateFinding := by
    have all : (codes.map gateFinding).take 64 = codes.map gateFinding :=
      List.take_of_length_le (by rw [List.length_map]; omega)
    show appendBlockers proposed (codes.map gateFinding) = _
    unfold appendBlockers
    dsimp only
    rw [all, List.length_map]
  have length : findings.length ≤ 64 := by
    rw [kept, List.length_append, List.length_take, List.length_map]
    omega
  let fields : ResultFields :=
    { decision := if codes.map gateFinding = [] then .approved else .changesRequested
      findings := findings
      rationale := redactText casefold sources markers
        (.ofString "Reviewer rationale redacted because it echoed source evidence.")
        analysis.rationale
      confidence := analysis.confidence
      reviewScore := significant 2 53 (calculateReviewScore request.checks findings) }
  have valid : fields.check = true := by
    obtain ⟨low, high⟩ := calculateReviewScore_unit request.checks findings
    have rounded : 0 ≤ significant 2 53 _ ∧ significant 2 53 _ ≤ 1 :=
      significant_unit low high (by norm_num) (by norm_num)
    have rationale : boundedText 16384 fields.rationale = true :=
      redactText_either (fun text => boundedText 16384 text = true)
        (by rw [PyStr.ofString_ofList]; decide) analysis.rationale_valid
    simp only [ResultFields.check, Bool.and_eq_true, decide_eq_true_eq]
    exact ⟨⟨length, rationale⟩, rounded⟩
  refine ⟨⟨fields, valid⟩, proposed, ?_, related, rfl, kept, rfl⟩
  rw [blockers_ok]
  dsimp only [Bind.bind, Except.bind]
  rw [redacts]
  dsimp only
  unfold ResultFields.validate
  exact dif_pos valid

/-- The gate never raises. It approves what is approvable, and a refusal publishes one finding for
each blocker that applies, after as many findings of the model as fit. -/
theorem reviewer_gate (request : ReviewerRequest) (analysis : ReviewAnalysis) :
    ∃ result, buildReviewerResult casefold request analysis = .ok result ∧
      (result.decision = .approved ↔ Approvable request analysis) ∧ result.findings.length ≤ 64 ∧
      (∃ codes : List BlockerCode, ∃ proposed blockers : List ReviewFinding,
        codes.Nodup ∧ (∀ code, code ∈ codes ↔ Applies request analysis code) ∧
          proposed.length = analysis.findings.length ∧
          blockers.map ReviewFinding.toFindingFields = codes.map published ∧
          result.findings = proposed.take (64 - codes.length) ++ blockers) ∧
      Function.Injective published := by
  have mem : ∀ code, code ∈ deterministicBlockerCodes request analysis ↔
      Applies request analysis code :=
    mem_deterministicBlockerCodes
  have part : (deterministicBlockerCodes request analysis).Sublist _ :=
    deterministicBlockerCodes_sublist
  have few : (deterministicBlockerCodes request analysis).length ≤ 9 := blockers_few
  obtain ⟨result, proposed, made, related, decision, kept, _⟩ :=
    buildReviewerResult_made casefold request analysis
  generalize deterministicBlockerCodes request analysis = codes at mem part few decision kept
  refine ⟨result, made, ?_, ?_, ⟨codes, proposed, _, part.nodup (by decide), mem,
    related.length_eq.symm, findings_published codes, kept⟩, published_injective⟩
  · rw [decision, approvable_iff]
    cases codes with
    | nil => simp [← mem]
    | cons code rest =>
        constructor
        · nofun
        · intro none
          exact absurd ((mem code).mp List.mem_cons_self) (none code)
  · rw [kept, List.length_append, List.length_take, List.length_map]
    omega

end Result

end SynapseOS.Reviewer
