import SynapseOS.QA.Decision

/-! The gate passes exactly what has no blocker and no finding, and publishes every blocker. -/

namespace SynapseOS.QA

open Commands Execution Reviewer Rounding

theorem blocker_valid (code : BlockerCode) : (blockerFields code).check = true := by
  cases code <;>
  · dsimp only [blockerFields, blockerText, BlockerCode.value]
    repeat rw [PyStr.ofString_ofList]
    decide

def gateFinding (code : BlockerCode) : QAFinding := ⟨blockerFields code, blocker_valid code⟩

/-- What a reader of the result is told of each blocker: its category, how to reproduce it, the
expected and the actual behavior. -/
def publishedText : BlockerCode → String × String × String × String
  | .missingTest =>
      ("qa-gate.missing-test", "Run every required fixed test profile once.",
        "All required test profiles produce fresh successful evidence.",
        "Required deterministic test evidence is missing.")
  | .duplicateTest =>
      ("qa-gate.duplicate-test", "Run the required profile exactly once and use one result.",
        "Each required test profile has one unambiguous result.",
        "Duplicate deterministic test evidence was supplied.")
  | .truncatedTest =>
      ("qa-gate.truncated-test", "Rerun the profile with complete bounded evidence.",
        "Required test evidence is complete within its configured limits.",
        "The retained test evidence was truncated.")
  | .failedTest =>
      ("qa-gate.failed-test", "Run the failing fixed profile and reproduce its nonzero exit.",
        "Every required test profile exits successfully.",
        "At least one required profile returned a nonzero exit.")
  | .failedExistingCheck =>
      ("qa-gate.failed-existing-check", "Reproduce the existing fixed check before QA approval.",
        "All existing Reviewer checks are successful and complete.",
        "Existing deterministic check evidence is failed or truncated.")
  | .unverifiedCriterion =>
      ("qa-gate.unverified-criterion",
        "Exercise the criterion with a successful required test profile.",
        "Every acceptance criterion is supported by fresh passing evidence.",
        "At least one acceptance criterion lacks successful evidence.")
  | .modelFailure =>
      ("qa-gate.model-failure", "Reproduce and resolve the reported QA mismatch.",
        "Independent QA analysis supports passing the change.",
        "The provider analysis did not support a pass.")
  | .lowConfidence =>
      ("qa-gate.low-confidence",
        "Collect stronger deterministic evidence for the acceptance criteria.",
        "QA confidence meets the fixed pass threshold.",
        "The analysis confidence is below 0.70.")

def published (code : BlockerCode) : FindingFields where
  category := .ofString (publishedText code).1
  severity := .high
  reproductionSteps := [.ofString (publishedText code).2.1]
  expectedBehavior := .ofString (publishedText code).2.2.1
  actualBehavior := .ofString (publishedText code).2.2.2
  path := none

theorem gateFinding_published (code : BlockerCode) :
    (gateFinding code).toFindingFields = published code := by
  cases code <;>
  · dsimp only [gateFinding, blockerFields, published, publishedText, blockerText,
      BlockerCode.value]
    repeat rw [PyStr.ofString_ofList]
    rfl

/-- No two blockers are published alike. -/
theorem published_injective : Function.Injective published := by
  intro first second same
  have told : (publishedText first).1 = (publishedText second).1 :=
    PyStr.ofString_injective (congrArg FindingFields.category same)
  cases first <;> cases second <;> first | rfl | simp [publishedText] at told

theorem findings_published (codes : List BlockerCode) :
    (codes.map gateFinding).map QAFinding.toFindingFields = codes.map published := by
  rw [List.map_map]
  exact List.map_congr_left fun code _ => gateFinding_published code

theorem blockers_ok (codes : List BlockerCode) :
    codes.mapM blocker = .ok (codes.map gateFinding) := by
  induction codes with
  | nil => rfl
  | cons code rest ih =>
      have valid : blocker code = .ok (gateFinding code) := dif_pos (blocker_valid code)
      rw [List.mapM_cons, valid, ih]
      rfl

/-- The execution that the gate reads of its profile: the last one. -/
def Final (executions : List QATestExecution) (execution : QATestExecution) : Prop :=
  ∃ front back, executions = front ++ execution :: back ∧
    ∀ later ∈ back, later.profileId ≠ execution.profileId

section Codes

variable (request : QARequest) (executions : List QATestExecution) (analysis : QAAnalysis)

def SomeRequired (holds : QATestExecution → Prop) : Prop :=
  ∃ execution, Final executions execution ∧ execution.profileId ∈ request.requiredTestProfiles ∧
    holds execution

/-- When a blocker applies. -/
def Applies : BlockerCode → Prop
  | .missingTest =>
      (∃ profile ∈ request.requiredTestProfiles, ∀ execution ∈ executions,
        execution.profileId ≠ profile) ∨
        ∃ execution ∈ executions, execution.profileId ∉ request.requiredTestProfiles
  | .duplicateTest => ¬ (executions.map fun execution => execution.profileId).Nodup
  | .truncatedTest => SomeRequired request executions fun execution =>
      truncatedOutput execution = true
  | .failedTest => SomeRequired request executions fun execution => exitedWell execution = false
  | .failedExistingCheck => ∃ check ∈ request.existingChecks, failedCheck check = true
  | .unverifiedCriterion =>
      analysis.criteria.map (fun item => item.criterionIndex) ≠
          List.range' 1 request.acceptanceCriteria.length ∨
        ∃ item ∈ analysis.criteria, item.status ≠ .passed ∨ item.evidenceProfiles = [] ∨
          ∃ profile ∈ item.evidenceProfiles, ¬ SomeRequired request executions fun execution =>
            execution.profileId = profile ∧ exitedWell execution = true ∧
              truncatedOutput execution = false
  | .modelFailure => analysis.decision = .failed
  | .lowConfidence => analysis.confidence.val < passConfidenceThreshold

structure Passable : Prop where
  once : (executions.map fun execution => execution.profileId).Nodup
  complete : ∀ profile, profile ∈ executions.map (fun execution => execution.profileId) ↔
    profile ∈ request.requiredTestProfiles
  succeeded : ∀ execution ∈ executions, execution.status = .succeeded ∧ execution.exitCode = 0 ∧
    execution.stdoutTruncated = false ∧ execution.stderrTruncated = false
  checked : ∀ check ∈ request.existingChecks, check.status = .succeeded ∧ check.exitCode = 0 ∧
    check.truncated = false
  ordered : analysis.criteria.map (fun item => item.criterionIndex) =
    List.range' 1 request.acceptanceCriteria.length
  verified : ∀ item ∈ analysis.criteria, item.status = .passed ∧ item.evidenceProfiles ≠ [] ∧
    ∀ profile ∈ item.evidenceProfiles, profile ∈ request.requiredTestProfiles
  proposed : analysis.decision = .passed
  confident : passConfidenceThreshold ≤ analysis.confidence.val
  clean : analysis.findings = []

variable {request executions analysis}

theorem mem_requiredExecutions (item : QATestExecution) :
    item ∈ requiredExecutions request executions ↔
      Final executions item ∧ item.profileId ∈ request.requiredTestProfiles := by
  unfold requiredExecutions indexExecutions
  rw [List.mem_filterMap]
  simp only [Dict.indexLast_last]
  constructor
  · rintro ⟨profile, required, rfl, last⟩
    exact ⟨last, required⟩
  · rintro ⟨last, required⟩
    exact ⟨_, required, rfl, last⟩

theorem missingTest_iff : missingTest request executions = true ↔
    Applies request executions analysis .missingTest := by
  have absent : ∀ profile, ((indexExecutions executions).1.get profile).isNone = true ↔
      ∀ execution ∈ executions, execution.profileId ≠ profile := by
    intro profile
    rw [Option.isNone_iff_eq_none, ← Option.not_isSome_iff_eq_none, indexExecutions,
      Dict.indexLast_isSome]
    simp
  unfold missingTest
  rw [Bool.or_eq_true, List.any_eq_true, List.any_eq_true]
  refine or_congr (by simp only [absent]) ?_
  constructor
  · rintro ⟨⟨profile, execution⟩, held, outside⟩
    obtain ⟨among, same⟩ :=
      Dict.indexLast_mem (((indexExecutions executions).1.mem_entries _ _).mp held)
    refine ⟨execution, among, ?_⟩
    rw [same]
    simpa using outside
  · rintro ⟨execution, among, outside⟩
    have known : execution.profileId ∈ executions.map fun execution => execution.profileId :=
      List.mem_map_of_mem among
    obtain ⟨last, held⟩ := Option.isSome_iff_exists.mp ((Dict.indexLast_isSome _).mpr known)
    exact ⟨(execution.profileId, last), ((indexExecutions executions).1.mem_entries _ _).mpr held,
      by simpa using outside⟩

theorem mem_successfulProfiles (profile : CommandProfileId) :
    profile ∈ successfulProfiles request executions ↔
      SomeRequired request executions fun execution => execution.profileId = profile ∧
        exitedWell execution = true ∧ truncatedOutput execution = false := by
  unfold successfulProfiles SomeRequired
  simp only [List.mem_map, List.mem_filter, mem_requiredExecutions, Bool.and_eq_true,
    Bool.not_eq_true']
  constructor
  · rintro ⟨execution, ⟨⟨last, required⟩, well, whole⟩, rfl⟩
    exact ⟨execution, last, required, rfl, well, whole⟩
  · rintro ⟨execution, last, required, rfl, well, whole⟩
    exact ⟨execution, ⟨⟨last, required⟩, well, whole⟩, rfl⟩

theorem unverifiedCriterion_iff : unverifiedCriterion request executions analysis = true ↔
    Applies request executions analysis .unverifiedCriterion := by
  unfold unverifiedCriterion Applies
  simp only [Bool.or_eq_true, decide_eq_true_eq, List.any_eq_true, Bool.not_eq_true',
    List.all_eq_false, List.contains_iff_mem, mem_successfulProfiles, or_assoc]

theorem mem_deterministicBlockerCodes (code : BlockerCode) :
    code ∈ deterministicBlockerCodes request executions analysis ↔
      Applies request executions analysis code := by
  have twice : (indexExecutions executions).2 = true ↔
      ¬ (executions.map fun execution => execution.profileId).Nodup := by
    rw [indexExecutions, ← Dict.indexLast_twice, Bool.not_eq_false]
  have items : ∀ holds : QATestExecution → Bool,
      (requiredExecutions request executions).any holds = true ↔
        SomeRequired request executions fun execution => holds execution = true := by
    intro holds
    simp only [List.any_eq_true, mem_requiredExecutions, SomeRequired, and_assoc]
  have missing : missingTest request executions = true ↔
    Applies request executions analysis .missingTest := missingTest_iff
  have unverified : unverifiedCriterion request executions analysis = true ↔
    Applies request executions analysis .unverifiedCriterion := unverifiedCriterion_iff
  unfold deterministicBlockerCodes
  simp only [List.mem_eraseDups, List.mem_append, mem_itemIf, request.approved, missing, unverified,
    twice, items]
  cases code <;> simp [Applies]

theorem deterministicBlockerCodes_few :
    (deterministicBlockerCodes request executions analysis).Nodup ∧
    (deterministicBlockerCodes request executions analysis).length ≤ 9 := by
  unfold deterministicBlockerCodes
  refine ⟨(Dict.fromKeys_unique _).1, (Dict.fromKeys_unique _).2.trans ?_⟩
  suffices each : List.Sublist (_ : List BlockerCode) [.missingTest, .duplicateTest,
      .truncatedTest, .failedTest,
      .failedExistingCheck, .unverifiedCriterion, .failedExistingCheck, .modelFailure,
      .lowConfidence] from each.length_le
  exact (((((((itemIf_sublist.append itemIf_sublist).append itemIf_sublist).append
    itemIf_sublist).append itemIf_sublist).append itemIf_sublist).append itemIf_sublist).append
    itemIf_sublist).append itemIf_sublist

theorem final_of_mem (once : (executions.map fun execution => execution.profileId).Nodup)
    {execution : QATestExecution} (among : execution ∈ executions) :
    Final executions execution := by
  have held : (Dict.indexLast (fun execution : QATestExecution => execution.profileId)
      executions).1.get execution.profileId = some execution :=
    (Dict.indexLast_get once).mpr ⟨among, rfl⟩
  exact (Dict.indexLast_last.mp held).2

theorem mem_of_final {execution : QATestExecution} (last : Final executions execution) :
    execution ∈ executions := by
  obtain ⟨front, back, rfl, _⟩ := last
  simp

/-- A pass is what no blocker and no finding stands against. -/
theorem passable_iff : Passable request executions analysis ↔
    (∀ code, ¬ Applies request executions analysis code) ∧ analysis.findings = [] := by
  constructor
  · intro passable
    refine ⟨?_, passable.clean⟩
    intro code applies
    cases code with
    | missingTest =>
        rcases applies with ⟨profile, required, absent⟩ | ⟨execution, among, outside⟩
        · obtain ⟨execution, among, same⟩ :=
            List.mem_map.mp ((passable.complete profile).mpr required)
          exact absent execution among same
        · exact outside ((passable.complete _).mp (List.mem_map.mpr ⟨execution, among, rfl⟩))
    | duplicateTest => exact applies passable.once
    | truncatedTest =>
        obtain ⟨execution, last, _, cut⟩ := applies
        obtain ⟨_, _, out, err⟩ := passable.succeeded execution (mem_of_final last)
        simp [truncatedOutput, out, err] at cut
    | failedTest =>
        obtain ⟨execution, last, _, failed⟩ := applies
        obtain ⟨status, exit, _, _⟩ := passable.succeeded execution (mem_of_final last)
        simp [exitedWell, status, exit] at failed
    | failedExistingCheck =>
        obtain ⟨check, among, failed⟩ := applies
        obtain ⟨status, exit, whole⟩ := passable.checked check among
        simp [failedCheck, status, exit, whole] at failed
    | unverifiedCriterion =>
        rcases applies with disordered | ⟨item, among, status | bare | ⟨profile, evident, lacking⟩⟩
        · exact disordered passable.ordered
        · exact status (passable.verified item among).1
        · exact (passable.verified item among).2.1 bare
        · have required := (passable.verified item among).2.2 profile evident
          obtain ⟨execution, there, same⟩ :=
            List.mem_map.mp ((passable.complete profile).mpr required)
          obtain ⟨status, exit, out, err⟩ := passable.succeeded execution there
          refine lacking ⟨execution, final_of_mem passable.once there, ?_, same, ?_, ?_⟩
          · exact same ▸ required
          · simp [exitedWell, status, exit]
          · simp [truncatedOutput, out, err]
    | modelFailure =>
        have proposed := passable.proposed
        rw [show analysis.decision = .failed from applies] at proposed
        cases proposed
    | lowConfidence => exact not_lt.mpr passable.confident applies
  · rintro ⟨none, clean⟩
    have once : (executions.map fun execution => execution.profileId).Nodup := by
      by_contra twice
      exact none .duplicateTest twice
    have inside : ∀ execution ∈ executions, execution.profileId ∈ request.requiredTestProfiles := by
      intro execution among
      by_contra outside
      exact none .missingTest (.inr ⟨execution, among, outside⟩)
    constructor
    · exact once
    · intro profile
      constructor
      · intro known
        obtain ⟨execution, among, rfl⟩ := List.mem_map.mp known
        exact inside execution among
      · intro required
        by_contra unknown
        refine none .missingTest (.inl ⟨profile, required, fun execution among same => unknown ?_⟩)
        exact List.mem_map.mpr ⟨execution, among, same⟩
    · intro execution among
      have last := final_of_mem once among
      have well : exitedWell execution = true := by
        by_contra failed
        exact none .failedTest ⟨execution, last, inside execution among, by simpa using failed⟩
      have whole : truncatedOutput execution = false := by
        by_contra cut
        exact none .truncatedTest ⟨execution, last, inside execution among, by simpa using cut⟩
      simp only [exitedWell, decide_eq_true_eq] at well
      simp only [truncatedOutput, Bool.or_eq_false_iff] at whole
      exact ⟨well.1, well.2, whole⟩
    · intro check among
      have passed : failedCheck check = false := by
        by_contra failed
        exact none .failedExistingCheck ⟨check, among, by simpa using failed⟩
      simpa [failedCheck] using passed
    · by_contra disordered
      exact none .unverifiedCriterion (.inl disordered)
    · intro item among
      refine ⟨?_, ?_, ?_⟩
      · by_contra status
        exact none .unverifiedCriterion (.inr ⟨item, among, .inl status⟩)
      · intro bare
        exact none .unverifiedCriterion (.inr ⟨item, among, .inr (.inl bare)⟩)
      · intro profile evident
        by_contra outside
        refine none .unverifiedCriterion
          (.inr ⟨item, among, .inr (.inr ⟨profile, evident, ?_⟩)⟩)
        rintro ⟨execution, _, required, rfl, _⟩
        exact outside required
    · cases proposed : analysis.decision with
      | passed => rfl
      | failed => exact absurd proposed (none .modelFailure)
    · by_contra low
      exact none .lowConfidence (not_le.mp low)
    · exact clean

end Codes

section Redaction

variable (casefold : PyStr → PyStr) (sources markers : List PyStr)

theorem redactCriterion_ok (criterion : QACriterionAssessment) :
    ∃ redacted, redactCriterion casefold sources markers criterion = .ok redacted ∧
      redacted.criterionIndex = criterion.criterionIndex ∧ redacted.status = criterion.status ∧
      redacted.evidenceProfiles = criterion.evidenceProfiles := by
  have valid := criterion.valid
  simp only [AssessmentFields.check, Bool.and_eq_true] at valid
  have rationale : boundedText 4096 (redactText casefold sources markers
      (.ofString "Criterion rationale redacted due to source evidence.") criterion.rationale) =
        true :=
    redactText_either (fun text => boundedText 4096 text = true)
      (by rw [PyStr.ofString_ofList]; decide) valid.1.1.2
  have fields : AssessmentFields.check { criterion.toAssessmentFields with
      rationale := redactText casefold sources markers
        (.ofString "Criterion rationale redacted due to source evidence.") criterion.rationale } =
      true := by
    simp only [AssessmentFields.check, Bool.and_eq_true]
    exact ⟨⟨⟨valid.1.1.1, rationale⟩, valid.1.2⟩, valid.2⟩
  exact ⟨⟨_, fields⟩, dif_pos fields, rfl, rfl, rfl⟩

theorem redactFinding_ok (finding : QAFinding) :
    ∃ redacted, redactFinding casefold sources markers finding = .ok redacted ∧
      redacted.severity = finding.severity := by
  have valid := finding.valid
  simp only [FindingFields.check, Bool.and_eq_true] at valid
  obtain ⟨⟨⟨⟨⟨category, length⟩, steps⟩, expected⟩, actual⟩, path⟩ := valid
  have fields : (redactedFields casefold sources markers finding).check = true := by
    simp only [FindingFields.check, redactedFields, Bool.and_eq_true, List.length_map]
    refine ⟨⟨⟨⟨⟨?_, length⟩, ?_⟩, ?_⟩, ?_⟩, ?_⟩
    · exact redactText_either (fun text => identifierText true text = true)
        (by rw [PyStr.ofString_ofList]; decide) category
    · rw [List.all_map, List.all_eq_true]
      intro step among
      exact redactText_either (fun text => boundedText 1024 text = true)
        (by rw [PyStr.ofString_ofList]; decide) (List.all_eq_true.mp steps step among)
    · exact redactText_either (fun text => boundedText 4096 text = true)
        (by rw [PyStr.ofString_ofList]; decide) expected
    · exact redactText_either (fun text => boundedText 4096 text = true)
        (by rw [PyStr.ofString_ofList]; decide) actual
    · split
      · rfl
      · exact path
  exact ⟨⟨_, fields⟩, dif_pos fields, rfl⟩

theorem redactRecommendation_ok (recommendation : QATestRecommendation) :
    ∃ redacted, redactRecommendation casefold sources markers recommendation = .ok redacted ∧
      redacted.criterionIndices = recommendation.criterionIndices := by
  have valid := recommendation.valid
  simp only [RecommendationFields.check, Bool.and_eq_true] at valid
  obtain ⟨⟨⟨title, rationale⟩, indices⟩, bounded⟩ := valid
  have fields : RecommendationFields.check
      { title := redactText casefold sources markers (.ofString "Test recommendation redacted")
          recommendation.title
        rationale := redactText casefold sources markers
          (.ofString "Test recommendation rationale redacted due to source evidence.")
          recommendation.rationale
        criterionIndices := recommendation.criterionIndices } = true := by
    simp only [RecommendationFields.check, Bool.and_eq_true]
    refine ⟨⟨⟨?_, ?_⟩, indices⟩, bounded⟩
    · exact redactText_either (fun text => boundedText 255 text = true)
        (by rw [PyStr.ofString_ofList]; decide) title
    · exact redactText_either (fun text => boundedText 4096 text = true)
        (by rw [PyStr.ofString_ofList]; decide) rationale
  exact ⟨⟨_, fields⟩, dif_pos fields, rfl⟩

end Redaction

section Tests

variable {request : QARequest} {executions : List QATestExecution}

theorem profileEvidence_valid (indexed : Dict CommandProfileId QATestExecution)
    {profile : CommandProfileId} (test : testProfile profile = true) :
    (profileEvidence indexed profile).toQATestMetadata.check = true := by
  unfold profileEvidence
  cases indexed.get profile with
  | none =>
      simp [missingEvidence, QATestMetadata.check, test, expectedStatus]
  | some execution => exact execution.valid

theorem publicTestEvidence_ok : ∃ tests, publicTestEvidence request executions = .ok tests ∧
    List.Forall₂ (fun profile (test : QATestEvidence) => test.toEvidenceFields = profileEvidence
      (Dict.indexFirst (fun execution : QATestExecution => execution.profileId) executions) profile)
      request.requiredTestProfiles tests := by
  refine mapM_validates fun profile required => ?_
  have fields := profileEvidence_valid
    (Dict.indexFirst (fun execution : QATestExecution => execution.profileId) executions)
    (request.profiles_valid.2.2.2 profile required)
  exact ⟨⟨_, fields⟩, dif_pos fields, rfl⟩

theorem profileEvidence_profile (profile : CommandProfileId) :
    (profileEvidence
      (Dict.indexFirst (fun execution : QATestExecution => execution.profileId) executions)
      profile).profileId = profile := by
  unfold profileEvidence
  cases held : (Dict.indexFirst (fun execution : QATestExecution => execution.profileId)
      executions).get profile with
  | none => rfl
  | some execution => exact (Dict.indexFirst_mem held).2

theorem evidence_profiles {tests : List QATestEvidence}
    (pairs : List.Forall₂ (fun profile (test : QATestEvidence) => test.toEvidenceFields =
      profileEvidence
        (Dict.indexFirst (fun execution : QATestExecution => execution.profileId) executions)
          profile)
      request.requiredTestProfiles tests) :
    tests.map (fun test => test.profileId) = request.requiredTestProfiles := by
  have same : request.requiredTestProfiles.map id = tests.map fun test => test.profileId := by
    refine related_map pairs fun profile test equal => ?_
    have own : (profileEvidence (Dict.indexFirst (fun execution : QATestExecution =>
      execution.profileId) executions) profile).profileId = profile :=
        profileEvidence_profile profile
    rw [equal]
    exact own.symm
  rw [← same, List.map_id]

/-- When the executions are complete and unrepeated, the evidence of a profile is that of its
execution. -/
theorem evidence_agrees {tests : List QATestEvidence}
    (once : (executions.map fun execution => execution.profileId).Nodup)
    (complete : ∀ profile ∈ request.requiredTestProfiles,
      profile ∈ executions.map fun execution => execution.profileId)
    (pairs : List.Forall₂ (fun profile (test : QATestEvidence) => test.toEvidenceFields =
      profileEvidence
        (Dict.indexFirst (fun execution : QATestExecution => execution.profileId) executions)
          profile)
      request.requiredTestProfiles tests) :
    List.Forall₂ (fun profile (test : QATestEvidence) => ∃ execution ∈ executions,
      execution.profileId = profile ∧ test.toEvidenceFields = executionEvidence execution)
      request.requiredTestProfiles tests := by
  revert complete pairs
  generalize request.requiredTestProfiles = required
  intro complete pairs
  revert complete
  induction pairs with
  | nil => exact fun _ => .nil
  | @cons profile test profiles tests first _ ih =>
      intro complete
      refine .cons ?_ (ih fun other among => complete other (List.mem_cons_of_mem _ among))
      have known := complete profile List.mem_cons_self
      obtain ⟨execution, held⟩ :=
        Option.isSome_iff_exists.mp ((Dict.indexLast_isSome profile).mpr known)
      rw [← Dict.indexFirst_get once] at held
      obtain ⟨among, same⟩ := Dict.indexFirst_mem held
      refine ⟨execution, among, same, ?_⟩
      rw [first, profileEvidence, held]

end Tests

theorem truthful_of (fields : ResultFields)
    (once : (fields.tests.map fun test => test.profileId).Nodup)
    (failed : fields.decision = .failed → fields.findings ≠ [])
    (passed : fields.decision = .passed → fields.findings = [] ∧
      (∀ test ∈ fields.tests, test.status = .succeeded ∧ test.truncated = false) ∧
      ∀ item ∈ fields.criteria, item.status = .passed ∧ item.evidenceProfiles ≠ [] ∧
        ∀ profile ∈ item.evidenceProfiles, profile ∈ fields.tests.map fun test => test.profileId) :
    fields.truthful = true := by
  unfold ResultFields.truthful
  cases decision : fields.decision with
  | failed =>
      have found := failed decision
      simp [once, found]
  | passed =>
      obtain ⟨clean, tests, criteria⟩ := passed decision
      simp only [Bool.and_eq_true, Bool.or_eq_true, decide_eq_true_eq, List.all_eq_true,
        Bool.not_eq_true', List.contains_iff_mem]
      refine ⟨⟨once, .inl nofun⟩, .inr ⟨⟨⟨⟨clean, ?_⟩, ?_⟩, ?_⟩, ?_⟩⟩
      · exact fun item among => (criteria item among).1
      · exact fun test among => (tests test among).1
      · exact fun test among => (tests test among).2
      · exact fun item among => (criteria item among).2

/-- The gate never raises. It passes what is passable, with the evidence of the executions it
judged, and a failure publishes one finding for each blocker that applies, after as many findings of
the model as fit. -/
theorem qa_gate (casefold : PyStr → PyStr) (request : QARequest) (executions : List QATestExecution)
    (analysis : QAAnalysis) :
    ∃ result, buildQaResult casefold request executions analysis = .ok result ∧
      (result.decision = .passed ↔ Passable request executions analysis) ∧
      result.findings.length ≤ 64 ∧
      (∃ codes : List BlockerCode, ∃ proposed blockers : List QAFinding,
        codes.Nodup ∧ (∀ code, code ∈ codes ↔ Applies request executions analysis code) ∧
          proposed.length = analysis.findings.length ∧
          blockers.map QAFinding.toFindingFields = codes.map published ∧
          result.findings = proposed.take (64 - codes.length) ++ blockers) ∧
      Function.Injective published ∧
      (result.decision = .passed → List.Forall₂ (fun profile (test : QATestEvidence) =>
        ∃ execution ∈ executions, execution.profileId = profile ∧
          test.toEvidenceFields = executionEvidence execution)
        request.requiredTestProfiles result.tests) := by
  have mem : ∀ code, code ∈ deterministicBlockerCodes request executions analysis ↔
      Applies request executions analysis code := mem_deterministicBlockerCodes
  obtain ⟨unique, few⟩ : (deterministicBlockerCodes request executions analysis).Nodup ∧
    (deterministicBlockerCodes request executions analysis).length ≤ 9 :=
      deterministicBlockerCodes_few
  revert mem unique few
  unfold buildQaResult
  generalize deterministicBlockerCodes request executions analysis = codes
  intro mem unique few
  let sources := canonicalTextEvidence request executions
  let markers := obviousSecretMarkers casefold sources
  obtain ⟨criteria, criteriaRun, criteriaPairs⟩ : ∃ criteria,
      analysis.criteria.mapM (redactCriterion casefold sources markers) = .ok criteria ∧
        List.Forall₂ (fun criterion redacted : QACriterionAssessment =>
          redacted.criterionIndex = criterion.criterionIndex ∧ redacted.status = criterion.status ∧
            redacted.evidenceProfiles = criterion.evidenceProfiles) analysis.criteria criteria :=
    mapM_validates fun criterion _ => redactCriterion_ok casefold sources markers criterion
  obtain ⟨proposed, findingsRun, findingsPairs⟩ : ∃ proposed,
      analysis.findings.mapM (redactFinding casefold sources markers) = .ok proposed ∧
        List.Forall₂ (fun finding redacted : QAFinding => redacted.severity = finding.severity)
          analysis.findings proposed :=
    mapM_validates fun finding _ => redactFinding_ok casefold sources markers finding
  obtain ⟨recommendations, recommendationsRun, recommendationsPairs⟩ : ∃ recommendations,
      analysis.recommendations.mapM (redactRecommendation casefold sources markers) =
        .ok recommendations ∧
        List.Forall₂ (fun recommendation redacted : QATestRecommendation =>
          redacted.criterionIndices = recommendation.criterionIndices)
          analysis.recommendations recommendations :=
    mapM_validates fun recommendation _ =>
      redactRecommendation_ok casefold sources markers recommendation
  obtain ⟨tests, testsRun, testsPairs⟩ :
    ∃ tests, publicTestEvidence request executions = .ok tests ∧
      _ := publicTestEvidence_ok
  let decision : QADecision := if codes ≠ [] ∨ analysis.findings ≠ [] then .failed else .passed
  have same : proposed.length = analysis.findings.length := findingsPairs.length_eq.symm
  have sizes := analysis.valid
  simp only [QAAssessmentSet.check, Bool.and_eq_true, decide_eq_true_eq] at sizes
  obtain ⟨⟨⟨some, few16, few64, few32⟩, ordered⟩, covered⟩ := sizes
  let findings := appendBlockers proposed (codes.map gateFinding)
  have kept : findings = proposed.take (64 - codes.length) ++ codes.map gateFinding := by
    have all : (codes.map gateFinding).take 64 = codes.map gateFinding :=
      List.take_of_length_le (by rw [List.length_map]; omega)
    show appendBlockers proposed (codes.map gateFinding) = _
    unfold appendBlockers
    dsimp only
    rw [all, List.length_map]
  have length : findings.length = min (64 - codes.length) proposed.length + codes.length := by
    rw [kept, List.length_append, List.length_take, List.length_map]
  have passes : decision = .passed ↔ Passable request executions analysis := by
    have empty : codes = [] ↔ ∀ code, ¬ Applies request executions analysis code := by
      rw [List.eq_nil_iff_forall_not_mem]
      exact forall_congr' fun code => not_congr (mem code)
    rw [passable_iff, ← empty]
    show (if codes ≠ [] ∨ analysis.findings ≠ [] then QADecision.failed else .passed) = .passed ↔ _
    by_cases blocked : codes ≠ [] ∨ analysis.findings ≠ []
    · rw [if_pos blocked]
      simp only [reduceCtorEq, false_iff, not_and_or]
      exact blocked
    · rw [if_neg blocked]
      simp only [not_or, not_not] at blocked
      simp [blocked]
  have profiles : tests.map (fun test => test.profileId) = request.requiredTestProfiles :=
    evidence_profiles testsPairs
  have agrees : decision = .passed → List.Forall₂ (fun profile (test : QATestEvidence) =>
      ∃ execution ∈ executions, execution.profileId = profile ∧
        test.toEvidenceFields = executionEvidence execution) request.requiredTestProfiles
          tests := by
    intro passed
    have passable := passes.mp passed
    exact evidence_agrees passable.once (fun profile => (passable.complete profile).mpr) testsPairs
  let fields : ResultFields :=
    { criteria := criteria
      findings := findings
      recommendations := recommendations
      decision := decision
      tests := tests
      rationale := redactText casefold sources markers
        (.ofString "QA rationale redacted because it echoed source evidence.") analysis.rationale
      confidence := analysis.confidence
      correlationId := request.correlationId }
  have set : fields.toQAAssessmentSet.check = true := by
    have indices : analysis.criteria.map (fun item => item.criterionIndex) =
        criteria.map fun item => item.criterionIndex :=
      related_map criteriaPairs fun _ _ pair => pair.1.symm
    have criteriaLength : analysis.criteria.length = criteria.length := criteriaPairs.length_eq
    have recommendationsLength : analysis.recommendations.length = recommendations.length :=
      recommendationsPairs.length_eq
    simp only [QAAssessmentSet.check, Bool.and_eq_true, decide_eq_true_eq]
    refine ⟨⟨⟨?_, ?_, ?_, ?_⟩, ?_⟩, ?_⟩
    · exact criteriaLength ▸ some
    · exact criteriaLength ▸ few16
    · show findings.length ≤ 64
      omega
    · exact recommendationsLength ▸ few32
    · show criteria.map (fun item => item.criterionIndex) = List.range' 1 criteria.length
      rw [← indices, ← criteriaLength, ordered]
    · rw [List.all_eq_true]
      intro recommendation among
      obtain ⟨original, there, equal⟩ := related_mem recommendationsPairs among
      show recommendation.criterionIndices.all (fun index =>
        (criteria.map fun item => item.criterionIndex).contains index) = true
      rw [equal, ← indices]
      exact List.all_eq_true.mp covered original there
  have truthful : fields.truthful = true := by
    refine truthful_of fields ?_ ?_ ?_
    · show (tests.map fun test => test.profileId).Nodup
      rw [profiles]
      exact request.profiles_valid.2.2.1
    · intro failed empty
      have blocked : codes ≠ [] ∨ analysis.findings ≠ [] := by
        by_contra open_
        rw [show fields.decision = .passed from if_neg open_] at failed
        cases failed
      have none : findings.length = 0 := congrArg List.length empty
      rcases blocked with coded | found
      · have positive := List.length_pos_iff.mpr coded
        omega
      · have positive := List.length_pos_iff.mpr found
        omega
    · intro passed
      have passable := passes.mp passed
      refine ⟨?_, ?_, ?_⟩
      · have none : codes = [] := by
          rw [List.eq_nil_iff_forall_not_mem]
          exact fun code among => (passable_iff.mp passable).1 code ((mem code).mp among)
        show findings = []
        rw [← List.length_eq_zero_iff, length, same, none, passable.clean]
        rfl
      · intro test among
        obtain ⟨profile, _, execution, there, _, equal⟩ := related_mem (agrees passed) among
        obtain ⟨status, _, out, err⟩ := passable.succeeded execution there
        rw [equal]
        simp [executionEvidence, status, out, err]
      · intro item among
        obtain ⟨original, there, _, status, evidence⟩ := related_mem criteriaPairs among
        rw [status, evidence]
        show _ ∧ _ ∧ ∀ profile ∈ original.evidenceProfiles,
          profile ∈ tests.map fun test => test.profileId
        rw [profiles]
        exact passable.verified original there
  have valid : fields.check = true := by
    have tested : tests.length = request.requiredTestProfiles.length := by
      rw [← profiles, List.length_map]
    have bounds := request.profiles_valid
    have rationale : boundedText 16384 fields.rationale = true :=
      redactText_either (fun text => boundedText 16384 text = true) (by decide)
        analysis.rationale_valid
    simp only [ResultFields.check, Bool.and_eq_true, decide_eq_true_eq]
    refine ⟨⟨⟨set, ?_⟩, rationale⟩, truthful⟩
    show 1 ≤ tests.length ∧ tests.length ≤ 3
    omega
  refine ⟨⟨fields, valid⟩, ?_, passes, ?_, ⟨codes, proposed, _, unique, mem, same,
    findings_published codes, kept⟩, published_injective, agrees⟩
  · dsimp only [Bind.bind, Except.bind]
    rw [criteriaRun]
    dsimp only
    rw [findingsRun]
    dsimp only
    rw [blockers_ok]
    dsimp only
    rw [recommendationsRun]
    dsimp only
    rw [testsRun]
    exact dif_pos valid
  · show findings.length ≤ 64
    omega

end SynapseOS.QA
