import SynapseOS.Lib.Dict
import SynapseOS.Security.Decision
import SynapseOS.Security.Sanitized

/-! The gate blocks exactly on deterministic vetoes, and no order or excess of findings hides
one. -/

namespace SynapseOS.Security

open Agents Execution

theorem reason_bounded (reason : SecurityReason) : boundedText 1024 reason.text = true := by
  cases reason <;>
  · dsimp only [SecurityReason.text]
    rw [PyStr.ofString_ofList]
    decide

theorem validate_ok {fields : FindingFields} (valid : fields.check = true) :
    fields.validate = .ok ⟨fields, valid⟩ := dif_pos valid

theorem check_suspected {fields : FindingFields} (valid : fields.check = true) :
    ({ fields with confirmation := .suspected } : FindingFields).check = true := valid

section Veto

/-- A confirmed finding of high impact. -/
def Veto (finding : SecurityFinding) : Prop := isVeto finding.toFindingFields = true

theorem suspected_harmless {fields : FindingFields} (suspected : fields.confirmation = .suspected) :
    isVeto fields = false := by
  unfold isVeto
  rw [suspected]
  exact decide_eq_false fun both => by cases both.1

theorem rank_small (severity : SecuritySeverity) : severity.rank ≤ 4 := by
  cases severity <;> decide

theorem veto_rank {first second : SecurityFinding} (veto : Veto first)
    (ranked : sortRank first ≤ sortRank second) : Veto second := by
  unfold Veto at veto ⊢
  have small := rank_small second.severity
  unfold sortRank at ranked
  rw [if_pos veto] at ranked
  by_contra harmless
  rw [if_neg harmless] at ranked
  have impact := of_decide_eq_true veto
  rcases impact.2 with high | critical
  · rw [high] at ranked
    have three : SecuritySeverity.high.rank = 3 := rfl
    omega
  · rw [critical] at ranked
    have four : SecuritySeverity.critical.rank = 4 := rfl
    omega

/-- A veto is only left out for other vetoes. -/
theorem retained_splits (findings : List SecurityFinding) :
    ∃ dropped, findings.Perm (retained findings ++ dropped) ∧
      (dropped = [] ↔ findings.length ≤ 64) ∧
      ((∃ finding ∈ dropped, Veto finding) → ∀ finding ∈ retained findings, Veto finding) := by
  obtain ⟨dropped, perm, few, order⟩ := highest_splits 64 sortRank findings
  refine ⟨dropped, perm, few, ?_⟩
  rintro ⟨lost, there, veto⟩ finding among
  exact veto_rank veto (order finding among lost there)

theorem retained_veto (findings : List SecurityFinding) :
    (∃ finding ∈ retained findings, Veto finding) ↔ ∃ finding ∈ findings, Veto finding := by
  obtain ⟨dropped, perm, few, keeps⟩ := retained_splits findings
  constructor
  · rintro ⟨finding, among, veto⟩
    exact ⟨finding, perm.mem_iff.mpr (List.mem_append_left _ among), veto⟩
  · rintro ⟨finding, among, veto⟩
    rcases List.mem_append.mp (perm.mem_iff.mp among) with kept | lost
    · exact ⟨finding, kept, veto⟩
    · have many : ¬ findings.length ≤ 64 := fun short => by
        rw [few.mpr short] at lost
        cases lost
      have size : (retained findings).length = min 64 findings.length := highest_length
      obtain ⟨other, among⟩ := List.exists_mem_of_length_pos (l := retained findings) (by omega)
      exact ⟨other, among, keeps ⟨finding, lost, veto⟩ other among⟩

end Veto

section Publication

variable {alphanumeric : Nat → Bool} {sources : List PyStr}

theorem publicText_either (holds : PyStr → Prop) {value replacement : PyStr}
    (replaced : holds replacement) (kept : holds value) :
    holds (publicText alphanumeric value sources replacement) := by
  unfold publicText
  split
  · exact replaced
  · exact kept

theorem publicText_identifier {value replacement : PyStr}
    (replaced : identifierText true replacement = true) (kept : identifierText true value = true) :
    identifierText true (publicText alphanumeric value sources replacement) = true :=
  publicText_either (fun text => identifierText true text = true) replaced kept

theorem publicText_bounded {value replacement : PyStr}
    (replaced : boundedText 4096 replacement = true) (kept : boundedText 4096 value = true) :
    boundedText 4096 (publicText alphanumeric value sources replacement) = true :=
  publicText_either (fun text => boundedText 4096 text = true) replaced kept

theorem location_filtered {location : SecurityLocation} (valid : location.check = true)
    (keep : PyStr → Bool) :
    ({ path := location.path.filter keep
       lineStart := if (location.path.filter keep).isSome = true then location.lineStart else none
       lineEnd := if (location.path.filter keep).isSome = true then location.lineEnd else none }
      : SecurityLocation).check = true := by
  cases filtered : location.path.filter keep with
  | none => rfl
  | some path =>
      have same : location.path = some path := (Option.filter_eq_some_iff.mp filtered).1
      rw [Option.isSome_some, if_pos rfl, if_pos rfl]
      unfold SecurityLocation.check at valid ⊢
      rw [same] at valid
      exact valid

theorem publicFinding_valid (finding : SecurityFinding) :
    (publicFindingFields alphanumeric sources finding).check = true := by
  have valid := finding.valid
  simp only [FindingFields.check, Bool.and_eq_true, decide_eq_true_eq, List.all_eq_true] at valid
  obtain ⟨⟨⟨⟨⟨located, category⟩, explanation⟩, remediation⟩, some_, few, unique⟩, references⟩ :=
    valid
  have kept := List.exists_mem_of_length_pos some_
  obtain ⟨held, among⟩ := kept
  simp only [FindingFields.check, Bool.and_eq_true, decide_eq_true_eq, List.all_eq_true]
  let published := finding.evidence.map fun ref : SecurityEvidenceReference =>
    (⟨publicText alphanumeric ref.sourceId sources (.ofString "redacted-source"),
      publicText alphanumeric ref.evidenceId sources (.ofString "redacted-evidence")⟩ :
        SecurityEvidenceReference)
  obtain ⟨distinct, fewer⟩ := Dict.fromKeys_unique published
  have size : published.length = finding.evidence.length := List.length_map _
  have left : 1 ≤ published.eraseDups.length := by
    have member := List.mem_eraseDups.mpr (List.mem_map_of_mem among :
      _ ∈ published)
    exact List.length_pos_of_mem member
  refine ⟨⟨⟨⟨⟨location_filtered located _, ?_⟩, ?_⟩, ?_⟩, left, fewer.trans (size.trans_le few),
    distinct⟩, ?_⟩
  · exact publicText_identifier (by rw [PyStr.ofString_ofList]; decide) category
  · exact publicText_bounded (by rw [PyStr.ofString_ofList]; decide) explanation
  · exact publicText_bounded (by rw [PyStr.ofString_ofList]; decide) remediation
  · intro reference there
    obtain ⟨own, held, rfl⟩ := List.mem_map.mp (List.mem_eraseDups.mp there)
    have both := Bool.and_eq_true_iff.mp (references own held)
    exact Bool.and_eq_true_iff.mpr
      ⟨publicText_identifier (by rw [PyStr.ofString_ofList]; decide) both.1,
      publicText_identifier (by rw [PyStr.ofString_ofList]; decide) both.2⟩

theorem published_ok (alphanumeric : Nat → Bool) (sources : List PyStr)
    (findings : List SecurityFinding) :
    ∃ published, findings.mapM (publicFinding alphanumeric sources) = .ok published ∧
      List.Forall₂ (fun finding result : SecurityFinding =>
        result.toFindingFields = publicFindingFields alphanumeric sources finding)
          findings published :=
  mapM_validates fun finding _ =>
    ⟨_, validate_ok (publicFinding_valid finding), rfl⟩

end Publication

section Collection

variable {request : SecurityRequest} {source fresh : SanitizedSecuritySource}
  {report : SecurityScannerReport} {analysis : SecurityAnalysis} {trust : List PyStr}

theorem scannerFields_valid (item : SecurityFinding) :
    (scannerFindingFields request report trust item).check = true := by
  unfold scannerFindingFields
  split
  · exact item.valid
  · exact check_suspected item.valid

theorem knownReference_mem {findings : List SecurityFinding} {evidenceId : PyStr}
    {reference : SecurityEvidenceReference}
    (known : knownReference findings evidenceId = some reference) :
    reference.evidenceId = evidenceId ∧ ∃ finding ∈ findings, reference ∈ finding.evidence := by
  unfold knownReference at known
  split at known
  · rename_i only single
    cases known
    have among : reference ∈ candidates findings evidenceId := by
      rw [single]
      exact List.mem_singleton_self _
    have filtered := List.mem_filter.mp (List.mem_eraseDups.mp among)
    exact ⟨of_decide_eq_true filtered.2, List.mem_flatMap.mp filtered.1⟩
  · cases known

theorem resolveReference_valid {findings : List SecurityFinding} {evidenceId : PyStr}
    (valid : identifierText true evidenceId = true) :
    (resolveReference findings evidenceId).evidenceId = evidenceId ∧
      (resolveReference findings evidenceId).check = true := by
  unfold resolveReference
  cases known : knownReference findings evidenceId with
  | none =>
      have provider : identifierText true (.ofString "provider") = true := by decide
      refine ⟨rfl, ?_⟩
      rw [Option.getD_none, SecurityEvidenceReference.check, valid, Bool.and_true]
      exact provider
  | some reference =>
      obtain ⟨same, finding, _, among⟩ := knownReference_mem known
      have checked := finding.valid
      simp only [FindingFields.check, Bool.and_eq_true, List.all_eq_true] at checked
      exact ⟨same, checked.2 reference among⟩

theorem proposedFields_valid (findings : List SecurityFinding)
    (proposed : SecurityAnalysisFinding) : (proposedFields findings proposed).check = true := by
  obtain ⟨some_, few, unique, valid⟩ := proposed.evidence_valid
  have ids : (proposed.evidenceIds.map (resolveReference findings)).map
      SecurityEvidenceReference.evidenceId = proposed.evidenceIds := by
    rw [List.map_map]
    refine (List.map_congr_left fun evidenceId among => ?_).trans (List.map_id _)
    exact (resolveReference_valid (valid evidenceId among)).1
  have distinct : (proposed.evidenceIds.map (resolveReference findings)).Nodup := by
    apply List.Nodup.of_map SecurityEvidenceReference.evidenceId
    rw [ids]
    exact unique
  simp only [FindingFields.check, proposedFields, proposed.location_valid, proposed.category_valid,
    proposed.explanation_valid, proposed.remediation_valid, Bool.true_and, Bool.and_eq_true,
    decide_eq_true_eq, List.length_map, List.all_eq_true]
  refine ⟨⟨some_, few, distinct⟩, fun reference among => ?_⟩
  obtain ⟨evidenceId, own, rfl⟩ := List.mem_map.mp among
  exact (resolveReference_valid (valid evidenceId own)).2

structure Collected (request : SecurityRequest) (source fresh : SanitizedSecuritySource)
    (report : SecurityScannerReport) (analysis : SecurityAnalysis) (trust : List PyStr)
    (evidence : Evidence) : Prop where
  redaction : evidence.redaction = fresh.findings
  scanner : List.Forall₂ (fun item result : SecurityFinding =>
    result.toFindingFields = scannerFindingFields request report trust item)
    report.findings evidence.scanner
  proposed : List.Forall₂ (fun (item : SecurityAnalysisFinding) (result : SecurityFinding) =>
    result.toFindingFields = proposedFields (evidence.redaction ++ evidence.scanner) item)
    analysis.findings evidence.proposed
  reasons : evidence.reasons = evidenceReasons request report trust source fresh analysis ++
    scannerReasons request report trust ++
    analysis.findings.flatMap
      (proposedReasons request (evidence.redaction ++ evidence.scanner)) ++
    itemIf (decide (64 < evidence.findings.length)) .tooManyFindings

theorem revalidated (findings : List SecurityFinding) :
    (findings.mapM fun item => item.toFindingFields.validate) = .ok findings := by
  induction findings with
  | nil => rfl
  | cons item rest ih =>
      rw [List.mapM_cons, validate_ok item.valid, ih]
      rfl

theorem collect_ok (request : SecurityRequest) (source fresh : SanitizedSecuritySource)
    (report : SecurityScannerReport) (analysis : SecurityAnalysis) (trust : List PyStr) :
    ∃ evidence, collectEvidence request source fresh report analysis trust = .ok evidence ∧
      Collected request source fresh report analysis trust evidence := by
  have first := revalidated fresh.findings
  obtain ⟨scanner, second, scanned⟩ : ∃ scanner : List SecurityFinding,
      (report.findings.mapM fun item =>
        (scannerFindingFields request report trust item).validate) = .ok scanner ∧
      List.Forall₂ (fun item result : SecurityFinding =>
        result.toFindingFields = scannerFindingFields request report trust item)
        report.findings scanner :=
    mapM_validates fun item _ => ⟨_, validate_ok (scannerFields_valid item), rfl⟩
  obtain ⟨proposed, third, suggested⟩ : ∃ proposed : List SecurityFinding,
      (analysis.findings.mapM fun item =>
        (proposedFields (fresh.findings ++ scanner) item).validate) = .ok proposed ∧
      List.Forall₂ (fun (item : SecurityAnalysisFinding) (result : SecurityFinding) =>
        result.toFindingFields = proposedFields (fresh.findings ++ scanner) item)
        analysis.findings proposed :=
    mapM_validates fun item _ => ⟨_, validate_ok (proposedFields_valid _ item), rfl⟩
  unfold collectEvidence
  rw [first]
  simp only [second, third, bind, Except.bind]
  exact ⟨_, rfl, rfl, scanned, suggested, rfl⟩

end Collection

section Decision

variable {request : SecurityRequest} {source fresh : SanitizedSecuritySource}
  {report : SecurityScannerReport} {analysis : SecurityAnalysis} {trust : List PyStr}
  {evidence : Evidence}

/-- A confirmed finding of high impact that does not come from the model: of the fresh redaction, or
of a trusted suite, in scope and with only its own evidence. -/
def DeterministicVeto (request : SecurityRequest) (fresh : SanitizedSecuritySource)
    (report : SecurityScannerReport) (trust : List PyStr) : Prop :=
  (∃ finding ∈ fresh.findings, Veto finding) ∨
    ∃ item ∈ report.findings, report.suiteId ∈ trust ∧ report.suiteId ≠ secretPatternSourceId ∧
      validLocation request item.toSecurityLocation = true ∧
      (∀ reference ∈ item.evidence, reference.sourceId = report.suiteId) ∧ Veto item

structure Unquestioned (request : SecurityRequest) (source fresh : SanitizedSecuritySource)
    (report : SecurityScannerReport) (analysis : SecurityAnalysis) (trust : List PyStr) : Prop where
  sanitized : source = fresh
  whole : source.complete = true ∧ fresh.complete = true
  scanned : report.complete = true ∧ report.truncated = false
  trusted : report.suiteId ∈ trust ∧ report.suiteId ≠ secretPatternSourceId
  tested : ∀ test ∈ request.tests, test.status = .succeeded ∧ test.exitCode = 0 ∧
    test.truncated = false
  proposed : analysis.decision = .pass
  confident : passConfidenceThreshold ≤ analysis.confidence.val
  certain : analysis.uncertaintyReasons = []

theorem trustedFinding_iff {item : SecurityFinding} :
    trustedFinding request report trust item = true ↔
      report.suiteId ∈ trust ∧ report.suiteId ≠ secretPatternSourceId ∧
        validLocation request item.toSecurityLocation = true ∧
        ∀ reference ∈ item.evidence, reference.sourceId = report.suiteId := by
  simp only [trustedFinding, scannerTrusted, Bool.and_eq_true, List.contains_iff_mem,
    decide_eq_true_eq, List.all_eq_true, and_assoc]

theorem proposed_suspected
    (collected : Collected request source fresh report analysis trust evidence)
    {finding : SecurityFinding} (among : finding ∈ evidence.proposed) :
    finding.confirmation = .suspected := by
  obtain ⟨item, _, same⟩ := related_mem collected.proposed among
  rw [same]
  rfl

theorem scanner_veto {items results : List SecurityFinding}
    (pairs : List.Forall₂ (fun item result : SecurityFinding =>
      result.toFindingFields = scannerFindingFields request report trust item) items results) :
    (∃ finding ∈ results, Veto finding) ↔
      ∃ item ∈ items, trustedFinding request report trust item = true ∧ Veto item := by
  induction pairs with
  | nil => simp
  | @cons item result _ _ first _ ih =>
      have here : Veto result ↔ trustedFinding request report trust item = true ∧ Veto item := by
        unfold Veto
        rw [first, scannerFindingFields]
        split
        · rename_i trusted
          exact ⟨fun veto => ⟨trusted, veto⟩, fun both => both.2⟩
        · rename_i untrusted
          rw [suspected_harmless rfl]
          exact ⟨fun veto => (by cases veto), fun both => absurd both.1 untrusted⟩
      simp only [List.mem_cons, exists_eq_or_imp, here, ih]

theorem blocked_iff (collected : Collected request source fresh report analysis trust evidence) :
    evidence.blocked = true ↔ DeterministicVeto request fresh report trust := by
  have scanned := scanner_veto collected.scanner
  have harmless : ¬ ∃ finding ∈ evidence.proposed, Veto finding := by
    rintro ⟨finding, among, veto⟩
    unfold Veto at veto
    rw [suspected_harmless (proposed_suspected collected among)] at veto
    cases veto
  unfold Evidence.blocked Evidence.findings DeterministicVeto
  rw [List.any_eq_true, ← collected.redaction]
  constructor
  · rintro ⟨finding, among, veto⟩
    rcases List.mem_append.mp among with deterministic | proposed
    · rcases List.mem_append.mp deterministic with fresh | scanner
      · exact .inl ⟨finding, fresh, veto⟩
      · obtain ⟨item, there, trusted, veto⟩ := scanned.mp ⟨finding, scanner, veto⟩
        obtain ⟨known, other, located, own⟩ := trustedFinding_iff.mp trusted
        exact .inr ⟨item, there, known, other, located, own, veto⟩
    · exact absurd ⟨finding, proposed, veto⟩ harmless
  · rintro (⟨finding, among, veto⟩ | ⟨item, among, known, other, located, own, veto⟩)
    · exact ⟨finding, List.mem_append_left _ (List.mem_append_left _ among), veto⟩
    · obtain ⟨finding, there, veto⟩ :=
        scanned.mpr ⟨item, among, trustedFinding_iff.mpr ⟨known, other, located, own⟩, veto⟩
      exact ⟨finding, List.mem_append_left _ (List.mem_append_right _ there), veto⟩

theorem evidenceReasons_nil :
    evidenceReasons request report trust source fresh analysis = [] ↔
      Unquestioned request source fresh report analysis trust := by
  unfold evidenceReasons
  simp only [List.append_eq_nil_iff, itemIf_nil, Bool.or_eq_false_iff, Bool.not_eq_false',
    decide_eq_false_iff_not, not_not, List.any_eq_false, not_lt]
  constructor
  · rintro ⟨⟨⟨⟨⟨⟨⟨same, whole⟩, scanned⟩, trusted⟩, tested⟩, proposed⟩, confident⟩, certain⟩
    refine ⟨same, whole, scanned, ?_, ?_, proposed, confident, certain⟩
    · simpa [scannerTrusted] using trusted
    · intro test among
      simpa [testFailed] using tested test among
  · rintro ⟨same, whole, scanned, trusted, tested, proposed, confident, certain⟩
    refine ⟨⟨⟨⟨⟨⟨⟨same, whole⟩, scanned⟩, ?_⟩, ?_⟩, proposed⟩, confident⟩, certain⟩
    · simpa [scannerTrusted] using trusted
    · intro test among
      simpa [testFailed] using tested test among

theorem findings_nil (collected : Collected request source fresh report analysis trust evidence) :
    evidence.findings = [] ↔ fresh.findings = [] ∧ report.findings = [] ∧
    analysis.findings = [] := by
  have scanner := collected.scanner.length_eq
  have proposed := collected.proposed.length_eq
  unfold Evidence.findings
  rw [List.append_eq_nil_iff, List.append_eq_nil_iff, collected.redaction, and_assoc,
    ← List.length_eq_zero_iff (l := evidence.scanner), ← scanner,
    ← List.length_eq_zero_iff (l := evidence.proposed), ← proposed, List.length_eq_zero_iff,
    List.length_eq_zero_iff]

theorem blocked_nonempty (blocked : evidence.blocked = true) : evidence.findings ≠ [] := by
  intro empty
  unfold Evidence.blocked at blocked
  rw [empty] at blocked
  cases blocked

theorem decision_clear :
    evidence.decision = .pass ↔ evidence.findings = [] ∧ evidence.reasons = [] := by
  unfold Evidence.decision
  split
  · rename_i blocked
    exact ⟨fun other => (by cases other), fun both => absurd both.1 (blocked_nonempty blocked)⟩
  · split
    · rename_i some_
      refine ⟨fun other => (by cases other), fun both => ?_⟩
      rcases some_ with findings | reasons
      · exact absurd both.1 findings
      · exact absurd both.2 reasons
    · rename_i nothing
      rw [not_or, not_not, not_not] at nothing
      exact ⟨fun _ => nothing, fun _ => rfl⟩

theorem decision_warn (warned : evidence.decision = .warn) :
    evidence.blocked = false ∧ (evidence.findings ≠ [] ∨ evidence.reasons ≠ []) := by
  unfold Evidence.decision at warned
  split at warned
  · cases warned
  · rename_i harmless
    split at warned
    · rename_i some_
      exact ⟨Bool.not_eq_true _ ▸ harmless, some_⟩
    · cases warned

/-- The result passes exactly without findings and without reasons. -/
theorem decision_pass (collected : Collected request source fresh report analysis trust evidence) :
    evidence.decision = .pass ↔
      (fresh.findings = [] ∧ report.findings = [] ∧ analysis.findings = []) ∧
        Unquestioned request source fresh report analysis trust := by
  rw [decision_clear, findings_nil collected, ← evidenceReasons_nil]
  refine and_congr_right fun empty => ?_
  have none_left := (findings_nil collected).mpr empty
  rw [collected.reasons, none_left, scannerReasons, empty.2.1, empty.2.2]
  simp [itemIf]

theorem decision_block :
    evidence.decision = .block ↔ evidence.blocked = true := by
  unfold Evidence.decision
  split
  · rename_i blocked
    exact ⟨fun _ => blocked, fun _ => rfl⟩
  · rename_i harmless
    refine ⟨fun blocked => ?_, fun blocked => absurd blocked harmless⟩
    split at blocked <;> cases blocked

def PublishedAs (alphanumeric : Nat → Bool) (request : SecurityRequest)
    (finding result : SecurityFinding) : Prop :=
  result.toFindingFields =
    publicFindingFields alphanumeric (sensitiveSourceText alphanumeric request) finding

theorem published_veto {alphanumeric : Nat → Bool} {kept results : List SecurityFinding}
    (pairs : List.Forall₂ (PublishedAs alphanumeric request) kept results) :
    (∃ result ∈ results, Veto result) ↔ ∃ finding ∈ kept, Veto finding := by
  induction pairs with
  | nil => simp
  | @cons finding result _ _ first _ ih =>
      have here : Veto result ↔ Veto finding := by
        unfold Veto
        rw [first]
        rfl
      simp only [List.mem_cons, exists_eq_or_imp, here, ih]

theorem rationale_bounded (decision : SecurityDecision) (text : PyStr) :
    boundedText 16384 (.ofString "Deterministic Security decision: " ++ .ofString decision.value ++
      .ofString ". " ++ text.take 16000) = true := by
  have front : (PyStr.ofString "Deterministic Security decision: ").length = 33 := by decide
  have dot : (PyStr.ofString ". ").length = 2 := by decide
  have named : (PyStr.ofString decision.value).length ≤ 5 := by cases decision <;> decide
  have letter : 0x44 ∈ PyStr.ofString "Deterministic Security decision: " := by decide
  refine decide_eq_true ⟨?_, ?_, ?_⟩
  · simp only [List.length_append, front]
    omega
  · simp only [List.length_append, front, dot, List.length_take]
    omega
  · intro blank
    have all := (strip_blank _).mp blank 0x44
      (List.mem_append_left _ (List.mem_append_left _ (List.mem_append_left _ letter)))
    cases all

theorem resultFieldsFor_valid (library : RedactionLibrary) {results : List SecurityFinding}
    (collected : Collected request source fresh report analysis trust evidence)
    (pairs : List.Forall₂ (PublishedAs library.alphanumeric request) (retained evidence.findings)
      results) :
    (resultFieldsFor library request report analysis evidence results).check = true := by
  have size := pairs.length_eq
  have most : (retained evidence.findings).length = min 64 evidence.findings.length :=
    highest_length
  have vetoes : (∃ result ∈ results, Veto result) ↔ evidence.blocked = true := by
    rw [published_veto pairs, retained_veto, Evidence.blocked, List.any_eq_true]
    rfl
  have blocks : (results.any fun finding => isVeto finding.toFindingFields) = evidence.blocked := by
    rw [Bool.eq_iff_iff, List.any_eq_true]
    exact vetoes
  let reasons := ((evidence.reasons.map SecurityReason.text).eraseDups).take 16
  have known : ∀ text ∈ reasons, boundedText 1024 text = true := by
    intro text among
    obtain ⟨reason, _, rfl⟩ :=
      List.mem_map.mp (List.mem_eraseDups.mp (List.take_subset _ _ among))
    exact reason_bounded reason
  have left : evidence.reasons ≠ [] → reasons ≠ [] := by
    intro some_
    obtain ⟨reason, among⟩ := List.exists_mem_of_ne_nil _ some_
    have member := List.length_pos_of_mem
      (List.mem_eraseDups.mpr (List.mem_map_of_mem (f := SecurityReason.text) among))
    rw [← List.length_pos_iff, List.length_take]
    omega
  have summary : (resultFieldsFor library request report analysis evidence results).scanner.check =
      true := by
    have suite : identifierText true (publicText library.alphanumeric report.suiteId
        (sensitiveSourceText library.alphanumeric request) (.ofString "redacted-scanner")) = true :=
      publicText_identifier (by rw [PyStr.ofString_ofList]; decide) report.suite_valid
    simp only [resultFieldsFor, SecurityScannerSummary.check, suite, Bool.true_and]
    exact decide_eq_true ⟨report.finding_bound, report.duration_bound⟩
  have truthful : (resultFieldsFor library request report analysis evidence results).truthful =
      true := by
    simp only [ResultFields.truthful, resultFieldsFor, blocks]
    cases decided : evidence.decision with
    | block => exact decision_block.mp decided
    | pass =>
        obtain ⟨empty, clear⟩ := decision_clear.mp decided
        have unquestioned := ((decision_pass collected).mp decided).2
        have harmless : evidence.blocked = false := by
          by_contra blocked
          exact blocked_nonempty (Bool.not_eq_false _ ▸ blocked) empty
        have nothing : results = [] := by
          rw [← List.length_eq_zero_iff, ← size, most, empty]
          rfl
        simp [harmless, nothing, clear, unquestioned.scanned]
    | warn =>
        obtain ⟨harmless, findings | reasons⟩ := decision_warn decided
        · have some_ : results ≠ [] := by
            rw [← List.length_pos_iff] at findings ⊢
            omega
          simp [harmless, some_]
        · simp only [harmless, Bool.not_false, Bool.true_and]
          exact decide_eq_true (.inr (left reasons))
  have rationale := rationale_bounded evidence.decision (publicText library.alphanumeric
    analysis.rationale (sensitiveSourceText library.alphanumeric request)
    (.ofString "Source-sensitive analysis text was withheld."))
  simp only [ResultFields.check, Bool.and_eq_true, decide_eq_true_eq, List.all_eq_true]
  refine ⟨⟨⟨⟨⟨?_, summary⟩, ?_⟩, known⟩, rationale⟩, truthful⟩
  · show results.length ≤ 64
    omega
  · exact (List.length_take_le _ _)

end Decision

/-- How the result of an accepted request is made. -/
theorem gate_built (library : RedactionLibrary) {request : SecurityRequest}
    {validated : ValidatedSecurityRequest} (source : SanitizedSecuritySource)
    (report : SecurityScannerReport) (analysis : SecurityAnalysis) (trust : List PyStr)
    (accepted : validateSecurityRequest request = .ok validated) :
    ∃ fresh evidence results valid, sanitizeSecuritySource library request = .ok fresh ∧
      Collected request source fresh report analysis trust evidence ∧
      List.Forall₂ (PublishedAs library.alphanumeric request) (retained evidence.findings) results ∧
      buildSecurityResult library request source report analysis trust =
        .ok ⟨resultFieldsFor library request report analysis evidence results, valid⟩ := by
  have same : validated.request = request := by
    unfold validateSecurityRequest at accepted
    split at accepted
    · cases accepted
    · split at accepted
      · cases accepted
      · cases accepted
        rfl
  obtain ⟨fresh, sanitized⟩ := sanitizeSecuritySource_ok library request
  obtain ⟨evidence, collection, collected⟩ := collect_ok request source fresh report analysis trust
  obtain ⟨results, publication, pairs⟩ := published_ok library.alphanumeric
    (sensitiveSourceText library.alphanumeric request) (retained evidence.findings)
  have valid := resultFieldsFor_valid library collected pairs
  refine ⟨fresh, evidence, results, valid, sanitized, collected, pairs, ?_⟩
  unfold buildSecurityResult
  rw [accepted]
  simp only [same, decideSecurity, sanitized, collection, publication, bind, Except.bind,
    ResultFields.validate, dif_pos valid]

/-- For an accepted request the gate gives a result. It blocks exactly on a deterministic veto and
passes exactly when nothing speaks against it; a confirmed finding in it is never the model's, and
among too many findings only vetoes displace a veto. -/
theorem security_gate (library : RedactionLibrary) {request : SecurityRequest}
    {validated : ValidatedSecurityRequest} (source : SanitizedSecuritySource)
    (report : SecurityScannerReport) (analysis : SecurityAnalysis) (trust : List PyStr)
    (accepted : validateSecurityRequest request = .ok validated) :
    ∃ fresh evidence result, sanitizeSecuritySource library request = .ok fresh ∧
      Collected request source fresh report analysis trust evidence ∧
      buildSecurityResult library request source report analysis trust = .ok result ∧
      (result.decision = .block ↔ DeterministicVeto request fresh report trust) ∧
      (result.decision = .pass ↔
        (fresh.findings = [] ∧ report.findings = [] ∧ analysis.findings = []) ∧
          Unquestioned request source fresh report analysis trust) ∧
      (∀ finding ∈ evidence.proposed, finding.confirmation = .suspected) ∧
      (∀ published ∈ result.findings, published.confirmation = .confirmed →
        ∃ finding ∈ evidence.redaction ++ evidence.scanner,
          PublishedAs library.alphanumeric request finding published) ∧
      ∃ kept dropped, evidence.findings.Perm (kept ++ dropped) ∧
        (dropped = [] ↔ evidence.findings.length ≤ 64) ∧
        ((∃ finding ∈ dropped, Veto finding) → ∀ finding ∈ kept, Veto finding) ∧
        List.Forall₂ (PublishedAs library.alphanumeric request) kept result.findings ∧
        (DeterministicVeto request fresh report trust → ∃ finding ∈ result.findings,
          Veto finding) := by
  obtain ⟨fresh, evidence, results, valid, sanitized, collected, pairs, made⟩ :=
    gate_built library source report analysis trust accepted
  obtain ⟨dropped, perm, few, keeps⟩ := retained_splits evidence.findings
  have blocked := blocked_iff collected
  refine ⟨fresh, evidence, ⟨_, valid⟩, sanitized, collected, made, decision_block.trans blocked,
    decision_pass collected, fun finding among => proposed_suspected collected among, ?_,
    retained evidence.findings, dropped, perm, few, keeps, pairs, ?_⟩
  · intro published among confirmed
    obtain ⟨finding, kept, publishes⟩ := related_mem pairs among
    have there := perm.mem_iff.mpr (List.mem_append_left _ kept)
    rcases List.mem_append.mp there with deterministic | proposed
    · exact ⟨finding, deterministic, publishes⟩
    · have suspected : published.confirmation = finding.confirmation := by
        rw [publishes]
        rfl
      rw [suspected, proposed_suspected collected proposed] at confirmed
      cases confirmed
  · intro veto
    have merged : ∃ finding ∈ evidence.findings, Veto finding :=
      List.any_eq_true.mp (blocked.mpr veto)
    exact (published_veto pairs).mpr ((retained_veto evidence.findings).mpr merged)

section Sample

def sampleTested : QA.QAResult where
  criteria := [⟨⟨1, .passed, .ofString "covered", [.pytest]⟩, by decide⟩]
  findings := []
  recommendations := []
  decision := .passed
  tests := [⟨⟨⟨.pytest, .succeeded, 0, 0⟩, false⟩, by decide⟩]
  rationale := .ofString "tested"
  confidence := ⟨1, Tools.certain⟩
  correlationId := 1
  valid := by decide

def sampleProfile : AgentProfile where
  id := ⟨"security", by decide⟩
  role := .ofString "Security"
  status := .working
  autonomyLevel := 1
  permissionIds := [⟨"filesystem.read", by decide⟩]
  toolIds := [⟨"read_file", by decide⟩]

def sampleRequest : SecurityRequest where
  taskId := 2
  projectId := 3
  developerId := ⟨"developer", by decide⟩
  reviewerId := ⟨"reviewer", by decide⟩
  qaId := ⟨"qa", by decide⟩
  securityId := ⟨"security", by decide⟩
  profile := sampleProfile
  diff := .ofString "+x = 1"
  affectedFiles := [⟨⟨.ofString "a.py", .ofString "x = 1"⟩, by decide⟩]
  qaResult := sampleTested
  tests := sampleTested.tests
  executionContext :=
    { workspaceRoot := "/work"
      agentId := ⟨"security", by decide⟩
      agentRunId := 4
      projectId := 3
      taskId := 2
      declaredToolIds := [⟨"read_file", by decide⟩]
      correlationId := 1
      declared_bounds := by decide }
  correlationId := 1
  diff_valid := by decide
  files_valid := by decide
  bytes_valid := by decide
  independent := by decide
  passed := rfl
  tested := rfl
  correlated := ⟨rfl, rfl⟩

def sampleReport : SecurityScannerReport where
  suiteId := .ofString "suite"
  findings := []
  complete := true
  truncated := false
  durationMs := 0
  suite_valid := by decide
  finding_bound := by decide
  duration_bound := Tools.immediate

def sampleAnalysis : SecurityAnalysis where
  decision := .pass
  findings := []
  uncertaintyReasons := []
  rationale := .ofString "nothing found"
  confidence := ⟨1, Tools.certain⟩
  finding_bound := by decide
  rationale_valid := by decide

def sampleSource : SanitizedSecuritySource where
  diff := .ofString "+x = 1"
  files := [⟨⟨.ofString "a.py", .ofString "x = 1"⟩, by decide⟩]
  findings := []
  complete := true
  valid := by decide

def sampleFindingFields (severity : SecuritySeverity) : FindingFields where
  path := some (.ofString "a.py")
  lineStart := some 1
  lineEnd := some 1
  category := .ofString "injection"
  severity := severity
  explanation := .ofString "unsafe call"
  remediation := .ofString "remove it"
  confidence := ⟨1, Tools.certain⟩
  evidence := [⟨.ofString "suite", .ofString "rule-1"⟩]
  confirmation := .confirmed

def sampleMinor : SecurityFinding := ⟨sampleFindingFields .low, by decide⟩

def sampleVeto : SecurityFinding := ⟨sampleFindingFields .high, by decide⟩

def crowdedReport : SecurityScannerReport :=
  { sampleReport with
    findings := List.replicate 63 sampleMinor ++ [sampleVeto]
    finding_bound := by simp }

def sampleProposal : SecurityAnalysisFinding where
  path := none
  lineStart := none
  lineEnd := none
  category := .ofString "injection"
  severity := .critical
  explanation := .ofString "unsafe call"
  remediation := .ofString "remove it"
  confidence := ⟨1, Tools.certain⟩
  evidenceIds := [.ofString "rule-1"]
  location_valid := rfl
  category_valid := by decide
  explanation_valid := by decide
  remediation_valid := by decide
  evidence_valid := by decide

def crowdedAnalysis : SecurityAnalysis :=
  { sampleAnalysis with findings := [sampleProposal], finding_bound := by decide }

theorem sampleVeto_found (fresh : SanitizedSecuritySource) :
    DeterministicVeto sampleRequest fresh crowdedReport [.ofString "suite"] := by
  refine .inr ⟨sampleVeto, List.mem_append_right _ (List.mem_singleton_self _), ?_, ?_, ?_, ?_, ?_⟩
  · exact List.mem_singleton_self _
  · decide
  · decide
  · decide
  · show isVeto sampleVeto.toFindingFields = true
    decide

/-- Of 65 findings one is dropped, but not the one that blocks. -/
theorem security_gate_sample : ∃ result kept dropped,
    buildSecurityResult plainLibrary sampleRequest sampleSource crowdedReport crowdedAnalysis
        [.ofString "suite"] = .ok result ∧
      result.decision = .block ∧ (∃ finding ∈ result.findings, Veto finding) ∧
      dropped ≠ [] ∧
      List.Forall₂ (PublishedAs plainLibrary.alphanumeric sampleRequest) kept result.findings ∧
      65 ≤ (kept ++ dropped).length := by
  have accepted : validateSecurityRequest sampleRequest = .ok ⟨sampleRequest,
      [.filesystemRead]⟩ := by
    rfl
  obtain ⟨fresh, evidence, result, _, collected, built, blocks, _, _, _, kept, dropped, perm,
    few, _, pairs,
      vetoes⟩ :=
    security_gate plainLibrary sampleSource crowdedReport crowdedAnalysis
      [.ofString "suite"] accepted
  have many : 65 ≤ evidence.findings.length := by
    have scanned : 64 = evidence.scanner.length := collected.scanner.length_eq
    have proposed : 1 = evidence.proposed.length := collected.proposed.length_eq
    unfold Evidence.findings
    rw [List.length_append, List.length_append]
    omega
  refine ⟨result, kept, dropped, built, blocks.mpr (sampleVeto_found fresh),
    vetoes (sampleVeto_found fresh), ?_, pairs, perm.length_eq ▸ many⟩
  intro none_
  have short := few.mp none_
  omega

end Sample

end SynapseOS.Security
