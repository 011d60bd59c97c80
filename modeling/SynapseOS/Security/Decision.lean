import SynapseOS.Lib.Ranked
import SynapseOS.Lib.Rounding
import SynapseOS.Security.Redaction
import SynapseOS.Security.Validation

/-! The evidence gate of the Security Agent (`core/security/decision.py`). -/

namespace SynapseOS.Security

open Commands Execution QA Rounding

/-- The double that is nearest to 0.80. -/
def passConfidenceThreshold : ℚ := significant 2 53 (80 / 100)

def SecurityDecision.value : SecurityDecision → String
  | .pass => "PASS"
  | .warn => "WARN"
  | .block => "BLOCK"

/-- `_SEVERITY_ORDER`. -/
def SecuritySeverity.rank : SecuritySeverity → Nat
  | .info => 0
  | .low => 1
  | .medium => 2
  | .high => 3
  | .critical => 4

inductive SecurityReason
  | sanitizationMismatch
  | sanitizationIncomplete
  | scannerIncomplete
  | scannerUntrusted
  | testsFailed
  | noPassProposed
  | lowConfidence
  | providerUncertain
  | untrustedFinding
  | ambiguousReference
  | outsideScope
  | tooManyFindings
  deriving DecidableEq, Repr

def SecurityReason.text : SecurityReason → PyStr
  | .sanitizationMismatch => .ofString "Supplied sanitization does not match the current source."
  | .sanitizationIncomplete => .ofString "Local source sanitization is incomplete."
  | .scannerIncomplete => .ofString "Scanner evidence is incomplete or truncated."
  | .scannerUntrusted => .ofString "Scanner suite is not trusted."
  | .testsFailed => .ofString "QA test evidence is failed or truncated."
  | .noPassProposed => .ofString "The provider did not propose a pass."
  | .lowConfidence => .ofString "Analysis confidence is below the pass threshold."
  | .providerUncertain => .ofString "The provider reported uncertainty."
  | .untrustedFinding => .ofString "A scanner finding has untrusted or mismatched evidence."
  | .ambiguousReference => .ofString "A provider evidence reference is unknown or ambiguous."
  | .outsideScope => .ofString "A provider finding is outside the supplied source scope."
  | .tooManyFindings => .ofString "Aggregated findings exceed the public result limit."

def sourceText (request : SecurityRequest) (path : PyStr) : Option PyStr :=
  if path = diffPath then some request.diff
  else (request.affectedFiles.find? fun item => decide (item.path = path)).map fun item =>
    item.content

def validLocation (request : SecurityRequest) (location : SecurityLocation) : Bool :=
  match location.path with
  | none => true
  | some path =>
      match sourceText request path with
      | none => false
      | some text => location.lineEnd.all fun last => decide (last ≤ (splitLines text).length)

section Texts

variable (alphanumeric : Nat → Bool)

/-- `re.findall(r"[\"']([^\"'\r\n]+)[\"']", line)`, of a line that is no longer than the fuel. -/
def quotedFragments : Nat → PyStr → List PyStr
  | 0, _ => []
  | _ + 1, [] => []
  | fuel + 1, point :: rest =>
      let inner := fun other : Nat => !([0x22, 0x27, 0x0D, 0x0A].contains other)
      let run := rest.takeWhile inner
      match rest.dropWhile inner with
      | closing :: after =>
          if [0x22, 0x27].contains point = true ∧ run ≠ [] ∧ [0x22, 0x27].contains closing = true
            then
            run :: quotedFragments fuel after
          else quotedFragments fuel rest
      | [] => quotedFragments fuel rest

/-- `line.strip().lstrip("+-").strip()`. -/
def lineText (line : PyStr) : PyStr :=
  strip ((strip line).dropWhile fun point => [0x2B, 0x2D].contains point)

def lineFragments (line : PyStr) : List PyStr :=
  (if lineText line = [] then [] else [lineText line]) ++
    if containsObviousSecret alphanumeric line = true then quotedFragments line.length line else []

def sensitiveSourceText (request : SecurityRequest) : List PyStr :=
  let sources := request.diff :: request.affectedFiles.map fun item => item.content
  (sources.filter (fun source => decide (strip source ≠ [])) ++
    sources.flatMap fun source =>
      (splitLines source).flatMap (lineFragments alphanumeric)).eraseDups

def containsSensitiveText (value : PyStr) (sources : List PyStr) : Bool :=
  containsObviousSecret alphanumeric value ||
    sources.any fun source =>
      decide (strip value = strip source) ||
        decide (8 ≤ (strip source).length ∧ 4 ≤ (strip source).eraseDups.length ∧
          strip source <:+: value)

def publicText (value : PyStr) (sources : List PyStr) (replacement : PyStr) : PyStr :=
  if containsSensitiveText alphanumeric value sources = true then replacement else value

def publicFindingFields (sources : List PyStr) (finding : SecurityFinding) : FindingFields :=
  let path := finding.path.filter fun path => !containsSensitiveText alphanumeric path sources
  { path := path
    lineStart := if path.isSome = true then finding.lineStart else none
    lineEnd := if path.isSome = true then finding.lineEnd else none
    category := publicText alphanumeric finding.category sources (.ofString "security.finding")
    severity := finding.severity
    explanation := publicText alphanumeric finding.explanation sources
      (.ofString "Source-sensitive finding text was withheld.")
    remediation := publicText alphanumeric finding.remediation sources
      (.ofString "Review the finding through an approved secure channel.")
    confidence := finding.confidence
    evidence := (finding.evidence.map fun ref =>
      ⟨publicText alphanumeric ref.sourceId sources (.ofString "redacted-source"),
        publicText alphanumeric ref.evidenceId sources (.ofString "redacted-evidence")⟩).eraseDups
    confirmation := finding.confirmation }

def publicFinding (sources : List PyStr) (finding : SecurityFinding) :
    Except ValidationError SecurityFinding :=
  (publicFindingFields alphanumeric sources finding).validate

end Texts

section Evidence

variable (request : SecurityRequest) (report : SecurityScannerReport) (trust : List PyStr)

def scannerTrusted : Bool :=
  trust.contains report.suiteId && decide (report.suiteId ≠ secretPatternSourceId)

def trustedFinding (item : SecurityFinding) : Bool :=
  scannerTrusted report trust && validLocation request item.toSecurityLocation &&
    item.evidence.all fun ref => decide (ref.sourceId = report.suiteId)

/-- The fields of a scanner finding in the result: without trust it is only suspected. -/
def scannerFindingFields (item : SecurityFinding) : FindingFields :=
  if trustedFinding request report trust item = true then item.toFindingFields
  else { item.toFindingFields with confirmation := .suspected }

def testFailed (test : QATestEvidence) : Bool :=
  decide (test.status ≠ .succeeded ∨ test.exitCode ≠ 0 ∨ test.truncated = true)

def evidenceReasons (source fresh : SanitizedSecuritySource) (analysis : SecurityAnalysis) :
    List SecurityReason :=
  itemIf (decide (source ≠ fresh)) .sanitizationMismatch ++
    itemIf (!source.complete || !fresh.complete) .sanitizationIncomplete ++
    itemIf (!report.complete || report.truncated) .scannerIncomplete ++
    itemIf (!scannerTrusted report trust) .scannerUntrusted ++
    itemIf (request.tests.any testFailed) .testsFailed ++
    itemIf (decide (analysis.decision ≠ .pass)) .noPassProposed ++
    itemIf (decide (analysis.confidence.val < passConfidenceThreshold)) .lowConfidence ++
    itemIf (decide (analysis.uncertaintyReasons ≠ [])) .providerUncertain

def scannerReasons : List SecurityReason :=
  report.findings.flatMap fun item =>
    itemIf (!trustedFinding request report trust item) .untrustedFinding

def candidates (findings : List SecurityFinding) (evidenceId : PyStr) :
    List SecurityEvidenceReference :=
  ((findings.flatMap fun finding => finding.evidence).filter fun ref =>
    decide (ref.evidenceId = evidenceId)).eraseDups

/-- The reference of an evidence identifier, where exactly one is known. -/
def knownReference (findings : List SecurityFinding) (evidenceId : PyStr) :
    Option SecurityEvidenceReference :=
  match candidates findings evidenceId with
  | [reference] => some reference
  | _ => none

def resolveReference (findings : List SecurityFinding) (evidenceId : PyStr) :
    SecurityEvidenceReference :=
  (knownReference findings evidenceId).getD ⟨.ofString "provider", evidenceId⟩

def proposedFields (findings : List SecurityFinding) (proposed : SecurityAnalysisFinding) :
    FindingFields :=
  { toSecurityLocation := proposed.toSecurityLocation
    category := proposed.category
    severity := proposed.severity
    explanation := proposed.explanation
    remediation := proposed.remediation
    confidence := proposed.confidence
    evidence := proposed.evidenceIds.map (resolveReference findings)
    confirmation := .suspected }

def proposedReasons (findings : List SecurityFinding) (proposed : SecurityAnalysisFinding) :
    List SecurityReason :=
  (proposed.evidenceIds.flatMap fun evidenceId =>
      itemIf (knownReference findings evidenceId).isNone .ambiguousReference) ++
    itemIf (!validLocation request proposed.toSecurityLocation) .outsideScope

end Evidence

def sortRank (finding : SecurityFinding) : Nat :=
  (if isVeto finding.toFindingFields = true then 5 else 0) + finding.severity.rank

/-- `findings.sort(key=…, reverse=True)` and `findings[:_MAX_FINDINGS]`, when they are too many. -/
def retained (findings : List SecurityFinding) : List SecurityFinding :=
  highest 64 sortRank findings

structure Evidence where
  redaction : List SecurityFinding
  scanner : List SecurityFinding
  proposed : List SecurityFinding
  reasons : List SecurityReason

def Evidence.findings (evidence : Evidence) : List SecurityFinding :=
  evidence.redaction ++ evidence.scanner ++ evidence.proposed

def Evidence.blocked (evidence : Evidence) : Bool :=
  evidence.findings.any fun finding => isVeto finding.toFindingFields

def Evidence.decision (evidence : Evidence) : SecurityDecision :=
  if evidence.blocked = true then .block
  else if evidence.findings ≠ [] ∨ evidence.reasons ≠ [] then .warn
  else .pass

/-- The first part of `_decide`: what the sources say. -/
def collectEvidence (request : SecurityRequest) (source fresh : SanitizedSecuritySource)
    (report : SecurityScannerReport) (analysis : SecurityAnalysis) (trust : List PyStr) :
    Except ValidationError Evidence := do
  let redaction ← fresh.findings.mapM fun item => item.toFindingFields.validate
  let scanner ← report.findings.mapM fun item =>
    (scannerFindingFields request report trust item).validate
  let proposed ← analysis.findings.mapM fun item =>
    (proposedFields (redaction ++ scanner) item).validate
  let reasons := evidenceReasons request report trust source fresh analysis ++
    scannerReasons request report trust ++
    analysis.findings.flatMap (proposedReasons request (redaction ++ scanner)) ++
    itemIf (decide (64 < (redaction ++ scanner ++ proposed).length)) .tooManyFindings
  return ⟨redaction, scanner, proposed, reasons⟩

def resultFieldsFor (library : RedactionLibrary) (request : SecurityRequest)
    (report : SecurityScannerReport) (analysis : SecurityAnalysis) (evidence : Evidence)
    (findings : List SecurityFinding) : ResultFields :=
  let sensitive := sensitiveSourceText library.alphanumeric request
  { decision := evidence.decision
    findings := findings
    scanner :=
      { suiteId := publicText library.alphanumeric report.suiteId sensitive
          (.ofString "redacted-scanner")
        complete := report.complete
        truncated := report.truncated
        findingCount := report.findings.length
        durationMs := report.durationMs }
    uncertaintyReasons := ((evidence.reasons.map SecurityReason.text).eraseDups).take 16
    rationale := .ofString "Deterministic Security decision: " ++
      .ofString evidence.decision.value ++ .ofString ". " ++
      (publicText library.alphanumeric analysis.rationale sensitive
        (.ofString "Source-sensitive analysis text was withheld.")).take 16000
    confidence := analysis.confidence
    correlationId := request.correlationId }

/-- `_decide`. -/
def decideSecurity (library : RedactionLibrary) (request : SecurityRequest)
    (source : SanitizedSecuritySource) (report : SecurityScannerReport)
    (analysis : SecurityAnalysis) (trust : List PyStr) : Except ValidationError SecurityResult := do
  let fresh ← sanitizeSecuritySource library request
  let evidence ← collectEvidence request source fresh report analysis trust
  let sensitive := sensitiveSourceText library.alphanumeric request
  let findings ← (retained evidence.findings).mapM (publicFinding library.alphanumeric sensitive)
  (resultFieldsFor library request report analysis evidence findings).validate

def invalidHandoffFields (request : SecurityRequest) : ResultFields where
  decision := .warn
  findings := []
  scanner := ⟨.ofString "security-gate", false, false, 0, 0⟩
  uncertaintyReasons := [.ofString "Security handoff evidence or scope is invalid."]
  rationale := .ofString "The handoff requires validation before Security can assess it."
  confidence := ⟨0, by norm_num⟩
  correlationId := request.correlationId

def buildSecurityResult (library : RedactionLibrary) (request : SecurityRequest)
    (source : SanitizedSecuritySource) (report : SecurityScannerReport)
    (analysis : SecurityAnalysis) (trust : List PyStr) : Except SecurityErrorCode SecurityResult :=
  match validateSecurityRequest request with
  | .error _ =>
      match (invalidHandoffFields request).validate with
      | .ok result => .ok result
      | .error _ => .error .invalidInput
  | .ok validated =>
      match decideSecurity library validated.request source report analysis trust with
      | .ok result => .ok result
      | .error _ => .error .internalFailure

end SynapseOS.Security
