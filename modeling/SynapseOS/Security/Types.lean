import SynapseOS.QA.Types

/-! Values of the Security Agent (`core/security/types.py`). -/

namespace SynapseOS.Security

open Agents Execution QA Tools

inductive SecurityDecision
  | pass
  | warn
  | block
  deriving DecidableEq, Repr

inductive SecuritySeverity
  | info
  | low
  | medium
  | high
  | critical
  deriving DecidableEq, Repr

inductive SecurityConfirmation
  | suspected
  | confirmed
  deriving DecidableEq, Repr

structure SourceFileFields where
  path : PyStr
  content : PyStr
  deriving DecidableEq

def SourceFileFields.check (fields : SourceFileFields) : Bool :=
  relativePath fields.path && decide (1 ≤ fields.content.length ∧ fields.content.length ≤ 16384) &&
    fields.content.all fun point => !surrogate point

structure SecuritySourceFile extends SourceFileFields where
  valid : toSourceFileFields.check = true
  deriving DecidableEq

def SourceFileFields.validate (fields : SourceFileFields) :
    Except ValidationError SecuritySourceFile :=
  if valid : fields.check = true then .ok ⟨fields, valid⟩
  else .error (.invalid "SecuritySourceFile")

structure SecurityEvidenceReference where
  sourceId : PyStr
  evidenceId : PyStr
  deriving DecidableEq

def SecurityEvidenceReference.check (reference : SecurityEvidenceReference) : Bool :=
  identifierText true reference.sourceId && identifierText true reference.evidenceId

structure SecurityLocation where
  path : Option PyStr
  lineStart : Option Nat
  lineEnd : Option Nat
  deriving DecidableEq

def lineNumber (line : Nat) : Bool := decide (1 ≤ line ∧ line ≤ 1000000)

def SecurityLocation.check (location : SecurityLocation) : Bool :=
  location.path.all relativePath && location.lineStart.all lineNumber &&
    location.lineEnd.all lineNumber &&
    match location.lineStart, location.lineEnd with
    | none, none => true
    | some first, some last => location.path.isSome && decide (first ≤ last)
    | _, _ => false

structure FindingFields extends SecurityLocation where
  category : PyStr
  severity : SecuritySeverity
  explanation : PyStr
  remediation : PyStr
  confidence : UnitScore
  evidence : List SecurityEvidenceReference
  confirmation : SecurityConfirmation
  deriving DecidableEq

def FindingFields.check (fields : FindingFields) : Bool :=
  fields.toSecurityLocation.check && identifierText true fields.category &&
    boundedText 4096 fields.explanation && boundedText 4096 fields.remediation &&
    decide (1 ≤ fields.evidence.length ∧ fields.evidence.length ≤ 8 ∧ fields.evidence.Nodup) &&
    fields.evidence.all SecurityEvidenceReference.check

/-- A `SecurityFinding`, or a `SecurityScannerFinding`, which has the same fields. -/
structure SecurityFinding extends FindingFields where
  valid : toFindingFields.check = true
  deriving DecidableEq

def FindingFields.validate (fields : FindingFields) : Except ValidationError SecurityFinding :=
  if valid : fields.check = true then .ok ⟨fields, valid⟩ else .error (.invalid "SecurityFinding")

structure SecurityAnalysisFinding extends SecurityLocation where
  category : PyStr
  severity : SecuritySeverity
  explanation : PyStr
  remediation : PyStr
  confidence : UnitScore
  evidenceIds : List PyStr
  location_valid : toSecurityLocation.check = true
  category_valid : identifierText true category = true
  explanation_valid : boundedText 4096 explanation = true
  remediation_valid : boundedText 4096 remediation = true
  evidence_valid : 1 ≤ evidenceIds.length ∧ evidenceIds.length ≤ 8 ∧ evidenceIds.Nodup ∧
    ∀ evidenceId ∈ evidenceIds, identifierText true evidenceId = true

structure SecurityScannerReport where
  suiteId : PyStr
  findings : List SecurityFinding
  complete : Bool
  truncated : Bool
  durationMs : ℚ
  suite_valid : identifierText true suiteId = true
  finding_bound : findings.length ≤ 64
  duration_bound : 0 ≤ durationMs

structure SourceFields where
  diff : PyStr
  files : List SecuritySourceFile
  findings : List SecurityFinding
  complete : Bool
  deriving DecidableEq

def SourceFields.check (fields : SourceFields) : Bool :=
  decide (1 ≤ fields.diff.length ∧ fields.diff.length ≤ 16384) &&
    decide (1 ≤ fields.files.length ∧ fields.files.length ≤ 16) &&
    decide (fields.findings.length ≤ 64) && decide ((fields.files.map fun item => item.path).Nodup)

structure SanitizedSecuritySource extends SourceFields where
  valid : toSourceFields.check = true
  deriving DecidableEq

def SourceFields.validate (fields : SourceFields) :
    Except ValidationError SanitizedSecuritySource :=
  if valid : fields.check = true then .ok ⟨fields, valid⟩
  else .error (.invalid "SanitizedSecuritySource")

structure SecurityAnalysis where
  decision : SecurityDecision
  findings : List SecurityAnalysisFinding
  uncertaintyReasons : List PyStr
  rationale : PyStr
  confidence : UnitScore
  finding_bound : findings.length ≤ 64
  rationale_valid : boundedText 16384 rationale = true

structure SecurityRequest where
  taskId : UUID
  projectId : UUID
  developerId : Identifier
  reviewerId : Identifier
  qaId : Identifier
  securityId : Identifier
  profile : AgentProfile
  diff : PyStr
  affectedFiles : List SecuritySourceFile
  qaResult : QAResult
  tests : List QATestEvidence
  executionContext : ToolExecutionContext
  correlationId : UUID
  diff_valid : 1 ≤ diff.length ∧ diff.length ≤ 16384 ∧ ∀ point ∈ diff, surrogate point = false
  files_valid : 1 ≤ affectedFiles.length ∧ affectedFiles.length ≤ 16 ∧
    (affectedFiles.map fun item => item.path).Nodup
  bytes_valid : (affectedFiles.map fun item => (item.content.map utf8Width).sum).sum ≤ 65536
  independent : [developerId, reviewerId, qaId, securityId].Nodup
  passed : qaResult.decision = .passed
  tested : tests = qaResult.tests
  correlated : qaResult.correlationId = correlationId ∧
    executionContext.correlationId = correlationId

structure SecurityScannerSummary where
  suiteId : PyStr
  complete : Bool
  truncated : Bool
  findingCount : Nat
  durationMs : ℚ

def SecurityScannerSummary.check (summary : SecurityScannerSummary) : Bool :=
  identifierText true summary.suiteId && decide (summary.findingCount ≤ 64 ∧ 0 ≤ summary.durationMs)

structure ResultFields where
  decision : SecurityDecision
  findings : List SecurityFinding
  scanner : SecurityScannerSummary
  uncertaintyReasons : List PyStr
  rationale : PyStr
  confidence : UnitScore
  correlationId : UUID

def isVeto (finding : FindingFields) : Bool :=
  decide (finding.confirmation = .confirmed ∧
    (finding.severity = .high ∨ finding.severity = .critical))

/-- `require_truthful_terminal_shape`. -/
def ResultFields.truthful (fields : ResultFields) : Bool :=
  let blocked := fields.findings.any fun finding => isVeto finding.toFindingFields
  match fields.decision with
  | .pass =>
      !blocked && decide (fields.findings = [] ∧ fields.uncertaintyReasons = []) &&
        fields.scanner.complete && !fields.scanner.truncated
  | .warn => !blocked && decide (fields.findings ≠ [] ∨ fields.uncertaintyReasons ≠ [])
  | .block => blocked

def ResultFields.check (fields : ResultFields) : Bool :=
  decide (fields.findings.length ≤ 64) && fields.scanner.check &&
    decide (fields.uncertaintyReasons.length ≤ 16) &&
    fields.uncertaintyReasons.all (boundedText 1024) && boundedText 16384 fields.rationale &&
    fields.truthful

structure SecurityResult extends ResultFields where
  valid : toResultFields.check = true

def ResultFields.validate (fields : ResultFields) : Except ValidationError SecurityResult :=
  if valid : fields.check = true then .ok ⟨fields, valid⟩ else .error (.invalid "SecurityResult")

end SynapseOS.Security
