import SynapseOS.Reviewer.Types

/-! Values of the QA Agent (`core/qa/types.py`). -/

namespace SynapseOS.QA

open Commands Execution Reviewer

inductive QADecision
  | passed
  | failed
  deriving DecidableEq, Repr

inductive QACriterionStatus
  | passed
  | failed
  | unverified
  deriving DecidableEq, Repr

inductive QASeverity
  | info
  | low
  | medium
  | high
  | critical
  deriving DecidableEq, Repr

def testProfile (profile : CommandProfileId) : Bool := decide (profile.category = .test)

/-- The fields of an assessment, before they are validated; likewise below. -/
structure AssessmentFields where
  criterionIndex : Nat
  status : QACriterionStatus
  rationale : PyStr
  evidenceProfiles : List CommandProfileId
  deriving DecidableEq

def AssessmentFields.check (fields : AssessmentFields) : Bool :=
  decide (1 ≤ fields.criterionIndex ∧ fields.criterionIndex ≤ 16) &&
    boundedText 4096 fields.rationale &&
    decide (fields.evidenceProfiles.length ≤ 3 ∧ fields.evidenceProfiles.Nodup) &&
    fields.evidenceProfiles.all testProfile

structure QACriterionAssessment extends AssessmentFields where
  valid : toAssessmentFields.check = true
  deriving DecidableEq

def AssessmentFields.validate (fields : AssessmentFields) :
    Except ValidationError QACriterionAssessment :=
  if valid : fields.check = true then .ok ⟨fields, valid⟩
  else .error (.invalid "QACriterionAssessment")

structure FindingFields where
  category : PyStr
  severity : QASeverity
  reproductionSteps : List PyStr
  expectedBehavior : PyStr
  actualBehavior : PyStr
  path : Option PyStr
  deriving DecidableEq

def FindingFields.check (fields : FindingFields) : Bool :=
  identifierText true fields.category &&
    decide (1 ≤ fields.reproductionSteps.length ∧ fields.reproductionSteps.length ≤ 8) &&
    fields.reproductionSteps.all (boundedText 1024) && boundedText 4096 fields.expectedBehavior &&
    boundedText 4096 fields.actualBehavior && fields.path.all relativePath

structure QAFinding extends FindingFields where
  valid : toFindingFields.check = true
  deriving DecidableEq

def FindingFields.validate (fields : FindingFields) : Except ValidationError QAFinding :=
  if valid : fields.check = true then .ok ⟨fields, valid⟩ else .error (.invalid "QAFinding")

structure RecommendationFields where
  title : PyStr
  rationale : PyStr
  criterionIndices : List Nat
  deriving DecidableEq

def RecommendationFields.check (fields : RecommendationFields) : Bool :=
  boundedText 255 fields.title && boundedText 4096 fields.rationale &&
    decide (1 ≤ fields.criterionIndices.length ∧ fields.criterionIndices.length ≤ 16 ∧
      fields.criterionIndices.Nodup) &&
    fields.criterionIndices.all fun index => decide (1 ≤ index ∧ index ≤ 16)

structure QATestRecommendation extends RecommendationFields where
  valid : toRecommendationFields.check = true
  deriving DecidableEq

def RecommendationFields.validate (fields : RecommendationFields) :
    Except ValidationError QATestRecommendation :=
  if valid : fields.check = true then .ok ⟨fields, valid⟩
  else .error (.invalid "QATestRecommendation")

structure QATestMetadata where
  profileId : CommandProfileId
  status : CommandTerminalStatus
  exitCode : Int
  durationMs : ℚ
  deriving DecidableEq

def QATestMetadata.check (fields : QATestMetadata) : Bool :=
  decide (-255 ≤ fields.exitCode ∧ fields.exitCode ≤ 255 ∧ 0 ≤ fields.durationMs) &&
    testProfile fields.profileId && decide (fields.status = expectedStatus fields.exitCode)

structure QATestExecution extends QATestMetadata where
  stdout : PyStr
  stderr : PyStr
  stdoutTruncated : Bool
  stderrTruncated : Bool
  valid : toQATestMetadata.check = true
  output_bounds : stdout.length ≤ 32768 ∧ stderr.length ≤ 32768

structure EvidenceFields extends QATestMetadata where
  truncated : Bool
  deriving DecidableEq

structure QATestEvidence extends EvidenceFields where
  valid : toQATestMetadata.check = true
  deriving DecidableEq

def EvidenceFields.validate (fields : EvidenceFields) : Except ValidationError QATestEvidence :=
  if valid : fields.toQATestMetadata.check = true then .ok ⟨fields, valid⟩
  else .error (.invalid "QATestEvidence")

structure QAAssessmentSet where
  criteria : List QACriterionAssessment
  findings : List QAFinding
  recommendations : List QATestRecommendation

def QAAssessmentSet.check (fields : QAAssessmentSet) : Bool :=
  decide (1 ≤ fields.criteria.length ∧ fields.criteria.length ≤ 16 ∧ fields.findings.length ≤ 64 ∧
      fields.recommendations.length ≤ 32) &&
    decide (fields.criteria.map (fun item => item.criterionIndex) =
      List.range' 1 fields.criteria.length) &&
    fields.recommendations.all fun recommendation =>
      recommendation.criterionIndices.all fun index =>
      (fields.criteria.map fun item => item.criterionIndex).contains index

structure QAAnalysis extends QAAssessmentSet where
  decision : QADecision
  rationale : PyStr
  confidence : UnitScore
  valid : toQAAssessmentSet.check = true
  rationale_valid : boundedText 16384 rationale = true

structure QARequest where
  developerId : PyStr
  reviewerId : PyStr
  qaId : PyStr
  systemPrompt : PyStr
  taskTitle : PyStr
  taskDescription : PyStr
  acceptanceCriteria : List PyStr
  diff : PyStr
  reviewerResult : ReviewerResult
  existingChecks : List ReviewCheck
  requiredTestProfiles : List CommandProfileId
  correlationId : UUID
  criteria_valid : 1 ≤ acceptanceCriteria.length ∧ acceptanceCriteria.length ≤ 16 ∧
    acceptanceCriteria.Nodup
  checks_valid : 1 ≤ existingChecks.length ∧ existingChecks.length ≤ 16 ∧
    (existingChecks.map ReviewCheck.profileId).Nodup
  profiles_valid : 1 ≤ requiredTestProfiles.length ∧ requiredTestProfiles.length ≤ 3 ∧
    requiredTestProfiles.Nodup ∧ ∀ profile ∈ requiredTestProfiles, testProfile profile = true
  independent : [developerId, reviewerId, qaId].Nodup
  approved : reviewerResult.decision = .approved

structure ResultFields extends QAAssessmentSet where
  decision : QADecision
  tests : List QATestEvidence
  rationale : PyStr
  confidence : UnitScore
  correlationId : UUID

/-- `require_truthful_terminal_shape`. -/
def ResultFields.truthful (fields : ResultFields) : Bool :=
  let profiles := fields.tests.map fun test => test.profileId
  decide profiles.Nodup && (decide (fields.decision ≠ .failed) || decide (fields.findings ≠ [])) &&
    (decide (fields.decision ≠ .passed) ||
      decide (fields.findings = []) &&
        fields.criteria.all (fun item => decide (item.status = .passed)) &&
        fields.tests.all (fun test => decide (test.status = .succeeded)) &&
        fields.tests.all (fun test => !test.truncated) &&
        fields.criteria.all fun criterion =>
          decide (criterion.evidenceProfiles ≠ []) &&
            criterion.evidenceProfiles.all profiles.contains)

def ResultFields.check (fields : ResultFields) : Bool :=
  fields.toQAAssessmentSet.check && decide (1 ≤ fields.tests.length ∧ fields.tests.length ≤ 3) &&
    boundedText 16384 fields.rationale && fields.truthful

structure QAResult extends ResultFields where
  valid : toResultFields.check = true

def ResultFields.validate (fields : ResultFields) : Except ValidationError QAResult :=
  if valid : fields.check = true then .ok ⟨fields, valid⟩ else .error (.invalid "QAResult")

end SynapseOS.QA
