import SynapseOS.Core.Echo
import SynapseOS.Lib.Dict
import SynapseOS.Lib.Rounding
import SynapseOS.QA.Types

/-! The evidence gate of the QA Agent (`core/qa/decision.py`). -/

namespace SynapseOS.QA

open Commands Execution Reviewer Rounding

/-- The double that is nearest to 0.70. -/
def passConfidenceThreshold : ℚ := significant 2 53 (70 / 100)

inductive BlockerCode
  | missingTest
  | duplicateTest
  | truncatedTest
  | failedTest
  | failedExistingCheck
  | unverifiedCriterion
  | modelFailure
  | lowConfidence
  deriving DecidableEq, Repr

def BlockerCode.value : BlockerCode → String
  | .missingTest => "missing-test"
  | .duplicateTest => "duplicate-test"
  | .truncatedTest => "truncated-test"
  | .failedTest => "failed-test"
  | .failedExistingCheck => "failed-existing-check"
  | .unverifiedCriterion => "unverified-criterion"
  | .modelFailure => "model-failure"
  | .lowConfidence => "low-confidence"

/-- What `_BLOCKER_TEXT` says of a code, without its unused rationale: how to reproduce it, the
expected and the actual behavior. -/
def blockerText : BlockerCode → PyStr × PyStr × PyStr
  | .missingTest =>
      (.ofString "Run every required fixed test profile once.",
        .ofString "All required test profiles produce fresh successful evidence.",
        .ofString "Required deterministic test evidence is missing.")
  | .duplicateTest =>
      (.ofString "Run the required profile exactly once and use one result.",
        .ofString "Each required test profile has one unambiguous result.",
        .ofString "Duplicate deterministic test evidence was supplied.")
  | .truncatedTest =>
      (.ofString "Rerun the profile with complete bounded evidence.",
        .ofString "Required test evidence is complete within its configured limits.",
        .ofString "The retained test evidence was truncated.")
  | .failedTest =>
      (.ofString "Run the failing fixed profile and reproduce its nonzero exit.",
        .ofString "Every required test profile exits successfully.",
        .ofString "At least one required profile returned a nonzero exit.")
  | .failedExistingCheck =>
      (.ofString "Reproduce the existing fixed check before QA approval.",
        .ofString "All existing Reviewer checks are successful and complete.",
        .ofString "Existing deterministic check evidence is failed or truncated.")
  | .unverifiedCriterion =>
      (.ofString "Exercise the criterion with a successful required test profile.",
        .ofString "Every acceptance criterion is supported by fresh passing evidence.",
        .ofString "At least one acceptance criterion lacks successful evidence.")
  | .modelFailure =>
      (.ofString "Reproduce and resolve the reported QA mismatch.",
        .ofString "Independent QA analysis supports passing the change.",
        .ofString "The provider analysis did not support a pass.")
  | .lowConfidence =>
      (.ofString "Collect stronger deterministic evidence for the acceptance criteria.",
        .ofString "QA confidence meets the fixed pass threshold.",
        .ofString "The analysis confidence is below 0.70.")

def blockerFields (code : BlockerCode) : FindingFields where
  category := .ofString "qa-gate." ++ .ofString code.value
  severity := .high
  reproductionSteps := [(blockerText code).1]
  expectedBehavior := (blockerText code).2.1
  actualBehavior := (blockerText code).2.2
  path := none

def blocker (code : BlockerCode) : Except ValidationError QAFinding := (blockerFields code).validate

section Codes

variable (request : QARequest) (executions : List QATestExecution) (analysis : QAAnalysis)

def indexExecutions : Dict CommandProfileId QATestExecution × Bool :=
  Dict.indexLast (fun execution => execution.profileId) executions

def requiredExecutions : List QATestExecution :=
  request.requiredTestProfiles.filterMap (indexExecutions executions).1.get

def truncatedOutput (execution : QATestExecution) : Bool :=
  execution.stdoutTruncated || execution.stderrTruncated

def exitedWell (execution : QATestExecution) : Bool :=
  decide (execution.status = .succeeded ∧ execution.exitCode = 0)

def successfulProfiles : List CommandProfileId :=
  ((requiredExecutions request executions).filter fun item =>
    exitedWell item && !truncatedOutput item).map fun item => item.profileId

def failedCheck (check : ReviewCheck) : Bool :=
  decide (check.status ≠ .succeeded ∨ check.exitCode ≠ 0 ∨ check.truncated = true)

def missingTest : Bool :=
  let indexed := (indexExecutions executions).1
  request.requiredTestProfiles.any (fun profile => (indexed.get profile).isNone) ||
    indexed.entries.any fun entry => !request.requiredTestProfiles.contains entry.1

def unverifiedCriterion : Bool :=
  decide (analysis.criteria.map (fun item => item.criterionIndex) ≠
      List.range' 1 request.acceptanceCriteria.length) ||
    analysis.criteria.any fun item =>
      decide (item.status ≠ .passed ∨ item.evidenceProfiles = []) ||
        !item.evidenceProfiles.all (successfulProfiles request executions).contains

def deterministicBlockerCodes : List BlockerCode :=
  let items := requiredExecutions request executions
  (itemIf (missingTest request executions) .missingTest ++
    itemIf (indexExecutions executions).2 .duplicateTest ++
    itemIf (items.any truncatedOutput) .truncatedTest ++
    itemIf (items.any fun item => !exitedWell item) .failedTest ++
    itemIf (request.existingChecks.any failedCheck) .failedExistingCheck ++
    itemIf (unverifiedCriterion request executions analysis) .unverifiedCriterion ++
    itemIf (decide (request.reviewerResult.decision ≠ .approved)) .failedExistingCheck ++
    itemIf (decide (analysis.decision = .failed)) .modelFailure ++
    itemIf (decide (analysis.confidence.val < passConfidenceThreshold)) .lowConfidence :
      List BlockerCode).eraseDups

def executionEvidence (execution : QATestExecution) : EvidenceFields where
  profileId := execution.profileId
  status := execution.status
  exitCode := execution.exitCode
  truncated := execution.stdoutTruncated || execution.stderrTruncated
  durationMs := execution.durationMs

def missingEvidence (profile : CommandProfileId) : EvidenceFields where
  profileId := profile
  status := .failed
  exitCode := -1
  truncated := false
  durationMs := 0

def profileEvidence (indexed : Dict CommandProfileId QATestExecution) (profile : CommandProfileId) :
    EvidenceFields :=
  match indexed.get profile with
  | some execution => executionEvidence execution
  | none => missingEvidence profile

def publicTestEvidence : Except ValidationError (List QATestEvidence) :=
  let indexed := Dict.indexFirst (fun execution : QATestExecution => execution.profileId) executions
  request.requiredTestProfiles.mapM fun profile => (profileEvidence indexed profile).validate

def canonicalTextEvidence : List PyStr :=
  ([request.taskTitle, request.taskDescription] ++ request.acceptanceCriteria ++
    [request.diff, request.systemPrompt, request.reviewerResult.rationale] ++
    request.reviewerResult.findings.flatMap (fun finding =>
      [finding.category, finding.rationale, finding.recommendation, finding.path.getD []]) ++
    executions.flatMap fun item => [item.stdout, item.stderr]).filter fun text => decide (text ≠ [])

end Codes

def appendBlockers (modelFindings blockers : List QAFinding) : List QAFinding :=
  let retained := blockers.take 64
  modelFindings.take (64 - retained.length) ++ retained

section Gate

variable (casefold : PyStr → PyStr)

section Redaction

variable (sources markers : List PyStr)

def redactCriterion (criterion : QACriterionAssessment) :
    Except ValidationError QACriterionAssessment :=
  AssessmentFields.validate
    { criterion.toAssessmentFields with
      rationale := redactText casefold sources markers
        (.ofString "Criterion rationale redacted due to source evidence.") criterion.rationale }

def redactedFields (finding : QAFinding) : FindingFields where
  category := redactText casefold sources markers (.ofString "redacted") finding.category
  severity := finding.severity
  reproductionSteps := finding.reproductionSteps.map <| redactText casefold sources markers
    (.ofString "Reproduction step redacted due to source evidence.")
  expectedBehavior := redactText casefold sources markers
    (.ofString "Expected behavior redacted due to source evidence.") finding.expectedBehavior
  actualBehavior := redactText casefold sources markers
    (.ofString "Actual behavior redacted due to source evidence.") finding.actualBehavior
  path := if finding.path.any (echoesSource casefold sources markers) = true then none
    else finding.path

def redactFinding (finding : QAFinding) : Except ValidationError QAFinding :=
  (redactedFields casefold sources markers finding).validate

def redactRecommendation (recommendation : QATestRecommendation) :
    Except ValidationError QATestRecommendation :=
  RecommendationFields.validate
    { title := redactText casefold sources markers (.ofString "Test recommendation redacted")
        recommendation.title
      rationale := redactText casefold sources markers
        (.ofString "Test recommendation rationale redacted due to source evidence.")
        recommendation.rationale
      criterionIndices := recommendation.criterionIndices }

end Redaction

def buildQaResult (request : QARequest) (executions : List QATestExecution)
    (analysis : QAAnalysis) : Except ValidationError QAResult := do
  let blockerCodes := deterministicBlockerCodes request executions analysis
  let decision : QADecision := if blockerCodes ≠ [] ∨ analysis.findings ≠ []
    then .failed else .passed
  let sources := canonicalTextEvidence request executions
  let markers := obviousSecretMarkers casefold sources
  let criteria ← analysis.criteria.mapM (redactCriterion casefold sources markers)
  let modelFindings ← analysis.findings.mapM (redactFinding casefold sources markers)
  let blockers ← blockerCodes.mapM blocker
  let recommendations ← analysis.recommendations.mapM (redactRecommendation casefold
    sources markers)
  let tests ← publicTestEvidence request executions
  ResultFields.validate
    { criteria := criteria
      findings := appendBlockers modelFindings blockers
      recommendations := recommendations
      decision := decision
      tests := tests
      rationale := redactText casefold sources markers
        (.ofString "QA rationale redacted because it echoed source evidence.") analysis.rationale
      confidence := analysis.confidence
      correlationId := request.correlationId }

end Gate

end SynapseOS.QA
