import SynapseOS.Core.Echo
import SynapseOS.Lib.Dict
import SynapseOS.Reviewer.Scoring

/-! The evidence gate of the Reviewer (`core/reviewer/decision.py`). -/

namespace SynapseOS.Reviewer

open Agents Commands Execution Rounding

/-- The double that is nearest to 0.70. -/
def approvalConfidenceThreshold : ℚ := significant 2 53 (70 / 100)

inductive BlockerCode
  | identities
  | developerReport
  | missingChecks
  | inconsistentChecks
  | truncatedChecks
  | failedChecks
  | severeFindings
  | modelChanges
  | lowConfidence
  deriving DecidableEq, Repr

def blockerText : BlockerCode → PyStr × PyStr
  | .identities =>
      (.ofString "Reviewer and Developer identities are not independent.",
        .ofString "Assign an independent Reviewer before approval.")
  | .developerReport =>
      (.ofString "Developer report was not successful.",
        .ofString "Resolve the Developer outcome before requesting approval.")
  | .missingChecks =>
      (.ofString "Required review checks are missing.",
        .ofString "Provide complete deterministic verification evidence.")
  | .inconsistentChecks =>
      (.ofString "Required review check metadata is inconsistent.",
        .ofString "Provide canonical verification metadata.")
  | .truncatedChecks =>
      (.ofString "Required review checks were truncated.",
        .ofString "Rerun verification with complete retained evidence.")
  | .failedChecks =>
      (.ofString "Required review checks did not pass.",
        .ofString "Fix the failed verification before approval.")
  | .severeFindings =>
      (.ofString "Review findings include a high-severity issue.",
        .ofString "Resolve high-severity findings before approval.")
  | .modelChanges =>
      (.ofString "Model requested changes.",
        .ofString "Address the requested changes before approval.")
  | .lowConfidence =>
      (.ofString "Review confidence is below the approval threshold.",
        .ofString "Provide stronger review evidence before approval.")

def blockerFields (code : BlockerCode) : FindingFields where
  category := .ofString "review-gate"
  severity := .high
  rationale := (blockerText code).1
  path := none
  line := none
  recommendation := (blockerText code).2

def blocker (code : BlockerCode) : Except ValidationError ReviewFinding :=
  (blockerFields code).validate

structure CheckFlags where
  missing : Bool
  inconsistent : Bool
  truncated : Bool
  failed : Bool

section Checks

variable (requiredProfiles : List CommandProfileId) (checks : List ReviewCheck)

/-- `checks_by_profile`, and whether a profile came twice. -/
def indexChecks : Dict CommandProfileId ReviewCheck × Bool :=
  Dict.indexLast ReviewCheck.profileId checks

def flagProfile (indexed : Dict CommandProfileId ReviewCheck) (flags : CheckFlags)
    (profile : CommandProfileId) : CheckFlags :=
  match indexed.get profile with
  | none => { flags with missing := true }
  | some check =>
      { missing := flags.missing
        inconsistent := flags.inconsistent ||
          decide (check.category ≠ profile.category ∨ check.status ≠ expectedStatus check.exitCode)
        truncated := flags.truncated || check.truncated
        failed := flags.failed || decide (check.status ≠ .succeeded ∨ check.exitCode ≠ 0) }

def checkBlockerCodes : List BlockerCode :=
  let (indexed, inconsistent) := indexChecks checks
  if indexed.entries = [] then [.missingChecks]
  else
    let flags := requiredProfiles.foldl (flagProfile indexed)
      ⟨decide (requiredProfiles = []), inconsistent, false, false⟩
    itemIf flags.missing .missingChecks ++ itemIf flags.inconsistent .inconsistentChecks ++
      itemIf flags.truncated .truncatedChecks ++ itemIf flags.failed .failedChecks

end Checks

def severe (finding : ReviewFinding) : Bool :=
  decide (finding.severity = .high ∨ finding.severity = .critical)

def deterministicBlockerCodes (request : ReviewerRequest) (analysis : ReviewAnalysis) :
    List BlockerCode :=
  itemIf (decide (request.developerId = request.reviewerId)) .identities ++
    itemIf (decide (request.developerReport.outcome ≠ .succeeded)) .developerReport ++
    checkBlockerCodes request.requiredCheckProfiles request.checks ++
    itemIf (analysis.findings.any severe) .severeFindings ++
    itemIf (decide (analysis.decision = .changesRequested)) .modelChanges ++
    itemIf (decide (analysis.confidence.val < approvalConfidenceThreshold)) .lowConfidence

def canonicalTextEvidence (request : ReviewerRequest) : List PyStr :=
  [request.taskTitle, request.taskDescription] ++ request.acceptanceCriteria ++
    [request.diff, request.developerReport.summary] ++ request.developerReport.details ++
    request.developerReport.nextActions

def appendBlockers (modelFindings blockers : List ReviewFinding) : List ReviewFinding :=
  let retained := blockers.take 64
  modelFindings.take (64 - retained.length) ++ retained

section Gate

variable (casefold : PyStr → PyStr)

def redactedFields (sources markers : List PyStr) (finding : ReviewFinding) : FindingFields :=
  let echoed := finding.path.any (echoesSource casefold sources markers)
  { category := redactText casefold sources markers (.ofString "redacted") finding.category
    severity := finding.severity
    rationale := redactText casefold sources markers
      (.ofString "Finding rationale redacted due to source evidence.") finding.rationale
    path := if echoed = true then none else finding.path
    line := if echoed = true then none else finding.line
    recommendation := redactText casefold sources markers
      (.ofString "Finding recommendation redacted due to source evidence.") finding.recommendation }

def redactFinding (sources markers : List PyStr) (finding : ReviewFinding) :
    Except ValidationError ReviewFinding :=
  (redactedFields casefold sources markers finding).validate

def buildReviewerResult (request : ReviewerRequest) (analysis : ReviewAnalysis) :
    Except ValidationError ReviewerResult := do
  let blockers ← (deterministicBlockerCodes request analysis).mapM blocker
  let decision : ReviewDecision := if blockers = [] then .approved else .changesRequested
  let sources := canonicalTextEvidence request
  let markers := obviousSecretMarkers casefold sources
  let modelFindings ← analysis.findings.mapM (redactFinding casefold sources markers)
  let findings := appendBlockers modelFindings blockers
  let rationale := redactText casefold sources markers
    (.ofString "Reviewer rationale redacted because it echoed source evidence.") analysis.rationale
  ResultFields.validate
    { decision := decision
      findings := findings
      rationale := rationale
      confidence := analysis.confidence
      reviewScore := significant 2 53 (calculateReviewScore request.checks findings) }

end Gate

end SynapseOS.Reviewer
