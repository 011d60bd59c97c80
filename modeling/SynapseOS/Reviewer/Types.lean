import SynapseOS.Agents.Types
import SynapseOS.Commands.Types
import SynapseOS.Core.Fields

/-! Values of the Reviewer (`core/reviewer/types.py`). -/

namespace SynapseOS.Reviewer

open Agents Commands Execution

inductive ReviewDecision
  | approved
  | changesRequested
  deriving DecidableEq, Repr

inductive FindingSeverity
  | info
  | low
  | medium
  | high
  | critical
  deriving DecidableEq, Repr

structure ReviewCheck where
  profileId : CommandProfileId
  category : CommandCategory
  status : CommandTerminalStatus
  exitCode : Int
  truncated : Bool
  exit_bounds : -255 ≤ exitCode ∧ exitCode ≤ 255
  truthful : category = profileId.category ∧ status = expectedStatus exitCode

structure FindingFields where
  category : PyStr
  severity : FindingSeverity
  rationale : PyStr
  path : Option PyStr
  line : Option Nat
  recommendation : PyStr
  deriving DecidableEq

def FindingFields.check (fields : FindingFields) : Bool :=
  identifierText false fields.category && boundedText 16384 fields.rationale &&
    fields.path.all relativePath && fields.line.all
      (fun line => decide (1 ≤ line ∧ line ≤ 1000000)) &&
    boundedText 16384 fields.recommendation

structure ReviewFinding extends FindingFields where
  valid : toFindingFields.check = true
  deriving DecidableEq

def FindingFields.validate (fields : FindingFields) : Except ValidationError ReviewFinding :=
  if valid : fields.check = true then .ok ⟨fields, valid⟩ else .error (.invalid "ReviewFinding")

structure ReviewAnalysis where
  decision : ReviewDecision
  findings : List ReviewFinding
  rationale : PyStr
  confidence : UnitScore
  finding_bound : findings.length ≤ 64
  rationale_valid : boundedText 16384 rationale = true

structure ReviewerRequest where
  developerId : PyStr
  reviewerId : PyStr
  taskTitle : PyStr
  taskDescription : PyStr
  acceptanceCriteria : List PyStr
  diff : PyStr
  requiredCheckProfiles : List CommandProfileId
  checks : List ReviewCheck
  developerReport : AgentReport
  ids_valid : identifierText true developerId = true ∧ identifierText true reviewerId = true
  title_valid : boundedText 255 taskTitle = true
  description_valid : boundedText 8192 taskDescription = true
  criteria_valid : (∀ criterion ∈ acceptanceCriteria, boundedText 1024 criterion = true) ∧
    1 ≤ acceptanceCriteria.length ∧ acceptanceCriteria.length ≤ 16 ∧ acceptanceCriteria.Nodup
  diff_valid : boundedText 16384 diff = true
  profiles_valid : 1 ≤ requiredCheckProfiles.length ∧ requiredCheckProfiles.length ≤ 10 ∧
    requiredCheckProfiles.Nodup
  checks_valid : 1 ≤ checks.length ∧ checks.length ≤ 16 ∧ (checks.map ReviewCheck.profileId).Nodup

structure ResultFields where
  decision : ReviewDecision
  findings : List ReviewFinding
  rationale : PyStr
  confidence : UnitScore
  reviewScore : ℚ

def ResultFields.check (fields : ResultFields) : Bool :=
  decide (fields.findings.length ≤ 64) && boundedText 16384 fields.rationale &&
    decide (0 ≤ fields.reviewScore ∧ fields.reviewScore ≤ 1)

structure ReviewerResult extends ResultFields where
  valid : toResultFields.check = true

def ResultFields.validate (fields : ResultFields) : Except ValidationError ReviewerResult :=
  if valid : fields.check = true then .ok ⟨fields, valid⟩ else .error (.invalid "ReviewerResult")

end SynapseOS.Reviewer
