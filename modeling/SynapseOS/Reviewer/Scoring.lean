import SynapseOS.Lib.Rounding
import SynapseOS.Reviewer.Types

/-! The score of a review (`core/reviewer/scoring.py`). -/

namespace SynapseOS.Reviewer

open Commands Rounding

/-- An operation of the decimal context: 28 digits, half to even. -/
def decimal (q : ℚ) : ℚ := significant 10 28 q

def severityPenalty : FindingSeverity → ℚ
  | .info => 0
  | .low => 2 / 100
  | .medium => 8 / 100
  | .high => 20 / 100
  | .critical => 40 / 100

def isPassingCheck (check : ReviewCheck) : Bool :=
  decide (check.category = check.profileId.category ∧ check.status = .succeeded ∧
    check.exitCode = 0 ∧ check.truncated = false)

def calculateReviewScore (checks : List ReviewCheck) (findings : List ReviewFinding) : ℚ :=
  if checks = [] then 0
  else
    let incomplete := (checks.filter fun check => !isPassingCheck check).length
    let checkPenalty := decimal (decimal (50 / 100 * incomplete) / checks.length)
    let findingPenalty :=
      findings.foldl (fun total finding => decimal (total + severityPenalty finding.severity)) 0
    let score := decimal (decimal (1 - checkPenalty) - findingPenalty)
    halfUp (min 1 (max 0 score) * (10000 : Nat)) / 10000

theorem calculateReviewScore_unit (checks : List ReviewCheck) (findings : List ReviewFinding) :
    0 ≤ calculateReviewScore checks findings ∧ calculateReviewScore checks findings ≤ 1 := by
  unfold calculateReviewScore
  split
  · norm_num
  · dsimp only
    generalize decimal (decimal (1 - _) - _) = score
    obtain ⟨low, high⟩ := halfUp_unit (q := min 1 (max 0 score)) (by positivity)
      (min_le_left _ _) 10000
    constructor
    · apply div_nonneg _ (by norm_num)
      exact_mod_cast low
    · rw [div_le_one (by norm_num)]
      exact_mod_cast high

end SynapseOS.Reviewer
