import SynapseOS.Core.Fields
import SynapseOS.Lib.Grouping
import SynapseOS.Lib.Means
import SynapseOS.Lib.Rounding

/-! The reputation of an agent from its score events (`core/scoring/reputation.py`), in exact
arithmetic. -/

namespace SynapseOS.Scoring

open Execution Means

inductive AgentScoreType
  | confidence | reliability | expertise | codeQuality | security | collaboration
  | customerSatisfaction
  deriving DecidableEq

def weights : List (AgentScoreType × ℚ) :=
  [(.reliability, 35 / 100), (.codeQuality, 20 / 100), (.security, 20 / 100),
    (.collaboration, 15 / 100), (.customerSatisfaction, 10 / 100)]

abbrev Score := { value : ℚ // 0 ≤ value ∧ value ≤ 1 }

/-- `^[a-z0-9][a-z0-9-]{0,63}$`. -/
def domainText : PyStr → Bool
  | [] => false
  | head :: tail =>
      (lowerLetter head || digit head) && decide (tail.length ≤ 63) &&
        tail.all fun point => lowerLetter point || digit point || decide (point = 0x2D)

abbrev Domain := { text : PyStr // domainText text = true }

structure ReputationMeasurement where
  scoreType : AgentScoreType
  value : Score
  domain : Option Domain
  domain_scope : domain.isSome = decide (scoreType = .expertise)

structure ReputationSnapshot where
  reputation : Score
  reliability : Score
  expertiseByDomain : Dict Domain Score
  eventCount : Nat

/-- What `calculate` could raise: a failed `assert`, a division by zero, a `ValidationError`. -/
inductive Raised
  | assertion | division | validation
  deriving DecidableEq

def meanOf (values : List ℚ) : Except Raised ℚ :=
  if values.length = 0 then .error .division else .ok (mean values)

/-- `_quantize`, of a value that is not negative. -/
def quantize (value : ℚ) : ℚ := Rounding.halfUp (value * (10000 : Nat)) / 10000

def roundedMean (values : List ℚ) : Except Raised ℚ := return quantize (← meanOf values)

structure Groups where
  grouped : Dict AgentScoreType (List ℚ)
  expertise : Dict Domain (List ℚ)

def retain (groups : Groups) (measurement : ReputationMeasurement) : Except Raised Groups :=
  let grouped := groups.grouped.append measurement.scoreType measurement.value
  if measurement.scoreType = .expertise then
    match measurement.domain with
    | none => .error .assertion
    | some domain => .ok ⟨grouped, groups.expertise.append domain measurement.value⟩
  else .ok ⟨grouped, groups.expertise⟩

def present (means : AgentScoreType → Option ℚ) : List (ℚ × ℚ) :=
  weights.filterMap fun entry => (means entry.1).map fun mean => (mean, entry.2)

def unrounded (means : AgentScoreType → Option ℚ) : ℚ :=
  if weightOf (present means) = 0 then 0 else totalOf (present means) / weightOf (present means)

def scoreField (value : ℚ) : Except Raised Score :=
  if inside : 0 ≤ value ∧ value ≤ 1 then .ok ⟨value, inside⟩ else .error .validation

def calculate (measurements : List ReputationMeasurement) : Except Raised ReputationSnapshot := do
  let groups ← measurements.foldlM retain ⟨.empty, .empty⟩
  let means ← groups.grouped.comprehend meanOf
  let expertise ← groups.expertise.comprehend roundedMean
  let reputation ← scoreField (quantize (unrounded means.get))
  let reliability ← scoreField (quantize ((means.get .reliability).getD 0))
  let expertiseByDomain ← expertise.comprehend scoreField
  return ⟨reputation, reliability, expertiseByDomain, measurements.length⟩

end SynapseOS.Scoring
