import Mathlib.Tactic
import SynapseOS.Core.Fields

/-! Values of training datasets (`core/training_dataset/types.py`). -/

namespace SynapseOS.Training

open Execution Tools

structure Text where
  points : PyStr
  bounds : 1 ≤ points.length ∧ points.length ≤ 16384
  unicode : points.any surrogate = false
  deriving DecidableEq

/-- A decimal from 0 to 1: its digits and its exponent. -/
structure RewardScore where
  coefficient : Nat
  exponent : Int
  unit : (coefficient : ℚ) * 10 ^ exponent ≤ 1
  places : -4 ≤ exponent

inductive TrainingUsage
  | fineTuning
  | preferenceLearning
  deriving DecidableEq, Repr

inductive DatasetExclusionReason
  | notValidated
  | notAuthorized
  | secretDetected
  | piiDetected
  deriving DecidableEq, Repr

/-- An aware `datetime`: its instant, and the offset of its zone in seconds. -/
structure AwareDatetime where
  instant : ℚ
  offset : ℚ

structure ExperienceProvenance where
  projectId : Identifier
  sourceEventIds : List Identifier
  validatedBy : Identifier
  validationEventId : Identifier
  collectedAt : AwareDatetime
  events_few : 1 ≤ sourceEventIds.length ∧ sourceEventIds.length ≤ 32
  events_unique : sourceEventIds.Nodup

structure TrainingConsent where
  authorized : Bool
  dataOwnerId : Identifier
  consentReference : Identifier
  allowedUses : List TrainingUsage
  uses_unique : allowedUses.Nodup
  consistent : authorized = true ∨ allowedUses = []

structure ValidatedExperience where
  experienceId : Identifier
  validated : Bool
  promptContext : Text
  decision : Text
  alternatives : List Text
  result : Text
  review : Option Text
  userFeedback : Option Text
  correctedAnswer : Option Text
  rewardCandidate : Option RewardScore
  provenance : ExperienceProvenance
  consent : TrainingConsent
  alternatives_few : alternatives.length ≤ 16

structure TrainingExample where
  exampleId : Identifier
  promptContext : Text
  decision : Text
  alternatives : List Text
  output : Text
  review : Option Text
  userFeedback : Option Text
  rewardCandidate : Option RewardScore
  provenance : ExperienceProvenance
  consent : TrainingConsent
  alternatives_few : alternatives.length ≤ 16

structure PreferencePair where
  pairId : Identifier
  promptContext : Text
  preferred : Text
  rejected : Text
  provenance : ExperienceProvenance
  consent : TrainingConsent

def versionPattern (text : String) : Bool :=
  match text.toList.splitOn '.' with
  | [major, minor, patch] => [major, minor, patch].all fun part =>
      !part.isEmpty && part.all Char.isDigit
  | _ => false

structure TrainingDataset where
  name : Identifier
  version : String
  examples : List TrainingExample
  preferencePairs : List PreferencePair
  excludedCount : Nat
  exclusionReasons : List DatasetExclusionReason
  version_matched : versionPattern version = true
  few : examples.length ≤ 1000 ∧ preferencePairs.length ≤ 1000 ∧ excludedCount ≤ 1000 ∧
    exclusionReasons.length ≤ 8

def TrainingDataset.recordIds (dataset : TrainingDataset) : List Identifier :=
  dataset.examples.map (fun example_ => example_.exampleId) ++
    dataset.preferencePairs.map fun pair => pair.pairId

theorem version_points {version : String} (matched : versionPattern version = true) :
    version.toList.all identifierRest = true := by
  unfold versionPattern at matched
  split at matched
  · next major minor patch parts =>
      have joined : ['.'].intercalate (version.toList.splitOn '.') = version.toList :=
        List.intercalate_splitOn '.'
      rw [parts] at joined
      rw [← joined, List.all_eq_true]
      intro point among
      rw [List.all_eq_true] at matched
      have each : ∀ part ∈ [major, minor, patch], ∀ point ∈ part, identifierRest point = true := by
        intro part listed point inside
        have digits := (Bool.and_eq_true_iff.mp (matched part listed)).2
        have digit := List.all_eq_true.mp digits point inside
        simp [identifierRest, identifierLead, digit]
      simp only [List.intercalate, List.intersperse, List.flatten_cons, List.flatten_nil,
        List.mem_append, List.mem_singleton, List.not_mem_nil, or_false] at among
      rcases among with first | rfl | second | rfl | third
      · exact each major (by simp) point first
      · decide
      · exact each minor (by simp) point second
      · decide
      · exact each patch (by simp) point third
  · cases matched

theorem identifier_extended (identifier : Identifier) {suffix_ : String}
    (points : suffix_.toList.all identifierRest = true) :
    identifierPattern (identifier.text ++ suffix_) = true ↔
      identifier.text.length + suffix_.length ≤ 128 := by
  have matched := identifier.matched
  unfold identifierPattern at matched ⊢
  rw [String.toList_append, ← String.length_toList, ← String.length_toList]
  cases whole : identifier.text.toList with
  | nil =>
      rw [whole] at matched
      cases matched
  | cons head tail =>
      rw [whole] at matched
      simp only [Bool.and_eq_true, decide_eq_true_eq] at matched
      obtain ⟨⟨lead, _⟩, rest⟩ := matched
      simp only [List.cons_append, lead, List.length_append, List.length_cons,
        List.all_append, rest, points, Bool.and_true, Bool.true_and, decide_eq_true_eq]
      omega

end SynapseOS.Training
