import SynapseOS.Security.SecretPattern
import SynapseOS.TrainingDataset.Types

/-! From experiences to a training dataset (`core/training_dataset/pipeline.py`). -/

namespace SynapseOS.Training

open Execution Tools Security

section Pii

-- `str.isalnum`, of what is not ASCII
variable (alphanumeric : Nat → Bool)

def mailLetter (point : Nat) : Bool := lowerLetter (foldPoint point)

def mailboxPoint (point : Nat) : Bool :=
  mailLetter point || digit point || (PyStr.ofString "._%+-").contains point

def domainPoint (point : Nat) : Bool :=
  mailLetter point || digit point || (PyStr.ofString ".-").contains point

def wordBoundary (previous next : Option Nat) : Bool :=
  previous.any (wordPoint alphanumeric) != next.any (wordPoint alphanumeric)

/-- `[A-Z]{2,63}\b`. -/
def topLevelAt (text : PyStr) : Bool :=
  (List.range 64).any fun length => decide (2 ≤ length ∧ length ≤ text.length) &&
    (text.take length).all mailLetter && wordBoundary alphanumeric text[length - 1]? text[length]?

def domainAt (text : PyStr) : Bool :=
  (List.range text.length).any fun length =>
    decide (1 ≤ length) && (text.take length).all domainPoint &&
    decide (text[length]? = some 0x2E) && topLevelAt alphanumeric (text.drop (length + 1))

/-- `_EMAIL_PATTERN`, at the start of a text that follows a point. No mailbox point is an at
sign. -/
def emailAt (previous : Option Nat) (text : PyStr) : Bool :=
  wordBoundary alphanumeric previous text.head? && !(text.takeWhile mailboxPoint).isEmpty &&
    match text.dropWhile mailboxPoint with
    | 0x40 :: rest => domainAt alphanumeric rest
    | _ => false

/-- `_EMAIL_PATTERN.search`. -/
def emailIn : Option Nat → PyStr → Bool
  | _, [] => false
  | previous, point :: rest => emailAt alphanumeric previous (point :: rest) || emailIn
      (some point) rest

/-- `[0-9 .()\-]`. -/
def phonePoint (point : Nat) : Bool := digit point || (PyStr.ofString " .()-").contains point

/-- `[0-9][0-9 .()\-]{7,}[0-9](?!\w)`: the greedy match that steps back to a last digit. -/
def phoneNumberLength : PyStr → Option Nat
  | [] => none
  | point :: rest =>
      if digit point = true then
        let run := rest.takeWhile phonePoint
        ((List.range (run.length + 1)).reverse.find? fun length => decide (8 ≤ length) &&
          run[length - 1]?.any digit && !rest[length]?.any (wordPoint alphanumeric)).map (· + 1)
      else none

/-- `_PHONE_PATTERN`, at the start of a text that follows a point. -/
def phoneLength (previous : Option Nat) (text : PyStr) : Option Nat :=
  if previous.any (wordPoint alphanumeric) = true then none
  else
    match text with
    | 0x2B :: rest => (phoneNumberLength alphanumeric rest).map (· + 1)
    | _ => phoneNumberLength alphanumeric text

/-- `_PHONE_PATTERN.finditer`. -/
def phonesFrom : Nat → Option Nat → PyStr → List PyStr
  | 0, _, _ => []
  | _ + 1, _, [] => []
  | fuel + 1, previous, point :: rest =>
      match phoneLength alphanumeric previous (point :: rest) with
      | none => phonesFrom fuel (some point) rest
      | some length =>
          let covered := (point :: rest).take length
          covered :: phonesFrom fuel covered.getLast? ((point :: rest).drop length)

def containsObviousPii (text : PyStr) : Bool :=
  emailIn alphanumeric none text ||
    (phonesFrom alphanumeric text.length none text).any fun phone =>
      decide (10 ≤ phone.countP digit ∧ phone.countP digit ≤ 15)

example : containsObviousPii (fun _ => false) (.ofString "mail me: a.b@x.org") = true := by decide

example : containsObviousPii (fun _ => false) (.ofString "+1 (555) 010-9999") = true := by decide

end Pii

section Exclusion

variable (alphanumeric : Nat → Bool) (experience : ValidatedExperience)

def contentFields : List Text :=
  [experience.promptContext, experience.decision] ++ experience.alternatives ++
    [experience.result] ++
    experience.review.toList ++ experience.userFeedback.toList ++ experience.correctedAnswer.toList

def exclusionReason : Option DatasetExclusionReason :=
  if experience.validated = false then some .notValidated
  else if experience.consent.authorized = false ∨ experience.consent.allowedUses = [] then
    some .notAuthorized
  else if (contentFields experience).any
    (fun text => containsObviousSecret alphanumeric text.points) = true then
    some .secretDetected
  else if (contentFields experience).any (fun text => containsObviousPii alphanumeric text.points) =
    true then
    some .piiDetected
  else none

def givesExample : Bool :=
  decide (exclusionReason alphanumeric experience = none ∧
    TrainingUsage.fineTuning ∈ experience.consent.allowedUses)

def givesPair : Bool :=
  decide (exclusionReason alphanumeric experience = none ∧
      TrainingUsage.preferenceLearning ∈ experience.consent.allowedUses) &&
    experience.correctedAnswer.any fun corrected => decide (corrected ≠ experience.result)

end Exclusion

section Records

variable (version : String) (experience : ValidatedExperience)

def trainingExample : Except ValidationError TrainingExample :=
  if matched : identifierPattern (experience.experienceId.text ++ (":v" ++ version)) = true then
    .ok
      { exampleId := ⟨experience.experienceId.text ++ (":v" ++ version), matched⟩
        promptContext := experience.promptContext
        decision := experience.decision
        alternatives := experience.alternatives
        output := experience.result
        review := experience.review
        userFeedback := experience.userFeedback
        rewardCandidate := experience.rewardCandidate
        provenance := experience.provenance
        consent := experience.consent
        alternatives_few := experience.alternatives_few }
  else .error (.invalid "TrainingExample")

def preferencePair (corrected : Text) : Except ValidationError PreferencePair :=
  if matched : identifierPattern (experience.experienceId.text ++ (":preference:v" ++ version)) =
    true then
    .ok
      { pairId := ⟨experience.experienceId.text ++ (":preference:v" ++ version), matched⟩
        promptContext := experience.promptContext
        preferred := corrected
        rejected := experience.result
        provenance := experience.provenance
        consent := experience.consent }
  else .error (.invalid "PreferencePair")

end Records

structure Collected where
  examples : List TrainingExample
  pairs : List PreferencePair
  exclusions : List DatasetExclusionReason

section Build

variable (alphanumeric : Nat → Bool) (version : String)

def examplesOf (experience : ValidatedExperience) : Except ValidationError (List TrainingExample) :=
  if TrainingUsage.fineTuning ∈ experience.consent.allowedUses then do
    let example_ ← trainingExample version experience
    pure [example_]
  else pure []

def pairsOf (experience : ValidatedExperience) : Except ValidationError (List PreferencePair) :=
  match experience.correctedAnswer with
  | none => pure []
  | some corrected =>
      if TrainingUsage.preferenceLearning ∈ experience.consent.allowedUses ∧
        corrected ≠ experience.result then do
        let pair ← preferencePair version experience corrected
        pure [pair]
      else pure []

def collect : Collected → List ValidatedExperience → Except ValidationError Collected
  | done, [] => .ok done
  | done, experience :: rest =>
      match exclusionReason alphanumeric experience with
      | some reason => collect { done with exclusions := done.exclusions ++ [reason] } rest
      | none => do
          let examples ← examplesOf version experience
          let pairs ← pairsOf version experience
          collect { done with examples := done.examples ++ examples, pairs :=
            done.pairs ++ pairs } rest

/-- `sorted(set(reasons))`, by their names. -/
def sortedReasons (reasons : List DatasetExclusionReason) : List DatasetExclusionReason :=
  [.notAuthorized, .notValidated, .piiDetected, .secretDetected].filter fun reason =>
    decide (reason ∈ reasons)

def Collected.dataset (collected : Collected) (name version : String) :
    Except ValidationError TrainingDataset :=
  if named : identifierPattern name = true then
    if versioned : versionPattern version = true then
      if few : collected.examples.length ≤ 1000 ∧ collected.pairs.length ≤ 1000 ∧
          collected.exclusions.length ≤ 1000 ∧ (sortedReasons collected.exclusions).length ≤ 8 then
        .ok
          { name := ⟨name, named⟩
            version := version
            examples := collected.examples
            preferencePairs := collected.pairs
            excludedCount := collected.exclusions.length
            exclusionReasons := sortedReasons collected.exclusions
            version_matched := versioned
            few := few }
      else .error (.invalid "TrainingDataset")
    else .error (.invalid "TrainingDataset")
  else .error (.invalid "TrainingDataset")

def build (name version : String) (experiences : List ValidatedExperience) :
    Except ValidationError TrainingDataset :=
  if 1000 < experiences.length then .error (.invalid "experiences")
  else do
    let collected ← collect alphanumeric version ⟨[], [], []⟩ experiences
    collected.dataset name version

end Build

section Collecting

variable {alphanumeric : Nat → Bool} {version : String} {experience : ValidatedExperience}
  {experiences : List ValidatedExperience} {start done : Collected}

def ExampleOf (version : String) (experience : ValidatedExperience) (example_ : TrainingExample) :
    Prop :=
  trainingExample version experience = .ok example_

def PairOf (version : String) (experience : ValidatedExperience) (pair : PreferencePair) : Prop :=
  ∃ corrected, experience.correctedAnswer = some corrected ∧
    preferencePair version experience corrected = .ok pair

theorem forall₂_singleton {α β : Type} {related : α → β → Prop} {item : α} {values : List β} :
    List.Forall₂ related [item] values ↔ ∃ value, related item value ∧ values = [value] := by
  constructor
  · intro each
    cases each with
    | cons first rest =>
        cases rest
        exact ⟨_, first, rfl⟩
  · rintro ⟨value, first, rfl⟩
    exact .cons first .nil

theorem examplesOf_iff (admissible : exclusionReason alphanumeric experience = none)
    {examples : List TrainingExample} : examplesOf version experience = .ok examples ↔
      List.Forall₂ (ExampleOf version)
      ([experience].filter (givesExample alphanumeric)) examples := by
  unfold examplesOf
  by_cases tuned : TrainingUsage.fineTuning ∈ experience.consent.allowedUses
  · have gives : givesExample alphanumeric experience = true := decide_eq_true ⟨admissible, tuned⟩
    rw [if_pos tuned, List.filter_cons_of_pos gives, List.filter_nil, forall₂_singleton]
    unfold ExampleOf
    cases trainingExample version experience with
    | error e =>
        constructor
        · intro same
          cases same
        · rintro ⟨_, made, _⟩
          cases made
    | ok example_ =>
        constructor
        · intro same
          exact ⟨example_, rfl, (Except.ok.inj same).symm⟩
        · rintro ⟨other, same, rfl⟩
          rw [Except.ok.inj same]
          rfl
  · have none_ : ¬givesExample alphanumeric experience = true := by
      intro gives
      exact tuned (of_decide_eq_true gives).2
    rw [if_neg tuned, List.filter_cons_of_neg none_, List.filter_nil, List.forall₂_nil_left_iff]
    exact ⟨fun same => (Except.ok.inj same).symm, fun same => by rw [same]; rfl⟩

theorem pairOf_corrected {corrected : Text} (corrects : experience.correctedAnswer = some corrected)
    {pair : PreferencePair} :
    PairOf version experience pair ↔ preferencePair version experience corrected = .ok pair := by
  unfold PairOf
  rw [corrects]
  constructor
  · rintro ⟨other, same, made⟩
    rw [Option.some.inj same]
    exact made
  · intro made
    exact ⟨corrected, rfl, made⟩

theorem pairsOf_iff (admissible : exclusionReason alphanumeric experience = none)
    {pairs : List PreferencePair} : pairsOf version experience = .ok pairs ↔
      List.Forall₂ (PairOf version) ([experience].filter (givesPair alphanumeric)) pairs := by
  have nothing : ¬givesPair alphanumeric experience = true →
      ((.ok [] : Except ValidationError (List PreferencePair)) = .ok pairs ↔
        List.Forall₂ (PairOf version) ([experience].filter (givesPair alphanumeric)) pairs) := by
    intro none_
    rw [List.filter_cons_of_neg none_, List.filter_nil, List.forall₂_nil_left_iff]
    exact ⟨fun same => (Except.ok.inj same).symm, fun same => by rw [same]⟩
  unfold pairsOf
  cases corrects : experience.correctedAnswer with
  | none =>
      apply nothing
      simp [givesPair, corrects]
  | some corrected =>
      dsimp only
      by_cases preferred : TrainingUsage.preferenceLearning ∈ experience.consent.allowedUses ∧
          corrected ≠ experience.result
      · have gives : givesPair alphanumeric experience = true := by
          simp [givesPair, corrects, admissible, preferred]
        rw [if_pos preferred, List.filter_cons_of_pos gives, List.filter_nil, forall₂_singleton]
        simp only [pairOf_corrected corrects]
        cases preferencePair version experience corrected with
        | error e =>
            constructor
            · intro same
              cases same
            · rintro ⟨_, made, _⟩
              cases made
        | ok pair =>
            constructor
            · intro same
              exact ⟨pair, rfl, (Except.ok.inj same).symm⟩
            · rintro ⟨other, same, rfl⟩
              rw [Except.ok.inj same]
              rfl
      · rw [if_neg preferred]
        apply nothing
        intro gives
        simp only [givesPair, corrects, Option.any_some, Bool.and_eq_true, decide_eq_true_eq]
          at gives
        exact preferred ⟨gives.1.2, gives.2⟩

theorem excluded_gives {reason : DatasetExclusionReason}
    (excluded : exclusionReason alphanumeric experience = some reason) :
    givesExample alphanumeric experience = false ∧ givesPair alphanumeric experience = false := by
  simp [givesExample, givesPair, excluded]

theorem forall₂_split {α β : Type} {related : α → β → Prop} {item : α} {chosen : α → Bool}
    {items : List α} {values : List β} :
    List.Forall₂ related ((item :: items).filter chosen) values ↔
      ∃ first rest, List.Forall₂ related ([item].filter chosen) first ∧
        List.Forall₂ related (items.filter chosen) rest ∧ values = first ++ rest := by
  cases picked : chosen item with
  | false =>
      rw [List.filter_cons_of_neg (by simp [picked]), List.filter_cons_of_neg (by simp [picked])]
      simp
  | true =>
      rw [List.filter_cons_of_pos picked, List.filter_cons_of_pos picked, List.filter_nil]
      constructor
      · intro each
        cases each with
        | cons first rest => exact ⟨[_], _, .cons first .nil, rest, rfl⟩
      · rintro ⟨first, rest, one, others, rfl⟩
        rw [forall₂_singleton] at one
        rcases one with ⟨value, holds, rfl⟩
        exact .cons holds others

/-- The loop collects the records of the experiences that give them, in order. -/
theorem collect_iff : collect alphanumeric version start experiences = .ok done ↔
    ∃ examples pairs,
      List.Forall₂ (ExampleOf version) (experiences.filter (givesExample alphanumeric)) examples ∧
      List.Forall₂ (PairOf version) (experiences.filter (givesPair alphanumeric)) pairs ∧
      done = ⟨start.examples ++ examples, start.pairs ++ pairs,
        start.exclusions ++ experiences.filterMap (exclusionReason alphanumeric)⟩ := by
  induction experiences generalizing start with
  | nil =>
      simp only [collect, List.filter_nil, List.filterMap_nil, List.forall₂_nil_left_iff,
        List.append_nil]
      constructor
      · intro same
        obtain rfl := Except.ok.inj same
        exact ⟨[], [], rfl, rfl, by simp⟩
      · rintro ⟨_, _, rfl, rfl, rfl⟩
        simp
  | cons experience rest ih =>
      have ofExamples : ∀ examples, List.Forall₂ (ExampleOf version)
          ((experience :: rest).filter (givesExample alphanumeric)) examples ↔ _ :=
            fun _ => forall₂_split
      have ofPairs : ∀ pairs, List.Forall₂ (PairOf version)
          ((experience :: rest).filter (givesPair alphanumeric)) pairs ↔ _ := fun _ => forall₂_split
      unfold collect
      simp only [ofExamples, ofPairs]
      clear ofExamples ofPairs
      cases judged : exclusionReason alphanumeric experience with
      | some reason =>
          obtain ⟨noExample, noPair⟩ := excluded_gives judged
          dsimp only
          rw [ih, List.filterMap_cons_some judged]
          simp [noExample, noPair]
      | none =>
          rw [List.filterMap_cons_none judged]
          dsimp only
          constructor
          · intro whole
            cases examples : examplesOf version experience with
            | error e =>
                rw [examples] at whole
                cases whole
            | ok first =>
                rw [examples] at whole
                cases pairs : pairsOf version experience with
                | error e =>
                    rw [pairs] at whole
                    cases whole
                | ok second =>
                    rw [pairs] at whole
                    obtain ⟨more, others, eachExample, eachPair, rfl⟩ := ih.mp whole
                    exact ⟨_, _,
                      ⟨first, more, (examplesOf_iff judged).mp examples, eachExample, rfl⟩,
                      ⟨second, others, (pairsOf_iff judged).mp pairs, eachPair, rfl⟩, by simp⟩
          · rintro ⟨_, _, ⟨first, more, firstExample, eachExample, rfl⟩,
              ⟨second, others, firstPair, eachPair, rfl⟩, rfl⟩
            rw [(examplesOf_iff judged).mpr firstExample, (pairsOf_iff judged).mpr firstPair]
            exact ih.mpr ⟨more, others, eachExample, eachPair, by simp⟩

end Collecting

end SynapseOS.Training
