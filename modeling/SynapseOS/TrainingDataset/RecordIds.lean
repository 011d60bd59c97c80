import SynapseOS.TrainingDataset.Pipeline

/-! When a dataset is built, and when its records have different identifiers. -/

namespace SynapseOS.Training

open Execution Tools

section Fitting

variable (alphanumeric : Nat → Bool) (version : String) (experiences : List ValidatedExperience)

structure Fits : Prop where
  examples : ∀ experience ∈ experiences, givesExample alphanumeric experience = true →
    experience.experienceId.text.length + version.length ≤ 126
  pairs : ∀ experience ∈ experiences, givesPair alphanumeric experience = true →
    experience.experienceId.text.length + version.length ≤ 115

/-- No example is taken from an experience that is named like the preference of another one. -/
def Apart : Prop :=
  ∀ first ∈ experiences, givesExample alphanumeric first = true →
    ∀ second ∈ experiences, givesPair alphanumeric second = true →
      first.experienceId.text ≠ second.experienceId.text ++ ":preference"

def Distinct : Prop := (experiences.map fun experience => experience.experienceId).Nodup

end Fitting

section Building

variable {alphanumeric : Nat → Bool} {name version : String}
    {experiences : List ValidatedExperience}
  {experience : ValidatedExperience} {dataset : TrainingDataset}

theorem build_records (built : build alphanumeric name version experiences = .ok dataset) :
    List.Forall₂ (ExampleOf version)
    (experiences.filter (givesExample alphanumeric)) dataset.examples ∧
      List.Forall₂ (PairOf version) (experiences.filter (givesPair alphanumeric))
        dataset.preferencePairs := by
  unfold build at built
  split at built
  · cases built
  · cases collected : collect alphanumeric version ⟨[], [], []⟩ experiences with
    | error e =>
        rw [collected] at built
        cases built
    | ok done =>
        obtain ⟨examples, pairs, eachExample, eachPair, rfl⟩ := collect_iff.mp collected
        rw [collected] at built
        change Collected.dataset _ name version = .ok dataset at built
        unfold Collected.dataset at built
        split_ifs at built
        obtain rfl := Except.ok.inj built
        exact ⟨eachExample, eachPair⟩

theorem sortedReasons_few (reasons : List DatasetExclusionReason) :
    (sortedReasons reasons).length ≤ 8 :=
  (List.length_filter_le _ _).trans (by decide)

theorem records_build (few : experiences.length ≤ 1000) (named : identifierPattern name = true)
    (versioned : versionPattern version = true) {examples : List TrainingExample}
    {pairs : List PreferencePair}
    (eachExample : List.Forall₂ (ExampleOf version)
      (experiences.filter (givesExample alphanumeric)) examples)
    (eachPair : List.Forall₂ (PairOf version) (experiences.filter (givesPair alphanumeric)) pairs) :
    ∃ dataset, build alphanumeric name version experiences = .ok dataset := by
  have collected : collect alphanumeric version ⟨[], [], []⟩ experiences = .ok
      ⟨examples, pairs, experiences.filterMap (exclusionReason alphanumeric)⟩ :=
    collect_iff.mpr ⟨examples, pairs, eachExample, eachPair, rfl⟩
  have someExamples : examples.length ≤ 1000 := by
    rw [← eachExample.length_eq]
    exact (List.length_filter_le _ _).trans few
  have somePairs : pairs.length ≤ 1000 := by
    rw [← eachPair.length_eq]
    exact (List.length_filter_le _ _).trans few
  have someExclusions : (experiences.filterMap (exclusionReason alphanumeric)).length ≤ 1000 :=
    (List.length_filterMap_le _ _).trans few
  unfold build
  rw [if_neg (by omega), collected]
  change ∃ dataset, Collected.dataset _ name version = .ok dataset
  unfold Collected.dataset
  rw [dif_pos named, dif_pos versioned,
    dif_pos ⟨someExamples, somePairs, someExclusions, sortedReasons_few _⟩]
  exact ⟨_, rfl⟩

theorem forall₂_exists {α β : Type} {related : α → β → Prop} {items : List α} :
    (∃ values, List.Forall₂ related items values) ↔
    ∀ item ∈ items, ∃ value, related item value := by
  induction items with
  | nil => exact ⟨fun _ _ among => absurd among List.not_mem_nil, fun _ => ⟨[], .nil⟩⟩
  | cons item rest ih =>
      rw [List.forall_mem_cons, ← ih]
      constructor
      · rintro ⟨_, each⟩
        cases each with
        | cons first others => exact ⟨⟨_, first⟩, _, others⟩
      · rintro ⟨⟨value, first⟩, values, others⟩
        exact ⟨value :: values, .cons first others⟩

section Version

variable (versioned : versionPattern version = true)

include versioned

theorem exampleOf_exists : (∃ example_, ExampleOf version experience example_) ↔
    experience.experienceId.text.length + version.length ≤ 126 := by
  have points : (":v" ++ version).toList.all identifierRest = true := by
    rw [String.toList_append, List.all_append, version_points versioned]
    decide
  have short := identifier_extended experience.experienceId points
  rw [String.length_append] at short
  have two : ":v".length = 2 := rfl
  unfold ExampleOf trainingExample
  split
  · next matched =>
      have fits := short.mp matched
      exact ⟨fun _ => by omega, fun _ => ⟨_, rfl⟩⟩
  · next unmatched =>
      constructor
      · rintro ⟨_, made⟩
        cases made
      · intro fits
        exact absurd (short.mpr (by omega)) unmatched

theorem pairOf_exists (gives : givesPair alphanumeric experience = true) :
    (∃ pair, PairOf version experience pair) ↔
      experience.experienceId.text.length + version.length ≤ 115 := by
  have points : (":preference:v" ++ version).toList.all identifierRest = true := by
    rw [String.toList_append, List.all_append, version_points versioned]
    decide
  have short := identifier_extended experience.experienceId points
  rw [String.length_append] at short
  have thirteen : ":preference:v".length = 13 := rfl
  cases corrects : experience.correctedAnswer with
  | none => simp [givesPair, corrects] at gives
  | some corrected =>
      simp only [pairOf_corrected corrects]
      unfold preferencePair
      split
      · next matched =>
          have fits := short.mp matched
          exact ⟨fun _ => by omega, fun _ => ⟨_, rfl⟩⟩
      · next unmatched =>
          constructor
          · rintro ⟨_, made⟩
            cases made
          · intro fits
            exact absurd (short.mpr (by omega)) unmatched

/-- A dataset is built exactly when the identifiers of its records fit. -/
theorem build_fits (few : experiences.length ≤ 1000) (named : identifierPattern name = true) :
    (∃ dataset, build alphanumeric name version experiences = .ok dataset) ↔
      Fits alphanumeric version experiences := by
  constructor
  · rintro ⟨dataset, built⟩
    obtain ⟨eachExample, eachPair⟩ := build_records built
    constructor
    · intro experience among gives
      exact (exampleOf_exists versioned).mp (forall₂_exists.mp ⟨_, eachExample⟩ experience
        (List.mem_filter.mpr ⟨among, gives⟩))
    · intro experience among gives
      exact (pairOf_exists versioned gives).mp (forall₂_exists.mp ⟨_, eachPair⟩ experience
        (List.mem_filter.mpr ⟨among, gives⟩))
  · intro fits
    have eachExample : ∃ examples, List.Forall₂ (ExampleOf version)
        (experiences.filter (givesExample alphanumeric)) examples := by
      apply forall₂_exists.mpr
      intro experience kept
      rcases List.mem_filter.mp kept with ⟨among, gives⟩
      exact (exampleOf_exists versioned).mpr (fits.examples experience among gives)
    have eachPair : ∃ pairs, List.Forall₂ (PairOf version)
        (experiences.filter (givesPair alphanumeric)) pairs := by
      apply forall₂_exists.mpr
      intro experience kept
      rcases List.mem_filter.mp kept with ⟨among, gives⟩
      exact (pairOf_exists versioned gives).mpr (fits.pairs experience among gives)
    rcases eachExample with ⟨examples, eachExample⟩
    rcases eachPair with ⟨pairs, eachPair⟩
    exact records_build few named versioned eachExample eachPair

end Version

theorem exampleOf_id {example_ : TrainingExample} (made : ExampleOf version experience example_) :
    example_.exampleId.text = experience.experienceId.text ++ (":v" ++ version) := by
  unfold ExampleOf trainingExample at made
  split at made
  · obtain rfl := Except.ok.inj made
    rfl
  · cases made

theorem pairOf_id {pair : PreferencePair} (made : PairOf version experience pair) :
    pair.pairId.text = experience.experienceId.text ++ (":preference:v" ++ version) := by
  rcases made with ⟨corrected, _, made⟩
  unfold preferencePair at made
  split at made
  · obtain rfl := Except.ok.inj made
    rfl
  · cases made

theorem forall₂_map {α β γ : Type} {related : α → β → Prop} {f : β → γ} {g : α → γ} {items : List α}
    {values : List β} (each : List.Forall₂ related items values)
    (same : ∀ item value, related item value → f value = g item) : values.map f = items.map g := by
  induction each with
  | nil => rfl
  | cons first _ ih => rw [List.map_cons, List.map_cons, same _ _ first, ih]

theorem recordIds_texts (built : build alphanumeric name version experiences = .ok dataset) :
    dataset.recordIds.map (fun identifier => identifier.text) =
      (experiences.filter (givesExample alphanumeric)).map
          (fun experience => experience.experienceId.text ++ (":v" ++ version)) ++
        (experiences.filter (givesPair alphanumeric)).map
          fun experience => experience.experienceId.text ++ (":preference:v" ++ version) := by
  obtain ⟨eachExample, eachPair⟩ := build_records built
  unfold TrainingDataset.recordIds
  rw [List.map_append, List.map_map, List.map_map]
  congr 1
  · exact forall₂_map eachExample fun _ _ => exampleOf_id
  · exact forall₂_map eachPair fun _ _ => pairOf_id

theorem text_injective : Function.Injective Identifier.text := by
  intro first second same
  cases first
  cases second
  cases same
  rfl

theorem extended_injective (suffix_ : String) :
    Function.Injective fun experience : Identifier => experience.text ++ suffix_ := by
  intro first second same
  apply text_injective
  apply String.toList_injective
  have lists := congrArg String.toList same
  simp only [String.toList_append] at lists
  exact List.append_cancel_right lists

theorem shared_id {first second : Identifier} :
    first.text ++ (":v" ++ version) = second.text ++ (":preference:v" ++ version) ↔
      first.text = second.text ++ ":preference" := by
  have split_ : second.text ++ (":preference:v" ++ version) =
      second.text ++ ":preference" ++ (":v" ++ version) := by
    have marks : ":preference:v" = ":preference" ++ ":v" := by decide
    rw [marks, String.append_assoc, String.append_assoc]
  rw [split_]
  constructor
  · intro same
    apply String.toList_injective
    have lists : first.text.toList ++ (":v" ++ version).toList =
        (second.text ++ ":preference").toList ++ (":v" ++ version).toList := by
      rw [← String.toList_append, ← String.toList_append, same]
    exact List.append_cancel_right lists
  · intro same
    rw [same]

theorem kept_nodup {chosen : ValidatedExperience → Bool} (distinct : Distinct experiences)
    (suffix_ : String) : ((experiences.filter chosen).map fun experience =>
      experience.experienceId.text ++ suffix_).Nodup := by
  have ids : ((experiences.filter chosen).map fun experience => experience.experienceId).Nodup :=
    distinct.sublist (List.filter_sublist.map _)
  have texts := ids.map (extended_injective suffix_)
  rw [List.map_map] at texts
  exact texts

/-- The record identifiers of distinct experiences are distinct exactly when these are apart. -/
theorem recordIds_nodup (built : build alphanumeric name version experiences = .ok dataset)
    (distinct : Distinct experiences) :
    dataset.recordIds.Nodup ↔ Apart alphanumeric experiences := by
  rw [← List.nodup_map_iff text_injective, recordIds_texts built, List.nodup_append']
  constructor
  · rintro ⟨_, _, disjoint⟩ first among gives second there corrects same
    have shared : first.experienceId.text ++ (":v" ++ version) =
        second.experienceId.text ++ (":preference:v" ++ version) := shared_id.mpr same
    exact disjoint (List.mem_map.mpr ⟨first, List.mem_filter.mpr ⟨among, gives⟩, rfl⟩)
      (List.mem_map.mpr ⟨second, List.mem_filter.mpr ⟨there, corrects⟩, shared.symm⟩)
  · intro apart
    refine ⟨kept_nodup distinct _, kept_nodup distinct _, ?_⟩
    intro text ofExample ofPair
    rcases List.mem_map.mp ofExample with ⟨first, kept, rfl⟩
    rcases List.mem_map.mp ofPair with ⟨second, corrected, same⟩
    rcases List.mem_filter.mp kept with ⟨among, gives⟩
    rcases List.mem_filter.mp corrected with ⟨there, corrects⟩
    exact apart first among gives second there corrects (shared_id.mp same.symm)

/-- What `build` owes its experiences: a dataset, with distinct identifiers if theirs are
distinct. -/
def Builds (alphanumeric : Nat → Bool) (name version : String)
    (experiences : List ValidatedExperience) : Prop :=
  ∃ dataset, build alphanumeric name version experiences = .ok dataset ∧
    (Distinct experiences → dataset.recordIds.Nodup)

/-- A dataset with distinct identifiers is built exactly when all identifiers fit and none is
shared. -/
theorem build_distinct (alphanumeric : Nat → Bool) (name version : String)
    (experiences : List ValidatedExperience) (few : experiences.length ≤ 1000)
    (named : identifierPattern name = true) (versioned : versionPattern version = true) :
    Builds alphanumeric name version experiences ↔
      Fits alphanumeric version experiences ∧
      (Distinct experiences → Apart alphanumeric experiences) := by
  rw [← build_fits versioned few named]
  constructor
  · rintro ⟨dataset, built, different⟩
    exact ⟨⟨dataset, built⟩,
      fun distinct => (recordIds_nodup built distinct).mp (different distinct)⟩
  · rintro ⟨⟨dataset, built⟩, apart⟩
    exact ⟨dataset, built, fun distinct => (recordIds_nodup built distinct).mpr (apart distinct)⟩

end Building

section Sample

def sampleText (text : String) (bounds : 1 ≤ (PyStr.ofString text).length ∧
    (PyStr.ofString text).length ≤ 16384)
      (unicode : (PyStr.ofString text).any surrogate = false) : Text :=
  ⟨.ofString text, bounds, unicode⟩

theorem reviewer_identifier : identifierPattern "reviewer" = true := by decide

def sampleProvenance : ExperienceProvenance where
  projectId := ⟨"project", by decide⟩
  sourceEventIds := [⟨"event", by decide⟩]
  validatedBy := ⟨"reviewer", reviewer_identifier⟩
  validationEventId := ⟨"validation", by decide⟩
  collectedAt := ⟨0, 0⟩
  events_few := by decide
  events_unique := List.nodup_singleton _

def sampleExperience (experienceId : Identifier) : ValidatedExperience where
  experienceId := experienceId
  validated := true
  promptContext := sampleText "Add" (by decide) (by decide)
  decision := sampleText "Add" (by decide) (by decide)
  alternatives := []
  result := sampleText "Bad" (by decide) (by decide)
  review := none
  userFeedback := none
  correctedAnswer := some (sampleText "Good" (by decide) (by decide))
  rewardCandidate := none
  provenance := sampleProvenance
  consent :=
    { authorized := true
      dataOwnerId := ⟨"owner", by decide⟩
      consentReference := ⟨"consent", by decide⟩
      allowedUses := [.fineTuning, .preferenceLearning]
      uses_unique := by decide
      consistent := .inl rfl }
  alternatives_few := by decide

theorem sampleExperience_gives (experienceId : Identifier) :
    givesExample (fun _ => false) (sampleExperience experienceId) = true ∧
      givesPair (fun _ => false) (sampleExperience experienceId) = true := by
  have content : contentFields (sampleExperience experienceId) =
      contentFields (sampleExperience ⟨"x", by decide⟩) := rfl
  have harmless : ((contentFields (sampleExperience ⟨"x", by decide⟩)).any fun text =>
        Security.containsObviousSecret (fun _ => false) text.points) = false ∧
      ((contentFields (sampleExperience ⟨"x", by decide⟩)).any fun text =>
        containsObviousPii (fun _ => false) text.points) = false := by
    decide
  have admissible : exclusionReason (fun _ => false) (sampleExperience experienceId) = none := by
    unfold exclusionReason
    rw [content, harmless.1, harmless.2]
    rfl
  have corrected : sampleText "Good" (by decide) (by decide) ≠ sampleText "Bad" (by decide)
      (by decide) := by
    decide
  constructor
  · exact decide_eq_true ⟨admissible, List.mem_cons_self⟩
  · exact Bool.and_eq_true_iff.mpr ⟨decide_eq_true
      ⟨admissible, List.mem_cons_of_mem _ List.mem_cons_self⟩, decide_eq_true corrected⟩

theorem sampleVersion_matched : versionPattern "1.0.0" = true := by decide

def plainId : Identifier := ⟨"x", by decide⟩

def preferenceId : Identifier := ⟨"x:preference", by decide⟩

def likeId : Identifier := ⟨"x:preferences", by decide⟩

theorem build_distinct_sample : ∃ dataset,
    build (fun _ => false) "set" "1.0.0" [sampleExperience likeId, sampleExperience plainId] =
      .ok dataset ∧
      dataset.recordIds.Nodup := by
  have distinct : Distinct [sampleExperience likeId, sampleExperience plainId] := by
    unfold Distinct
    decide
  have builds : Builds (fun _ => false) "set" "1.0.0" [sampleExperience likeId,
      sampleExperience plainId] := by
    apply (build_distinct _ "set" "1.0.0" _ (by decide) (by decide) sampleVersion_matched).mpr
    refine ⟨⟨?_, ?_⟩, ?_⟩
    · intro experience among _
      rcases List.mem_pair.mp among with rfl | rfl <;> decide
    · intro experience among _
      rcases List.mem_pair.mp among with rfl | rfl <;> decide
    · intro _ first among _ second there _
      rcases List.mem_pair.mp among with rfl | rfl <;> rcases List.mem_pair.mp there
        with rfl | rfl <;> decide
  obtain ⟨dataset, built, different⟩ := builds
  exact ⟨dataset, built, different distinct⟩

theorem identifierPattern_letters (head : Char) (tail : List Char) :
    identifierPattern (String.ofList (head :: tail)) =
      (identifierLead head && decide (tail.length ≤ 127) && tail.all identifierRest) := by
  unfold identifierPattern
  rw [String.toList_ofList]

def longId : Identifier :=
  ⟨String.ofList (List.replicate 128 'a'),
    (identifierPattern_letters 'a' (List.replicate 127 'a')).trans (by decide +kernel)⟩

theorem build_long {experienceId : Identifier} (long : 126 < experienceId.text.length)
    (dataset : TrainingDataset) :
    build (fun _ => false) "set" "1.0.0" [sampleExperience experienceId] ≠ .ok dataset := by
  intro built
  have fits := (build_fits sampleVersion_matched (by simp) (by decide)).mp ⟨dataset, built⟩
  have short : experienceId.text.length + "1.0.0".length ≤ 126 :=
    fits.examples _ List.mem_cons_self (sampleExperience_gives experienceId).1
  omega

/-- A long identifier fails the build, and the preference of an experience can have the identifier
of another one's example. -/
theorem build_shared :
    (∀ dataset, build (fun _ => false) "set" "1.0.0" [sampleExperience longId] ≠ .ok dataset) ∧
      ∃ dataset, build (fun _ => false) "set" "1.0.0"
          [sampleExperience preferenceId, sampleExperience plainId] = .ok dataset ∧
        Distinct [sampleExperience preferenceId, sampleExperience plainId] ∧
        ¬dataset.recordIds.Nodup := by
  refine ⟨build_long (by decide +kernel), ?_⟩
  have fits : Fits (fun _ => false) "1.0.0" [sampleExperience preferenceId,
      sampleExperience plainId] := by
    constructor
    · intro experience among _
      rcases List.mem_pair.mp among with rfl | rfl <;> decide
    · intro experience among _
      rcases List.mem_pair.mp among with rfl | rfl <;> decide
  have distinct : Distinct [sampleExperience preferenceId, sampleExperience plainId] := by
    unfold Distinct
    decide
  obtain ⟨dataset, built⟩ : ∃ dataset, build (fun _ => false) "set" "1.0.0"
      [sampleExperience preferenceId, sampleExperience plainId] = .ok dataset :=
    (build_fits sampleVersion_matched (by decide) (by decide)).mpr fits
  refine ⟨dataset, built, distinct, fun different => ?_⟩
  exact (recordIds_nodup built distinct).mp different
    (sampleExperience preferenceId) List.mem_cons_self
    (sampleExperience_gives _).1 (sampleExperience plainId)
    (List.mem_cons_of_mem _ List.mem_cons_self) (sampleExperience_gives _).2 (by decide)

end Sample

end SynapseOS.Training
