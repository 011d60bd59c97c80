import SynapseOS.Scoring.Reputation

/-! What a reputation snapshot depends on, where it lies, and that better measurements never lower
it. -/

namespace SynapseOS.Scoring

open Execution Means

def meanAt (values : List ℚ) : Option ℚ := if values = [] then none else some (mean values)

def valuesOf (ms : List ReputationMeasurement) (type : AgentScoreType) : List ℚ :=
  Dict.valuesAt (fun m => some m.scoreType) (fun m => (m.value : ℚ)) ms type

def valuesIn (ms : List ReputationMeasurement) (domain : Domain) : List ℚ :=
  Dict.valuesAt ReputationMeasurement.domain (fun m => (m.value : ℚ)) ms domain

def typeMean (ms : List ReputationMeasurement) (type : AgentScoreType) : Option ℚ :=
  meanAt (valuesOf ms type)

def domainMean (ms : List ReputationMeasurement) (domain : Domain) : Option ℚ :=
  meanAt (valuesIn ms domain)

section Calculate

theorem meanAt_unit {values : List ℚ} (inside : ∀ v ∈ values, 0 ≤ v ∧ v ≤ 1) {q : ℚ}
    (measured : meanAt values = some q) : 0 ≤ q ∧ q ≤ 1 := by
  unfold meanAt at measured
  split at measured
  · cases measured
  · next some_ =>
      cases measured
      exact mean_between some_ inside

theorem typeMean_unit {ms : List ReputationMeasurement} {type : AgentScoreType} {q : ℚ}
    (measured : typeMean ms type = some q) : 0 ≤ q ∧ q ≤ 1 := by
  apply meanAt_unit _ measured
  intro v member
  obtain ⟨m, _, _, rfl⟩ := Dict.mem_valuesAt.mp member
  exact m.value.2

theorem domainMean_unit {ms : List ReputationMeasurement} {domain : Domain} {q : ℚ}
    (measured : domainMean ms domain = some q) : 0 ≤ q ∧ q ≤ 1 := by
  apply meanAt_unit _ measured
  intro v member
  obtain ⟨m, _, _, rfl⟩ := Dict.mem_valuesAt.mp member
  exact m.value.2

theorem quantize_unit {q : ℚ} (inside : 0 ≤ q ∧ q ≤ 1) : 0 ≤ quantize q ∧ quantize q ≤ 1 := by
  obtain ⟨low, high⟩ := Rounding.halfUp_unit inside.1 inside.2 10000
  unfold quantize
  constructor
  · apply div_nonneg _ (by norm_num)
    exact_mod_cast low
  · rw [div_le_one (by norm_num)]
    exact_mod_cast high

theorem quantize_mono {a b : ℚ} (le : a ≤ b) : quantize a ≤ quantize b := by
  have scaled : a * (10000 : Nat) ≤ b * (10000 : Nat) := mul_le_mul_of_nonneg_right le (by norm_num)
  apply div_le_div_of_nonneg_right _ (by norm_num)
  exact_mod_cast Rounding.halfUp_mono scaled

theorem mem_present {means : AgentScoreType → Option ℚ} {part : ℚ × ℚ} : part ∈ present means ↔
    ∃ type, (type, part.2) ∈ weights ∧ means type = some part.1 := by
  simp only [present, List.mem_filterMap, Option.map_eq_some_iff, Prod.exists]
  constructor
  · rintro ⟨type, weight, weighted, mean, measured, rfl⟩
    exact ⟨type, weighted, measured⟩
  · rintro ⟨type, weighted, measured⟩
    exact ⟨type, part.2, weighted, part.1, measured, rfl⟩

theorem weights_pos : ∀ entry ∈ weights, 0 < entry.2 := by
  simp only [weights, List.forall_mem_cons]
  norm_num

theorem present_pos (means : AgentScoreType → Option ℚ) : ∀ part ∈ present means, 0 < part.2 := by
  intro part member
  obtain ⟨type, weighted, _⟩ := mem_present.mp member
  exact weights_pos _ weighted

theorem unrounded_absent {means : AgentScoreType → Option ℚ} (absent : present means = []) :
    unrounded means = 0 := by
  have weightless : weightOf (present means) = 0 := by
    rw [absent]
    rfl
  rw [unrounded, if_pos weightless]

theorem unrounded_present {means : AgentScoreType → Option ℚ} (some_ : present means ≠ []) :
    unrounded means = weightedMean (present means) := by
  rw [unrounded, if_neg (weightOf_pos (present_pos means) some_).ne', weightedMean]

theorem unrounded_unit (ms : List ReputationMeasurement) :
    0 ≤ unrounded (typeMean ms) ∧ unrounded (typeMean ms) ≤ 1 := by
  rcases eq_or_ne (present (typeMean ms)) [] with absent | some_
  · rw [unrounded_absent absent]
    norm_num
  · rw [unrounded_present some_]
    apply weightedMean_between (present_pos _) some_
    intro part member
    obtain ⟨type, _, measured⟩ := mem_present.mp member
    exact typeMean_unit measured

/-- The loop gathers the values of each score type, and those of each domain. -/
theorem retain_all (ms : List ReputationMeasurement) :
    ∃ groups, ms.foldlM retain ⟨.empty, .empty⟩ = .ok groups ∧
      Dict.Gathers (fun m => some m.scoreType) (fun m => (m.value : ℚ)) ms groups.grouped ∧
      Dict.Gathers ReputationMeasurement.domain (fun m => (m.value : ℚ)) ms groups.expertise := by
  induction ms using List.reverseRecOn with
  | nil => exact ⟨_, rfl, Dict.gathers_nil, Dict.gathers_nil⟩
  | append_singleton ms m ih =>
      obtain ⟨groups, run, types, domains⟩ := ih
      have scope := m.domain_scope
      have run_ : (ms ++ [m]).foldlM retain ⟨.empty, .empty⟩ = retain groups m := by
        rw [List.foldlM_append, run]
        exact bind_pure (retain groups m)
      rw [run_]
      unfold retain
      by_cases expert : m.scoreType = .expertise
      · rw [decide_eq_true expert] at scope
        obtain ⟨domain, held⟩ := Option.isSome_iff_exists.mp scope
        rw [if_pos expert, held]
        exact ⟨_, rfl, Dict.gathers_append types rfl, Dict.gathers_append domains held⟩
      · rw [decide_eq_false expert, Option.isSome_eq_false_iff, Option.isNone_iff_eq_none] at scope
        rw [if_neg expert]
        exact ⟨_, rfl, Dict.gathers_append types rfl, Dict.gathers_skip domains scope⟩

def clamped (q : ℚ) : Score :=
  ⟨max 0 (min 1 q), le_max_left _ _, max_le (by norm_num) (min_le_left _ _)⟩

theorem clamped_unit {q : ℚ} (inside : 0 ≤ q ∧ q ≤ 1) : (clamped q : ℚ) = q := by
  show max 0 (min 1 q) = q
  rw [min_eq_right inside.2, max_eq_right inside.1]

theorem scoreField_clamped {q : ℚ} (inside : 0 ≤ q ∧ q ≤ 1) : scoreField q = .ok (clamped q) := by
  rw [scoreField, dif_pos inside]
  exact congrArg Except.ok (Subtype.ext (clamped_unit inside).symm)

/-- What `calculate` returns, which it does for all measurements. -/
theorem calculate_spec (ms : List ReputationMeasurement) : ∃ snapshot, calculate ms = .ok snapshot ∧
    (snapshot.reputation : ℚ) = quantize (unrounded (typeMean ms)) ∧
    (snapshot.reliability : ℚ) = quantize ((typeMean ms .reliability).getD 0) ∧
    (∀ domain, (snapshot.expertiseByDomain.get domain).map Subtype.val =
      (domainMean ms domain).map quantize) ∧
    snapshot.eventCount = ms.length := by
  obtain ⟨groups, run, types, domains⟩ := retain_all ms
  have averages : ∀ values : List ℚ, values ≠ [] → meanOf values = .ok (mean values) := by
    intro values some_
    rw [meanOf, if_neg (by simpa using some_)]
  have rounds : ∀ values : List ℚ, values ≠ [] →
      roundedMean values = .ok (quantize (mean values)) := by
    intro values some_
    rw [roundedMean, averages values some_]
    rfl
  obtain ⟨means, meansRun, meansGet⟩ := Dict.comprehend_gathers types averages
  obtain ⟨expertise, expertiseRun, expertiseGet⟩ := Dict.comprehend_gathers domains rounds
  have measured : means.get = typeMean ms := funext meansGet
  have expert : ∀ domain, expertise.get domain = (domainMean ms domain).map quantize := by
    intro domain
    rw [expertiseGet domain, domainMean, meanAt]
    unfold valuesIn
    split
    · rfl
    · rfl
  have fields : ∀ domain q, expertise.get domain = some q → scoreField q = .ok (clamped q) := by
    intro domain q held
    rw [expert domain, Option.map_eq_some_iff] at held
    obtain ⟨mean, measuredIn, rfl⟩ := held
    exact scoreField_clamped (quantize_unit (domainMean_unit measuredIn))
  obtain ⟨scores, scoresRun, scoresGet⟩ := expertise.comprehend_made fields
  have reliable : 0 ≤ (typeMean ms .reliability).getD 0 ∧
      (typeMean ms .reliability).getD 0 ≤ 1 := by
    cases held : typeMean ms .reliability with
    | none => norm_num
    | some q => exact typeMean_unit held
  refine ⟨⟨clamped (quantize (unrounded (typeMean ms))),
    clamped (quantize ((typeMean ms .reliability).getD 0)), scores, ms.length⟩, ?_, ?_, ?_, ?_, rfl⟩
  · simp only [calculate, bind, Except.bind, run, meansRun, expertiseRun, measured, scoresRun,
      scoreField_clamped (quantize_unit (unrounded_unit ms)),
      scoreField_clamped (quantize_unit reliable)]
    rfl
  · exact clamped_unit (quantize_unit (unrounded_unit ms))
  · exact clamped_unit (quantize_unit reliable)
  · intro domain
    show (scores.get domain).map Subtype.val = _
    rw [scoresGet domain, expert domain]
    cases held : domainMean ms domain with
    | none => rfl
    | some q => exact congrArg some (clamped_unit (quantize_unit (domainMean_unit held)))

end Calculate

section Order

variable {ms others : List ReputationMeasurement}

theorem meanAt_perm {values others : List ℚ} (same : values.Perm others) :
    meanAt values = meanAt others := by
  unfold meanAt
  rw [mean_perm same]
  by_cases none_ : values = []
  · subst none_
    rw [if_pos rfl, if_pos (List.nil_perm.mp same)]
  · have some_ : others ≠ [] := fun absent => none_ (List.perm_nil.mp (absent ▸ same))
    rw [if_neg none_, if_neg some_]

theorem typeMean_perm (same : ms.Perm others) : typeMean ms = typeMean others := by
  funext type
  exact meanAt_perm (Dict.valuesAt_perm same type)

theorem domainMean_perm (same : ms.Perm others) : domainMean ms = domainMean others := by
  funext domain
  exact meanAt_perm (Dict.valuesAt_perm same domain)

theorem typeMean_filter {type : AgentScoreType} (other : type ≠ .expertise) :
    typeMean (ms.filter fun m => decide (m.scoreType ≠ .expertise)) type = typeMean ms type := by
  unfold typeMean valuesOf
  rw [Dict.valuesAt_filter]
  intro m own
  cases own
  exact decide_eq_true other

theorem weights_other : ∀ entry ∈ weights, entry.1 ≠ .expertise := by decide

theorem present_congr {means others : AgentScoreType → Option ℚ}
    (same : ∀ type, type ≠ .expertise → means type = others type) : present means =
      present others := by
  apply List.filterMap_congr
  intro entry member
  rw [same entry.1 (weights_other entry member)]

end Order

section Rises

abbrev Rises (a b : Option ℚ) : Prop := Option.Rel (· ≤ ·) a b

theorem meanAt_rises {values others : List ℚ} (raised : List.Forall₂ (· ≤ ·) values others) :
    Rises (meanAt values) (meanAt others) := by
  cases raised with
  | nil => exact .none
  | cons step rest => exact .some (mean_raised (.cons step rest))

theorem present_rises {means others : AgentScoreType → Option ℚ}
    (rises : ∀ type, Rises (means type) (others type)) : Means.Raised (present means)
    (present others) := by
  unfold present
  induction weights with
  | nil => exact .nil
  | cons entry rest ih =>
      have step := rises entry.1
      simp only [List.filterMap_cons]
      generalize means entry.1 = a at step
      generalize others entry.1 = b at step
      cases step with
      | none => exact ih
      | some le => exact .cons ⟨le, rfl⟩ ih

theorem unrounded_rises {means others : AgentScoreType → Option ℚ}
    (rises : ∀ type, Rises (means type) (others type)) : unrounded means ≤ unrounded others := by
  have raised := present_rises rises
  rcases eq_or_ne (present means) [] with absent | some_
  · have both : present others = [] := by
      rw [absent] at raised
      exact List.forall₂_nil_left_iff.mp raised
    rw [unrounded_absent absent, unrounded_absent both]
  · have both : present others ≠ [] := by
      intro absent
      rw [absent] at raised
      exact some_ (List.forall₂_nil_right_iff.mp raised)
    rw [unrounded_present some_, unrounded_present both]
    exact weightedMean_raised raised (present_pos means)

structure ReputationMeasurement.RaisedTo (m other : ReputationMeasurement) : Prop where
  type : m.scoreType = other.scoreType
  domain : m.domain = other.domain
  value : (m.value : ℚ) ≤ other.value

variable {before after : List ReputationMeasurement} {m other : ReputationMeasurement}
    (raised : m.RaisedTo other)

include raised

theorem values_raised {κ : Type} [DecidableEq κ] (key : ReputationMeasurement → Option κ)
    (same : key m = key other)
    (k : κ) :
    List.Forall₂ (· ≤ ·) (Dict.valuesAt key (fun m => (m.value : ℚ)) (before ++ m :: after) k)
      (Dict.valuesAt key (fun m => (m.value : ℚ)) (before ++ other :: after) k) := by
  apply Dict.valuesAt_related
  apply List.rel_append
  · exact List.forall₂_same.mpr fun _ _ => ⟨rfl, le_rfl⟩
  · exact .cons ⟨same, raised.value⟩ (List.forall₂_same.mpr fun _ _ => ⟨rfl, le_rfl⟩)

theorem typeMean_rises (type : AgentScoreType) :
    Rises (typeMean (before ++ m :: after) type) (typeMean (before ++ other :: after) type) :=
  meanAt_rises (values_raised raised (fun m => some m.scoreType) (congrArg some raised.type) type)

theorem domainMean_rises (domain : Domain) :
    Rises (domainMean (before ++ m :: after) domain)
    (domainMean (before ++ other :: after) domain) :=
  meanAt_rises (values_raised raised ReputationMeasurement.domain raised.domain domain)

end Rises

section Laws

structure ReputationSnapshot.Same (s t : ReputationSnapshot) : Prop where
  reputation : s.reputation = t.reputation
  reliability : s.reliability = t.reliability
  expertise : ∀ domain, s.expertiseByDomain.get domain = t.expertiseByDomain.get domain
  count : s.eventCount = t.eventCount

structure ReputationSnapshot.AtMost (s t : ReputationSnapshot) : Prop where
  reputation : s.reputation ≤ t.reputation
  reliability : s.reliability ≤ t.reliability
  expertise : ∀ domain, Option.Rel (· ≤ ·) (s.expertiseByDomain.get domain)
    (t.expertiseByDomain.get domain)
  count : s.eventCount = t.eventCount

def weightedMeans (ms : List ReputationMeasurement) : Set ℚ :=
  { q | ∃ type weight, (type, weight) ∈ weights ∧ typeMean ms type = some q }

/-- The score types that enter the reputation: all but confidence and expertise. -/
def Counts (type : AgentScoreType) : Prop := type ≠ .confidence ∧ type ≠ .expertise

theorem counts_weight {type : AgentScoreType} (counts : Counts type) :
    ∃ weight, (type, weight) ∈ weights := by
  obtain ⟨confident, expert⟩ := counts
  cases type with
  | confidence => exact absurd rfl confident
  | expertise => exact absurd rfl expert
  | reliability => exact ⟨35 / 100, by simp [weights]⟩
  | codeQuality => exact ⟨20 / 100, by simp [weights]⟩
  | security => exact ⟨20 / 100, by simp [weights]⟩
  | collaboration => exact ⟨15 / 100, by simp [weights]⟩
  | customerSatisfaction => exact ⟨10 / 100, by simp [weights]⟩

theorem typeMean_measured {ms : List ReputationMeasurement} {m : ReputationMeasurement}
    (among : m ∈ ms) : typeMean ms m.scoreType = some (mean (valuesOf ms m.scoreType)) := by
  have held : (m.value : ℚ) ∈ valuesOf ms m.scoreType := Dict.mem_valuesAt.mpr ⟨m, among, rfl, rfl⟩
  rw [typeMean, meanAt, if_neg (List.ne_nil_of_mem held)]

theorem weightedMeans_present (ms : List ReputationMeasurement) :
    weightedMeans ms = ((present (typeMean ms)).map Prod.fst).toFinset := by
  ext q
  rw [Finset.mem_coe, List.mem_toFinset, List.mem_map]
  constructor
  · rintro ⟨type, weight, weighted, measured⟩
    exact ⟨(q, weight), mem_present.mpr ⟨type, weighted, measured⟩, rfl⟩
  · rintro ⟨part, member, rfl⟩
    obtain ⟨type, weighted, measured⟩ := mem_present.mp member
    exact ⟨type, part.2, weighted, measured⟩

theorem unrounded_between {ms : List ReputationMeasurement} {m : ReputationMeasurement}
    (among : m ∈ ms) (counts : Counts m.scoreType) :
    ∃ least greatest, IsLeast (weightedMeans ms) least ∧ IsGreatest (weightedMeans ms) greatest ∧
      least ≤ unrounded (typeMean ms) ∧ unrounded (typeMean ms) ≤ greatest := by
  obtain ⟨weight, weighted⟩ := counts_weight counts
  have member : (mean (valuesOf ms m.scoreType), weight) ∈ present (typeMean ms) :=
    mem_present.mpr ⟨m.scoreType, weighted, typeMean_measured among⟩
  have parts := List.ne_nil_of_mem member
  have some_ : ((present (typeMean ms)).map Prod.fst).toFinset.Nonempty :=
    ⟨_, List.mem_toFinset.mpr (List.mem_map_of_mem member)⟩
  have least := Finset.isLeast_min' _ some_
  have greatest := Finset.isGreatest_max' _ some_
  rw [← weightedMeans_present] at least greatest
  refine ⟨_, _, least, greatest, ?_⟩
  rw [unrounded_present parts]
  apply weightedMean_between (present_pos _) parts
  intro part inside
  obtain ⟨type, held, measured⟩ := mem_present.mp inside
  have mean_ : part.1 ∈ weightedMeans ms := ⟨type, part.2, held, measured⟩
  exact ⟨least.2 mean_, greatest.2 mean_⟩

theorem same_of_means {ms others : List ReputationMeasurement} {s t : ReputationSnapshot}
    (made : calculate ms = .ok s) (again : calculate others = .ok t)
    (types : typeMean ms = typeMean others)
    (domains : domainMean ms = domainMean others) (count : ms.length = others.length) :
    s.Same t := by
  obtain ⟨_, run, reputation, reliability, expertise, number⟩ := calculate_spec ms
  obtain ⟨_, run', reputation', reliability', expertise', number'⟩ := calculate_spec others
  cases made.symm.trans run
  cases again.symm.trans run'
  constructor
  · apply Subtype.ext
    rw [reputation, reputation', types]
  · apply Subtype.ext
    rw [reliability, reliability', types]
  · intro domain
    apply Option.map_injective Subtype.val_injective
    rw [expertise, expertise', domains]
  · rw [number, number', count]

theorem rises_getD {a b : Option ℚ} (rises : Rises a b) : a.getD 0 ≤ b.getD 0 := by
  cases rises with
  | none => exact le_rfl
  | some le => exact le

theorem scores_rise {x y : Option Score} {a b : Option ℚ}
    (first : x.map Subtype.val = a.map quantize)
    (second : y.map Subtype.val = b.map quantize) (rises : Rises a b) : Option.Rel (· ≤ ·) x y := by
  cases rises with
  | none =>
      rw [Option.map_none, Option.map_eq_none_iff] at first second
      rw [first, second]
      exact .none
  | some le =>
      obtain ⟨low, rfl, lowValue⟩ := Option.map_eq_some_iff.mp first
      obtain ⟨high, rfl, highValue⟩ := Option.map_eq_some_iff.mp second
      refine .some ?_
      show (low : ℚ) ≤ high
      rw [lowValue, highValue]
      exact quantize_mono le

/-- The laws of the snapshot of any measurements: it is made and lies in the unit interval, the
order does not matter, nor does expertise to reputation and reliability, reputation is a mean of
means, and raising a value lowers nothing. -/
theorem calculate_laws (ms : List ReputationMeasurement) : ∃ s, calculate ms = .ok s ∧
    ((0 ≤ (s.reputation : ℚ) ∧ (s.reputation : ℚ) ≤ 1) ∧
      (0 ≤ (s.reliability : ℚ) ∧ (s.reliability : ℚ) ≤ 1) ∧
      ∀ domain score, s.expertiseByDomain.get domain = some score → 0 ≤ (score : ℚ) ∧
      (score : ℚ) ≤ 1) ∧
    (∀ others, ms.Perm others → ∃ t, calculate others = .ok t ∧ s.Same t) ∧
    (∀ others : List ReputationMeasurement,
      (ms.filter fun m => decide (m.scoreType ≠ .expertise)).Perm
        (others.filter fun m => decide (m.scoreType ≠ .expertise)) →
      ∃ t, calculate others = .ok t ∧ s.reputation = t.reputation ∧ s.reliability = t.reliability) ∧
    ((s.reputation : ℚ) = quantize (unrounded (typeMean ms)) ∧
      ∀ m ∈ ms, Counts m.scoreType →
        ∃ least greatest, IsLeast (weightedMeans ms) least ∧
        IsGreatest (weightedMeans ms) greatest ∧
          least ≤ unrounded (typeMean ms) ∧ unrounded (typeMean ms) ≤ greatest) ∧
    ∀ before m after other, ms = before ++ m :: after → m.RaisedTo other →
      ∃ t, calculate (before ++ other :: after) = .ok t ∧ s.AtMost t := by
  obtain ⟨s, made, reputation, reliability, expertise, count⟩ := calculate_spec ms
  refine ⟨s, made, ⟨s.reputation.2, s.reliability.2, fun _ score _ => score.2⟩, ?_, ?_,
    ⟨reputation, fun _ => unrounded_between⟩, ?_⟩
  · intro others same
    obtain ⟨t, again, _⟩ := calculate_spec others
    exact ⟨t, again,
      same_of_means made again (typeMean_perm same) (domainMean_perm same) same.length_eq⟩
  · intro others same
    obtain ⟨t, again, reputation', reliability', _⟩ := calculate_spec others
    have means : ∀ type, type ≠ .expertise → typeMean ms type = typeMean others type := by
      intro type other
      rw [← typeMean_filter other, typeMean_perm same, typeMean_filter other]
    refine ⟨t, again, ?_, ?_⟩
    · apply Subtype.ext
      rw [reputation, reputation', unrounded, unrounded, present_congr means]
    · apply Subtype.ext
      rw [reliability, reliability', means .reliability (by decide)]
  · rintro before m after other rfl raised
    obtain ⟨t, again, reputation', reliability', expertise', count'⟩ :=
      calculate_spec (before ++ other :: after)
    refine ⟨t, again, ?_, ?_, ?_, ?_⟩
    · show (s.reputation : ℚ) ≤ t.reputation
      rw [reputation, reputation']
      exact quantize_mono (unrounded_rises (typeMean_rises raised))
    · show (s.reliability : ℚ) ≤ t.reliability
      rw [reliability, reliability']
      exact quantize_mono (rises_getD (typeMean_rises raised .reliability))
    · intro domain
      exact scores_rise (expertise domain) (expertise' domain) (domainMean_rises raised domain)
    · rw [count, count']
      simp

end Laws

end SynapseOS.Scoring
