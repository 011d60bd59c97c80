import SynapseOS.Lib.Occurrences
import SynapseOS.Security.Noninterference
import SynapseOS.Security.Gate

/-! What a security result tells of the sensitive texts of its request. -/

namespace SynapseOS.Security

open Execution Occurrences

section Search

variable {alphanumeric : Nat → Bool}

def holdsSecret (alphanumeric : Nat → Bool) : Option Nat → PyStr → Bool
  | _, [] => false
  | previous, head :: rest =>
      (secretAt alphanumeric previous (head :: rest)).isSome || holdsSecret alphanumeric
        (some head) rest

theorem scanFrom_holds {fuel position : Nat} {previous : Option Nat} {text : PyStr}
    (enough : text.length ≤ fuel) :
    (∃ found, .secret found ∈ scanFrom alphanumeric fuel position previous text) ↔
      holdsSecret alphanumeric previous text = true := by
  induction text generalizing fuel position previous with
  | nil =>
      constructor
      · rintro ⟨found, among⟩
        cases fuel <;> cases among
      · intro holds
        cases holds
  | cons head rest ih =>
      obtain ⟨fuel, rfl⟩ : ∃ less, fuel = less + 1 :=
        ⟨fuel - 1, by rw [List.length_cons] at enough; omega⟩
      rw [List.length_cons] at enough
      rw [holdsSecret, scanFrom]
      cases read : secretAt alphanumeric previous (head :: rest) with
      | none =>
          have step := @ih fuel (position + 1) (some head) (by omega)
          rw [Option.isSome_none, Bool.false_or, ← step]
          constructor
          · rintro ⟨found, among⟩
            rcases List.mem_cons.mp among with same | later
            · cases same
            · exact ⟨found, later⟩
          · rintro ⟨found, later⟩
            exact ⟨found, List.mem_cons_of_mem _ later⟩
      | some pair => exact ⟨fun _ => rfl, fun _ => ⟨_, List.mem_cons_self⟩⟩

theorem containsObviousSecret_holds (text : PyStr) :
    containsObviousSecret alphanumeric text = holdsSecret alphanumeric none text := by
  have found := @scanFrom_holds alphanumeric text.length 0 none text le_rfl
  rw [Bool.eq_iff_iff, ← found]
  unfold containsObviousSecret
  rw [Bool.not_eq_true', List.isEmpty_eq_false_iff]
  constructor
  · intro some_
    obtain ⟨found, among⟩ := List.exists_mem_of_ne_nil _ some_
    exact ⟨found, mem_secrets.mp among⟩
  · rintro ⟨found, among⟩
    exact List.ne_nil_of_mem (mem_secrets.mpr among)

def Inert : PyStr → Bool
  | [] => true
  | head :: rest =>
      decide (head ≠ 0x2D) && credentialKeyTexts.all (fun key => clash key (head :: rest)) &&
        Inert rest

theorem holdsSecret_inert {front : PyStr} (inert : Inert front = true) (previous : Option Nat)
    (text : PyStr) : holdsSecret alphanumeric previous (front ++ text) =
      holdsSecret alphanumeric (front.getLast?.or previous) text := by
  induction front generalizing previous with
  | nil => rfl
  | cons head rest ih =>
      rw [Inert, Bool.and_eq_true, Bool.and_eq_true, decide_eq_true_eq, List.all_eq_true] at inert
      obtain ⟨⟨dash, clashes⟩, later⟩ := inert
      have none_ : secretAt alphanumeric previous (head :: (rest ++ text)) = none := by
        unfold secretAt
        rw [Option.or_eq_none_iff, Option.map_eq_none_iff]
        constructor
        · cases key : privateKeyLength (head :: (rest ++ text)) with
          | none => rfl
          | some length => exact absurd (privateKeyLength_head key) dash
        · unfold credential
          split
          · rfl
          · rw [List.findSome?_eq_none_iff]
            intro key among
            rw [← List.cons_append, literal_clash (clashes key among)]
            rfl
      rw [List.cons_append, holdsSecret, none_, Option.isSome_none, Bool.false_or, ih later]
      congr 1
      cases rest with
      | nil => rfl
      | cons next others =>
          rw [List.getLast?_cons_cons,
            List.getLast?_eq_getLast_of_ne_nil (List.cons_ne_nil next others)]
          rfl

theorem holdsSecret_previous {previous : Option Nat} (apart : previous.any keyPoint = false)
    (text : PyStr) :
    holdsSecret alphanumeric previous text = holdsSecret alphanumeric none text := by
  cases text with
  | nil => rfl
  | cons head rest =>
      have same : secretAt alphanumeric previous (head :: rest) = secretAt alphanumeric none
          (head :: rest) := by
        unfold secretAt credential
        rw [apart]
        rfl
      rw [holdsSecret, holdsSecret, same]

end Search

section Rationale

variable {alphanumeric : Nat → Bool} {sources : List PyStr}

def rationaleFront (decision : SecurityDecision) : PyStr :=
  .ofString "Deterministic Security decision: " ++ .ofString decision.value ++ .ofString ". "

def withheldRationale : PyStr := .ofString "Source-sensitive analysis text was withheld."

/-- A source text that is long enough to be recognized within a text. -/
def Usable (source : PyStr) : Prop := 8 ≤ (strip source).length ∧
    4 ≤ (strip source).eraseDups.length

theorem front_inert (decision : SecurityDecision) : Inert (rationaleFront decision) = true := by
  have shown : ∀ decision : SecurityDecision, Inert (rationaleFront decision) = true := by
    unfold rationaleFront SecurityDecision.value
    intro decision
    cases decision <;> dsimp only <;> repeat rw [PyStr.ofString_ofList]
    all_goals decide
  exact shown decision

theorem front_last (decision : SecurityDecision) :
    (rationaleFront decision).getLast? = some 0x20 := by
  cases decision <;> decide

theorem front_secret (decision : SecurityDecision) (text : PyStr) :
    containsObviousSecret alphanumeric (rationaleFront decision ++ text) =
      containsObviousSecret alphanumeric text := by
  rw [containsObviousSecret_holds, containsObviousSecret_holds,
    holdsSecret_inert (front_inert decision), front_last]
  exact holdsSecret_previous (by decide) text

def frontLetters : PyStr := .ofString "Detrmins"

theorem front_usable {decision : SecurityDecision} {text source : PyStr}
    (same : strip (rationaleFront decision ++ text) = strip source) : Usable source := by
  have letters : frontLetters ⊆ strip source := by
    intro point among
    rw [← same]
    have front : ∀ decision : SecurityDecision, ∀ point ∈ frontLetters,
        point ∈ rationaleFront decision ∧ space point = false := by
      intro decision
      cases decision <;> decide
    exact solid_strip (List.mem_append_left _ (front decision point among).1)
      (front decision point among).2
  have distinct : frontLetters.Nodup := by decide
  have size : frontLetters.length = 8 := by decide
  have long := (distinct.subperm letters).length_le
  have many :=
    (distinct.subperm fun point among => List.mem_eraseDups.mpr (letters among)).length_le
  exact ⟨by omega, by omega⟩

theorem strip_occurs {head : Nat} {rest : PyStr} (solid : space head = false) :
    strip (head :: rest) <+: head :: rest := by
  unfold strip
  rw [List.dropWhile_cons_of_neg (by rw [solid]; exact Bool.false_ne_true)]
  exact List.rdropWhile_prefix _ _

theorem infix_occurs {part whole : PyStr} :
    part <:+: whole ↔ ∃ start ≤ whole.length, OccursAt part whole start := by
  constructor
  · rintro ⟨before, after, rfl⟩
    refine ⟨before.length, by simp only [List.length_append]; omega, ?_⟩
    rw [List.append_assoc]
    exact occursAt_front before after
  · rintro ⟨start, within, occurs⟩
    obtain ⟨before, after, rfl, _⟩ := occursAt_splits occurs within
    exact ⟨before, after, List.append_assoc _ _ _⟩

/-- Nothing in the fixed front of a rationale, or across its end, is a text of the sources. -/
def FrontClear (sources : List PyStr) (decision : SecurityDecision) (text : PyStr) : Prop :=
  ∀ source ∈ sources, Usable source → ∀ start < (rationaleFront decision).length,
    ¬ OccursAt (strip source) (rationaleFront decision ++ text) start

/-- The cut of a text that is not sensitive is not sensitive behind the front exactly when the cut
makes no secret and the front is clear. -/
theorem front_sensitive {decision : SecurityDecision} {text cut : PyStr} (within : cut <:+: text)
    (harmless : containsSensitiveText alphanumeric text sources = false) :
    containsSensitiveText alphanumeric (rationaleFront decision ++ cut) sources = false ↔
      containsObviousSecret alphanumeric cut = false ∧ FrontClear sources decision cut := by
  unfold containsSensitiveText at harmless ⊢
  rw [Bool.or_eq_false_iff, List.any_eq_false] at harmless ⊢
  rw [front_secret]
  constructor
  · rintro ⟨plain, clear⟩
    refine ⟨plain, fun source among usable start below occurs => ?_⟩
    apply clear source among
    rw [Bool.or_eq_true, decide_eq_true_eq, decide_eq_true_eq]
    refine .inr ⟨usable.1, usable.2, infix_occurs.mpr ⟨start, ?_, occurs⟩⟩
    rw [List.length_append]
    omega
  · rintro ⟨plain, clear⟩
    refine ⟨plain, fun source among sensitive => ?_⟩
    rw [Bool.or_eq_true, decide_eq_true_eq, decide_eq_true_eq] at sensitive
    have absent :
        ∀ start, Usable source → ¬ OccursAt (strip source)
        (rationaleFront decision ++ cut) start := by
      intro start usable occurs
      by_cases below : start < (rationaleFront decision).length
      · exact clear source among usable start below occurs
      · obtain ⟨shift, rfl⟩ : ∃ shift, start = (rationaleFront decision).length + shift :=
          ⟨start - (rationaleFront decision).length, by omega⟩
        rw [occursAt_append] at occurs
        have some_ : strip source ≠ [] := by
          intro none_
          have long := usable.1
          rw [none_] at long
          cases long
        have fits := occursAt_fits some_ occurs
        have inside := (infix_occurs.mpr ⟨shift, by omega, occurs⟩).trans within
        apply harmless.2 source among
        rw [Bool.or_eq_true, decide_eq_true_eq, decide_eq_true_eq]
        exact .inr ⟨usable.1, usable.2, inside⟩
    rcases sensitive with same | ⟨long, many, inside⟩
    · have usable := front_usable same
      apply absent 0 usable
      rw [occursAt_zero, ← same]
      have starts : ∃ rest, rationaleFront decision ++ cut = 0x44 :: rest := by
        cases decision <;> exact ⟨_, rfl⟩
      obtain ⟨rest, shape⟩ := starts
      rw [shape]
      exact strip_occurs (by decide)
    · obtain ⟨start, _, occurs⟩ := infix_occurs.mp inside
      exact absent start ⟨long, many⟩ occurs

end Rationale

section Results

variable {library : RedactionLibrary} {request : SecurityRequest} {source : SanitizedSecuritySource}
  {report : SecurityScannerReport} {analysis : SecurityAnalysis} {trust : List PyStr}
  {result : SecurityResult}

/-- A published text is the fixed replacement, or it is not sensitive. -/
def Shown (alphanumeric : Nat → Bool) (sources : List PyStr) (replacement text : PyStr) : Prop :=
  text = replacement ∨ containsSensitiveText alphanumeric text sources = false

theorem publicText_shown {alphanumeric : Nat → Bool} {sources : List PyStr}
    (value replacement : PyStr) :
    Shown alphanumeric sources replacement (publicText alphanumeric value sources replacement) := by
  unfold publicText
  split
  · exact .inl rfl
  · next harmless => exact .inr (Bool.not_eq_true _ ▸ harmless)

structure FindingShown (alphanumeric : Nat → Bool) (sources : List PyStr)
    (finding : FindingFields) : Prop where
  category : Shown alphanumeric sources (.ofString "security.finding") finding.category
  explanation : Shown alphanumeric sources (.ofString "Source-sensitive finding text was withheld.")
    finding.explanation
  remediation :
    Shown alphanumeric sources (.ofString "Review the finding through an approved secure channel.")
    finding.remediation
  path : ∀ path, finding.path = some path → containsSensitiveText alphanumeric path sources = false
  sourceId :
    ∀ ref ∈ finding.evidence, Shown alphanumeric sources (.ofString "redacted-source") ref.sourceId
  evidenceId :
    ∀ ref ∈ finding.evidence, Shown alphanumeric sources
      (.ofString "redacted-evidence") ref.evidenceId

theorem publicFinding_shown (alphanumeric : Nat → Bool) (sources : List PyStr)
    (finding : SecurityFinding) :
    FindingShown alphanumeric sources (publicFindingFields alphanumeric sources finding) where
  category := publicText_shown _ _
  explanation := publicText_shown _ _
  remediation := publicText_shown _ _
  path := by
    intro path same
    have kept := (Option.filter_eq_some_iff.mp same).2
    rwa [Bool.not_eq_true'] at kept
  sourceId := by
    intro ref among
    obtain ⟨own, _, rfl⟩ := List.mem_map.mp (List.mem_eraseDups.mp among)
    exact publicText_shown _ _
  evidenceId := by
    intro ref among
    obtain ⟨own, _, rfl⟩ := List.mem_map.mp (List.mem_eraseDups.mp among)
    exact publicText_shown _ _

def RationaleShown (alphanumeric : Nat → Bool) (sources : List PyStr) (rationale : PyStr)
    (result : ResultFields) : Prop :=
  containsSensitiveText alphanumeric result.rationale sources = false ∨
    (containsSensitiveText alphanumeric rationale sources = true ∧
      result.rationale = rationaleFront result.decision ++ withheldRationale)

/-- A rationale without sensitive text is published without one exactly when its cut makes no secret
and the front before it is clear. -/
theorem rationale_shown {alphanumeric : Nat → Bool} {sources : List PyStr} {rationale : PyStr}
    {result : ResultFields} (published : result.rationale = rationaleFront result.decision ++
      (publicText alphanumeric rationale sources withheldRationale).take 16000) :
    RationaleShown alphanumeric sources rationale result ↔
      containsSensitiveText alphanumeric rationale sources = true ∨
        (containsObviousSecret alphanumeric (rationale.take 16000) = false ∧
          FrontClear sources result.decision (rationale.take 16000)) := by
  unfold RationaleShown
  rw [published]
  unfold publicText
  cases sensitive : containsSensitiveText alphanumeric rationale sources with
  | true =>
      have whole : withheldRationale.take 16000 = withheldRationale :=
        List.take_of_length_le (by decide)
      rw [if_pos rfl, whole]
      simp
  | false =>
      rw [if_neg Bool.false_ne_true, front_sensitive (List.take_prefix _ _).isInfix sensitive]
      simp

def Decides (request : SecurityRequest) (source fresh : SanitizedSecuritySource)
    (report : SecurityScannerReport)
    (analysis : SecurityAnalysis) (trust : List PyStr) (decision : SecurityDecision) : Prop :=
  (decision = .block ↔ DeterministicVeto request fresh report trust) ∧
    (decision = .pass ↔ (fresh.findings = [] ∧ report.findings = [] ∧ analysis.findings = []) ∧
      Unquestioned request source fresh report analysis trust)

theorem Decides.unique {fresh : SanitizedSecuritySource} {first second : SecurityDecision}
    (one : Decides request source fresh report analysis trust first)
    (other : Decides request source fresh report analysis trust second) : first = second := by
  have blocks := one.1.trans other.1.symm
  have passes := one.2.trans other.2.symm
  cases first with
  | block => exact (blocks.mp rfl).symm
  | pass => exact (passes.mp rfl).symm
  | warn =>
      cases second with
      | warn => rfl
      | block => exact blocks.mpr rfl
      | pass => exact passes.mpr rfl

/-- The rationale is withheld, or neither its cut makes a secret nor the front before it a source
text. -/
def RationaleClear (library : RedactionLibrary) (request : SecurityRequest)
    (source : SanitizedSecuritySource)
    (report : SecurityScannerReport) (analysis : SecurityAnalysis) (trust : List PyStr) : Prop :=
  containsSensitiveText library.alphanumeric analysis.rationale
      (sensitiveSourceText library.alphanumeric request) = true ∨
    (containsObviousSecret library.alphanumeric (analysis.rationale.take 16000) = false ∧
      ∀ fresh decision, sanitizeSecuritySource library request = .ok fresh →
        Decides request source fresh report analysis trust decision →
          FrontClear (sensitiveSourceText library.alphanumeric request) decision
            (analysis.rationale.take 16000))

/-- A result of a rejected handoff takes nothing over. Otherwise it tells no sensitive text in its
findings and its suite, and none in its rationale exactly when the rationale is withheld or stays
clear of secrets and sources where it is cut and put behind the front. -/
theorem result_disclosure
    (built : buildSecurityResult library request source report analysis trust = .ok result) :
    (∀ error, validateSecurityRequest request = .error error →
        result.toResultFields = invalidHandoffFields request) ∧
      ∀ validated, validateSecurityRequest request = .ok validated →
        (∀ finding ∈ result.findings, FindingShown library.alphanumeric
            (sensitiveSourceText library.alphanumeric request) finding.toFindingFields) ∧
          Shown library.alphanumeric (sensitiveSourceText library.alphanumeric request)
            (.ofString "redacted-scanner") result.scanner.suiteId ∧
          (RationaleShown library.alphanumeric (sensitiveSourceText library.alphanumeric request)
              analysis.rationale result.toResultFields ↔
            RationaleClear library request source report analysis trust) := by
  constructor
  · intro error rejected
    unfold buildSecurityResult at built
    rw [rejected] at built
    dsimp only at built
    split at built
    · next valid =>
        cases built
        unfold ResultFields.validate at valid
        split at valid
        · cases valid
          rfl
        · cases valid
    · cases built
  · intro validated accepted
    obtain ⟨fresh, evidence, results, valid, sanitized, collected, pairs, made⟩ :=
      gate_built library source report analysis trust accepted
    rw [made] at built
    cases built
    have decides : Decides request source fresh report analysis trust evidence.decision :=
      ⟨decision_block.trans (blocked_iff collected), decision_pass collected⟩
    refine ⟨fun finding among => ?_, publicText_shown _ _, (rationale_shown rfl).trans ?_⟩
    · obtain ⟨original, _, publishes⟩ := related_mem pairs among
      rw [publishes]
      exact publicFinding_shown _ _ original
    · refine or_congr_right
        (and_congr_right fun _ => ⟨?_, fun clear => clear fresh _ sanitized decides⟩)
      rintro clear again decision returned decided
      rw [sanitized] at returned
      cases returned
      rwa [decided.unique decides]

end Results

section Samples

theorem sample_accepted : validateSecurityRequest sampleRequest = .ok ⟨sampleRequest,
    [.filesystemRead]⟩ := rfl

def leakingAnalysis : SecurityAnalysis :=
  { sampleAnalysis with rationale := .ofString "saw token=abcd1234", rationale_valid := by decide }

theorem leaking_sensitive :
    containsSensitiveText plainLibrary.alphanumeric leakingAnalysis.rationale
    (sensitiveSourceText plainLibrary.alphanumeric sampleRequest) = true := by
  have secret : containsObviousSecret plainLibrary.alphanumeric leakingAnalysis.rationale =
      true := by
    decide
  unfold containsSensitiveText
  rw [secret, Bool.true_or]

/-- The token is withheld, and the findings of a full report tell nothing of the sources. -/
theorem result_disclosure_sample : ∃ result,
    buildSecurityResult plainLibrary sampleRequest sampleSource crowdedReport leakingAnalysis
      [.ofString "suite"] =
        .ok result ∧
      (∀ finding ∈ result.findings, FindingShown plainLibrary.alphanumeric
        (sensitiveSourceText plainLibrary.alphanumeric sampleRequest) finding.toFindingFields) ∧
      RationaleShown plainLibrary.alphanumeric
        (sensitiveSourceText plainLibrary.alphanumeric sampleRequest)
        leakingAnalysis.rationale result.toResultFields := by
  obtain ⟨_, evidence, results, valid, _, _, _, made⟩ :=
    gate_built plainLibrary sampleSource crowdedReport
    leakingAnalysis [.ofString "suite"] sample_accepted
  obtain ⟨findings, _, rationale⟩ := (result_disclosure made).2 _ sample_accepted
  exact ⟨_, made, findings, rationale.mpr (.inl leaking_sensitive)⟩

def filler : PyStr := List.replicate 15990 0x7A

def cutRationale : PyStr := filler ++ .ofString " token=null"

theorem filler_letter : 0x7A ∈ filler := List.mem_replicate.mpr ⟨by decide, rfl⟩

theorem cutRationale_bounded : boundedText 16384 cutRationale = true := by
  have size : cutRationale.length = 16001 := by
    have assignment : (PyStr.ofString " token=null").length = 11 := by decide
    unfold cutRationale filler
    rw [List.length_append, List.length_replicate, assignment]
  refine decide_eq_true ⟨by omega, by omega, fun blank => ?_⟩
  have all := (strip_blank _).mp blank 0x7A (List.mem_append_left _ filler_letter)
  cases all

def cutAnalysis : SecurityAnalysis :=
  { sampleAnalysis with rationale := cutRationale, rationale_valid := cutRationale_bounded }

theorem filler_inert (number : Nat) : Inert (List.replicate number 0x7A) = true := by
  induction number with
  | zero => rfl
  | succ number ih =>
      have heads : ∀ key ∈ credentialKeyTexts,
          key.head?.any (fun head => decide (foldPoint 0x7A ≠ foldPoint head)) = true := by
        unfold credentialKeyTexts credentialKeys
        repeat rw [PyStr.ofString_ofList]
        decide
      rw [List.replicate_succ, Inert, ih, Bool.and_true, Bool.and_eq_true, List.all_eq_true]
      refine ⟨by decide, fun key among => ?_⟩
      have head := heads key among
      cases key with
      | nil => cases head
      | cons first others => exact Bool.or_eq_true_iff.mpr (.inl head)

theorem filler_secret (text : PyStr) :
    containsObviousSecret plainLibrary.alphanumeric (filler ++ text) =
    holdsSecret plainLibrary.alphanumeric (some 0x7A) text := by
  have last : filler.getLast? = some 0x7A := by
    unfold filler
    rw [List.getLast?_replicate, if_neg (by decide)]
  have inert : Inert filler = true := filler_inert 15990
  rw [containsObviousSecret_holds, holdsSecret_inert inert, last]
  rfl

theorem cutRationale_cut : cutRationale.take 16000 = filler ++ PyStr.ofString " token=nul" := by
  have size : filler.length = 15990 := List.length_replicate
  have cut : (PyStr.ofString " token=null").take 10 = PyStr.ofString " token=nul" := by decide
  unfold cutRationale
  rw [List.take_append, List.take_of_length_le (by omega), size, cut]

theorem cutRationale_harmless : containsSensitiveText plainLibrary.alphanumeric cutRationale
    (sensitiveSourceText plainLibrary.alphanumeric sampleRequest) = false := by
  have plain : containsObviousSecret plainLibrary.alphanumeric cutRationale = false := by
    unfold cutRationale
    rw [filler_secret, PyStr.ofString_ofList]
    decide
  have short : ∀ source ∈ sensitiveSourceText plainLibrary.alphanumeric sampleRequest,
      source.length < 8 ∧ 0x7A ∉ source := by
    decide
  unfold containsSensitiveText
  rw [Bool.or_eq_false_iff, List.any_eq_false]
  refine ⟨plain, fun source among sensitive => ?_⟩
  obtain ⟨size, absent⟩ := short source among
  rw [Bool.or_eq_true, decide_eq_true_eq, decide_eq_true_eq] at sensitive
  rcases sensitive with same | ⟨long, _, _⟩
  · have letter : 0x7A ∈ strip cutRationale :=
      solid_strip (List.mem_append_left _ filler_letter) (by decide)
    rw [same] at letter
    exact absent (strip_subset source letter)
  · have less : (strip source).length ≤ source.length :=
      (List.rdropWhile_prefix _ _).length_le.trans (List.dropWhile_suffix _).length_le
    omega

/-- The cut takes the last letter of a reserved word, and what is left is an assignment. -/
theorem rationale_cut : ∃ result,
    buildSecurityResult plainLibrary sampleRequest sampleSource sampleReport cutAnalysis
      [.ofString "suite"] =
        .ok result ∧
      containsSensitiveText plainLibrary.alphanumeric cutAnalysis.rationale
        (sensitiveSourceText plainLibrary.alphanumeric sampleRequest) = false ∧
      containsObviousSecret plainLibrary.alphanumeric result.rationale = true := by
  obtain ⟨_, evidence, results, valid, _, _, _, made⟩ :=
    gate_built plainLibrary sampleSource sampleReport
    cutAnalysis [.ofString "suite"] sample_accepted
  refine ⟨_, made, cutRationale_harmless, ?_⟩
  have secret : holdsSecret plainLibrary.alphanumeric (some 0x7A) (.ofString " token=nul") =
      true := by
    rw [PyStr.ofString_ofList]
    decide
  show containsObviousSecret plainLibrary.alphanumeric (rationaleFront evidence.decision ++
    (publicText plainLibrary.alphanumeric cutRationale
      (sensitiveSourceText plainLibrary.alphanumeric sampleRequest)
      withheldRationale).take 16000) = true
  rw [front_secret]
  unfold publicText
  rw [if_neg (by rw [cutRationale_harmless]; exact Bool.false_ne_true), cutRationale_cut,
    filler_secret, secret]

end Samples

end SynapseOS.Security
