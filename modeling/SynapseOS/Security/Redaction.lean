import SynapseOS.Security.SecretPattern
import Mathlib.Data.Nat.Digits.Lemmas

/-! The redaction of secrets before the analysis (`core/security/redaction.py`). -/

namespace SynapseOS.Security

open Execution

def redactedSecret : PyStr := .ofString "[REDACTED_SECRET]"

def secretPatternSourceId : PyStr := .ofString "synapseos.secret-patterns"

def diffPath : PyStr := .ofString "diff.patch"

def numeral (number : Nat) : PyStr := ((Nat.digits 10 number).map (0x30 + ·)).reverse

/-- `blake2s(location, digest_size=6).hexdigest()`. -/
structure LocationDigest where
  hex : PyStr → PyStr
  hex_length : ∀ location, (hex location).length = 12
  hex_points : ∀ location, ∀ point ∈ hex location, lowerHexPoint point = true

/-- What the redaction takes from Python: `str.isalnum` and the digest. -/
structure RedactionLibrary extends LocationDigest where
  alphanumeric : Nat → Bool

structure RedactionState where
  findings : List SecurityFinding
  complete : Bool
  matchCount : Nat

def RedactionState.initial : RedactionState := ⟨[], true, 0⟩

def secretCategory : SecretKind → PyStr
  | .privateKey => .ofString "secret.private-key"
  | .credential _ _ => .ofString "secret.credential-assignment"

def secretSeverity : SecretKind → SecuritySeverity
  | .privateKey => .critical
  | .credential _ _ => .high

def secretExplanation : SecretKind → PyStr
  | .privateKey => .ofString "A private-key block was present in the supplied source."
  | .credential _ _ =>
      .ofString "A quoted credential assignment was present in the supplied source."

def secretRemediation : SecretKind → PyStr
  | .privateKey =>
      .ofString "Remove the private key, rotate it, and load it through an approved secret store."
  | .credential _ _ =>
      .ofString "Remove the credential, rotate it, and load it through an approved secret store."

def categorySlug (category : PyStr) : PyStr :=
  category.map fun point => if point = 0x2E then 0x2D else point

def evidenceIdFor (digest : LocationDigest) (location : PyStr) (line : Nat) (category : PyStr)
    (ordinal : Nat) : PyStr :=
  categorySlug category ++ .ofString ":" ++ digest.hex location ++ .ofString ":line-" ++
    numeral line ++ .ofString ":match-" ++ numeral ordinal

def newlines (text : PyStr) : Nat := text.count 0x0A

def findingFieldsFor (digest : LocationDigest) (text location : PyStr) (ordinal : Nat)
    (found : SecretMatch) : FindingFields :=
  let lineStart := newlines (text.take found.start) + 1
  { path := some location, lineStart := some lineStart,
    lineEnd := some (lineStart + newlines found.covered),
    category := secretCategory found.kind, severity := secretSeverity found.kind,
    explanation := secretExplanation found.kind, remediation := secretRemediation found.kind,
    confidence := ⟨1, Tools.certain⟩,
    evidence := [⟨secretPatternSourceId,
      evidenceIdFor digest location lineStart (secretCategory found.kind) ordinal⟩],
    confirmation := .confirmed }

def findingForMatch (digest : LocationDigest) (text location : PyStr) (ordinal : Nat)
    (found : SecretMatch) : Except ValidationError SecurityFinding :=
  (findingFieldsFor digest text location ordinal found).validate

/-- What `replace` does to the state. -/
def RedactionState.replace (digest : LocationDigest) (text location : PyStr)
    (state : RedactionState) (found : SecretMatch) : Except ValidationError RedactionState :=
  let matchCount := state.matchCount + 1
  if state.findings.length < 64 then
    match findingForMatch digest text location matchCount found with
    | .error raised => .error raised
    | .ok finding => .ok { state with findings := state.findings ++ [finding], matchCount }
  else .ok { state with complete := false, matchCount }

def SecretMatch.replacement (found : SecretMatch) : PyStr :=
  match found.kind with
  | .privateKey => redactedSecret
  | .credential prefixLength form =>
      found.covered.take prefixLength ++ form.mark ++ redactedSecret ++ form.mark

def Segment.render : Segment → PyStr
  | .kept _ point => [point]
  | .secret found => found.replacement

def fitBytes : Nat → PyStr → PyStr
  | _, [] => []
  | budget, point :: rest =>
      if utf8Width point ≤ budget then point :: fitBytes (budget - utf8Width point) rest else []

def utf8Length (text : PyStr) : Nat := (text.map utf8Width).sum

def boundText (maxBytes maxCharacters : Nat) (text : PyStr) : PyStr × Bool :=
  let bounded := fitBytes maxBytes (text.take maxCharacters)
  (bounded, decide (bounded ≠ text))

/-- `_SECRET_PATTERN.sub`. -/
def substituted (alphanumeric : Nat → Bool) (text : PyStr) : PyStr :=
  (scan alphanumeric text).flatMap Segment.render

def sanitizeText (library : RedactionLibrary) (location : PyStr) (state : RedactionState)
    (text : PyStr) : Except ValidationError (PyStr × RedactionState) :=
  match (secrets library.alphanumeric text).foldlM
      (RedactionState.replace library.toLocationDigest text location) state with
  | .error raised => .error raised
  | .ok replaced =>
      let (bounded, truncated) :=
        boundText (utf8Length text) text.length (substituted library.alphanumeric text)
      .ok (bounded, { replaced with complete := replaced.complete && !truncated })

def sanitizeFiles (library : RedactionLibrary) :
    RedactionState → List SecuritySourceFile →
      Except ValidationError (List SecuritySourceFile × RedactionState)
  | state, [] => .ok ([], state)
  | state, item :: rest =>
      match sanitizeText library item.path state item.content with
      | .error raised => .error raised
      | .ok (content, after) =>
          match SourceFileFields.validate ⟨item.path, content⟩ with
          | .error raised => .error raised
          | .ok sanitized =>
              (sanitizeFiles library after rest).map fun (others, final) =>
                (sanitized :: others, final)

def sanitizeSecuritySource (library : RedactionLibrary) (request : SecurityRequest) :
    Except ValidationError SanitizedSecuritySource :=
  match sanitizeText library diffPath .initial request.diff with
  | .error raised => .error raised
  | .ok (sanitizedDiff, after) =>
      match sanitizeFiles library after request.affectedFiles with
      | .error raised => .error raised
      | .ok (files, final) =>
          SourceFields.validate ⟨sanitizedDiff, files, final.findings, final.complete⟩

section Findings

theorem numeral_points {number point : Nat} (among : point ∈ numeral number) :
    digit point = true := by
  rw [numeral, List.mem_reverse, List.mem_map] at among
  obtain ⟨value, drawn, rfl⟩ := among
  have small := Nat.digits_lt_base (by decide) drawn
  unfold digit
  exact decide_eq_true (by omega)

theorem numeral_length {number size : Nat} (below : number < 10 ^ size) :
    (numeral number).length ≤ size := by
  rw [numeral, List.length_reverse, List.length_map]
  exact (Nat.digits_length_le_iff (by decide) number).mpr below

theorem digit_identifier {point : Nat} (numeral : digit point = true) :
    identifierPoint point = true := by
  unfold identifierPoint
  rw [numeral, Bool.or_true, Bool.true_or]

theorem hex_identifier {point : Nat} (hex : lowerHexPoint point = true) :
    identifierPoint point = true := by
  rcases Bool.or_eq_true_iff.mp hex with decimal | letter
  · exact digit_identifier decimal
  · have bounds := of_decide_eq_true letter
    have lower : lowerLetter point = true := decide_eq_true (by omega)
    unfold identifierPoint
    rw [lower, Bool.true_or, Bool.true_or]

theorem identifierText_append {front rest : PyStr} (starts : identifierText true front = true)
    (fits : front.length + rest.length ≤ 128)
    (points : ∀ point ∈ rest, identifierPoint point = true) :
    identifierText true (front ++ rest) = true := by
  cases front with
  | nil => cases starts
  | cons head tail =>
      simp only [identifierText, Bool.and_eq_true, decide_eq_true_eq, List.all_eq_true] at starts
      rw [List.length_cons] at fits
      simp only [List.cons_append, identifierText, Bool.and_eq_true, decide_eq_true_eq,
        List.all_eq_true, List.length_append]
      refine ⟨⟨starts.1.1, by omega⟩, fun point among => ?_⟩
      rcases List.mem_append.mp among with own | later
      · exact starts.2 point own
      · exact points point later

theorem category_slug (kind : SecretKind) :
    identifierText true (categorySlug (secretCategory kind)) = true ∧
      (categorySlug (secretCategory kind)).length ≤ 28 := by
  cases kind with
  | privateKey => decide
  | credential prefixLength form =>
      have assigned : identifierText true
            (categorySlug (.ofString "secret.credential-assignment")) = true ∧
          (categorySlug (.ofString "secret.credential-assignment")).length ≤ 28 := by
        decide
      exact assigned

theorem evidenceId_valid (digest : LocationDigest) (location : PyStr) {line ordinal : Nat}
    (kind : SecretKind) (lines : line < 10 ^ 7) (matches_ : ordinal < 10 ^ 7) :
    identifierText true
      (evidenceIdFor digest location line (secretCategory kind) ordinal) = true := by
  obtain ⟨slug, short⟩ := category_slug kind
  have lineLength := numeral_length lines
  have ordinalLength := numeral_length matches_
  have colon : ∀ point ∈ PyStr.ofString ":", identifierPoint point = true := by decide
  have lineWord : ∀ point ∈ PyStr.ofString ":line-", identifierPoint point = true := by decide
  have matchWord : ∀ point ∈ PyStr.ofString ":match-", identifierPoint point = true := by decide
  have size1 : (PyStr.ofString ":").length = 1 := by decide
  have size2 : (PyStr.ofString ":line-").length = 6 := by decide
  have size3 : (PyStr.ofString ":match-").length = 7 := by decide
  unfold evidenceIdFor
  simp only [List.append_assoc]
  refine identifierText_append slug ?_ ?_
  · simp only [List.length_append, digest.hex_length, size1, size2, size3]
    omega
  · intro point among
    simp only [List.mem_append] at among
    rcases among with among | among | among | among | among | among
    · exact colon point among
    · exact hex_identifier (digest.hex_points location point among)
    · exact lineWord point among
    · exact digit_identifier (numeral_points among)
    · exact matchWord point among
    · exact digit_identifier (numeral_points among)

theorem texts_bounded (kind : SecretKind) :
    identifierText true (secretCategory kind) = true ∧
      boundedText 4096 (secretExplanation kind) = true ∧
      boundedText 4096 (secretRemediation kind) = true := by
  cases kind <;>
  · dsimp only [secretCategory, secretExplanation, secretRemediation]
    repeat rw [PyStr.ofString_ofList]
    decide

theorem newlines_le (text : PyStr) : newlines text ≤ text.length := List.count_le_length

theorem findingFieldsFor_valid (digest : LocationDigest) {text location : PyStr} {ordinal : Nat}
    {found : SecretMatch} (named : relativePath location = true)
    (lines : newlines (text.take found.start) + newlines found.covered < 1000000)
    (ordinals : ordinal < 10 ^ 7) :
    (findingFieldsFor digest text location ordinal found).check = true := by
  obtain ⟨category, explanation, remediation⟩ := texts_bounded found.kind
  have evidence : identifierText true (evidenceIdFor digest location
      (newlines (text.take found.start) + 1) (secretCategory found.kind) ordinal) = true :=
    evidenceId_valid digest location found.kind (by omega) ordinals
  have source : identifierText true secretPatternSourceId = true := by
    unfold secretPatternSourceId
    rw [PyStr.ofString_ofList]
    decide
  have ordered : (findingFieldsFor digest text location ordinal found).toSecurityLocation.check =
      true := by
    simp only [findingFieldsFor, SecurityLocation.check, Option.all_some, named, lineNumber,
      Option.isSome_some, Bool.true_and, Bool.and_eq_true, decide_eq_true_eq]
    omega
  unfold FindingFields.check
  rw [ordered]
  simp only [findingFieldsFor, category, explanation, remediation, Bool.true_and, List.length_cons,
    List.length_nil, List.all_cons, List.all_nil, SecurityEvidenceReference.check, source, evidence,
    Bool.and_true]
  exact decide_eq_true ⟨le_rfl, by omega, List.nodup_singleton _⟩

theorem replace_valid {digest : LocationDigest} {text location : PyStr} {state : RedactionState}
    {found : SecretMatch} (room : state.findings.length < 64)
    (valid : (findingFieldsFor digest text location (state.matchCount + 1) found).check = true) :
    state.replace digest text location found =
      .ok ⟨state.findings ++ [⟨_, valid⟩], state.complete, state.matchCount + 1⟩ := by
  have made : findingForMatch digest text location (state.matchCount + 1) found =
      .ok ⟨_, valid⟩ := dif_pos valid
  unfold RedactionState.replace
  simp only [if_pos room, made]

end Findings

end SynapseOS.Security
