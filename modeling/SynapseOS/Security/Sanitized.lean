import SynapseOS.Security.PrivateKey

/-! The sanitization of a request never fails: its findings and its texts are valid. -/

namespace SynapseOS.Security

open Execution

section Bounds

variable {alphanumeric : Nat → Bool} {text : PyStr}

theorem scanFrom_points {fuel position : Nat} {previous : Option Nat} {text : PyStr}
    {segment : Segment} (among : segment ∈ scanFrom alphanumeric fuel position previous text) :
    match segment with
    | .kept _ point => point ∈ text
    | .secret found => found.covered ⊆ text := by
  induction fuel generalizing position previous text with
  | zero => cases among
  | succ fuel ih =>
      cases text with
      | nil => cases among
      | cons head rest =>
          cases found : secretAt alphanumeric previous (head :: rest) with
          | none =>
              rw [scanFrom, found] at among
              rcases List.mem_cons.mp among with rfl | later
              · exact List.mem_cons_self
              · have inner := ih later
                cases segment with
                | kept position point => exact List.mem_cons_of_mem _ inner
                | secret found => exact List.Subset.trans inner (List.subset_cons_self _ _)
          | some pair =>
              obtain ⟨kind, length⟩ := pair
              rw [scanFrom, found] at among
              rcases List.mem_cons.mp among with rfl | later
              · exact List.take_subset _ _
              · have inner := ih later
                cases segment with
                | kept position point => exact List.drop_subset _ _ inner
                | secret found => exact List.Subset.trans inner (List.drop_subset _ _)

theorem substituted_points {point : Nat} (among : point ∈ substituted alphanumeric text) :
    point ∈ text ∨ point < 0x80 := by
  obtain ⟨segment, there, rendered⟩ := List.mem_flatMap.mp among
  have drawn := scanFrom_points there
  have placeholder : ∀ point ∈ redactedSecret, point < 0x80 := by decide
  have marks : ∀ form : ValueForm, ∀ point ∈ form.mark, point < 0x80 := by
    intro form
    cases form <;> decide
  cases segment with
  | kept position own =>
      left
      rw [Segment.render, List.mem_singleton] at rendered
      exact rendered ▸ drawn
  | secret found =>
      rw [Segment.render, SecretMatch.replacement] at rendered
      split at rendered
      · exact .inr (placeholder point rendered)
      · simp only [List.mem_append] at rendered
        rcases rendered with ((front | mark) | middle) | mark
        · exact .inl (drawn (List.take_subset _ _ front))
        · exact .inr (marks _ point mark)
        · exact .inr (placeholder point middle)
        · exact .inr (marks _ point mark)

theorem substituted_nonempty (alphanumeric : Nat → Bool)
    (left : text ≠ []) : substituted alphanumeric text ≠ [] := by
  have size := List.length_pos_iff.mpr left
  obtain ⟨fuel, same⟩ : ∃ fuel, text.length = fuel + 1 := ⟨text.length - 1, by omega⟩
  obtain ⟨head, taken, before, _, _, _, _, unfolds⟩ :=
    scanFrom_step alphanumeric fuel 0 none left
  rw [substituted, scan, same, unfolds, List.flatMap_cons]
  intro empty
  have first := (List.append_eq_nil_iff.mp empty).1
  cases head with
  | kept position point => cases first
  | secret found =>
      rw [Segment.render, SecretMatch.replacement] at first
      have placeholder : redactedSecret ≠ [] := by decide
      split at first
      · exact placeholder first
      · simp only [List.append_eq_nil_iff] at first
        exact placeholder first.1.2

theorem width_pos (point : Nat) : 1 ≤ utf8Width point := by
  unfold utf8Width
  split_ifs <;> omega

theorem width_total {point : Nat} (among : point ∈ text) : utf8Width point ≤ utf8Length text :=
  List.single_le_sum (fun _ _ => Nat.zero_le _) _ (List.mem_map_of_mem among)

theorem fitBytes_sublist (budget : Nat) (text : PyStr) : (fitBytes budget text).Sublist text := by
  induction text generalizing budget with
  | nil => exact .slnil
  | cons point rest ih =>
      rw [fitBytes]
      split
      · exact (ih _).cons_cons _
      · exact List.nil_sublist _

theorem fitBytes_nonempty {budget : Nat} {text : PyStr} (left : text ≠ [])
    (fits : ∀ point ∈ text, utf8Width point ≤ budget) : fitBytes budget text ≠ [] := by
  cases text with
  | nil => exact absurd rfl left
  | cons point rest =>
      rw [fitBytes, if_pos (fits point List.mem_cons_self)]
      exact List.cons_ne_nil _ _

theorem boundText_valid (alphanumeric : Nat → Bool) (left : text ≠ [])
    (unicode : ∀ point ∈ text, surrogate point = false) :
    let returned := (boundText (utf8Length text) text.length (substituted alphanumeric text)).1
    1 ≤ returned.length ∧ returned.length ≤ text.length ∧
      ∀ point ∈ returned, surrogate point = false := by
  have size := List.length_pos_iff.mpr left
  let front := (substituted alphanumeric text).take text.length
  have drawn : ∀ point ∈ front, point ∈ text ∨ point < 0x80 := fun point among =>
    substituted_points (List.take_subset _ _ among)
  have nonempty : front ≠ [] := by
    have whole := List.length_pos_iff.mpr (substituted_nonempty alphanumeric left)
    rw [← List.length_pos_iff, List.length_take]
    omega
  have narrow : ∀ point ∈ front, utf8Width point ≤ utf8Length text := by
    intro point among
    rcases drawn point among with own | ascii
    · exact width_total own
    · obtain ⟨head, there⟩ := List.exists_mem_of_ne_nil _ left
      have one : utf8Width point = 1 := if_pos ascii
      have some_ := width_pos head
      have total := width_total there
      omega
  have kept := fitBytes_sublist (utf8Length text) front
  refine ⟨List.length_pos_iff.mpr (fitBytes_nonempty nonempty narrow), ?_, ?_⟩
  · exact kept.length_le.trans (by rw [List.length_take]; omega)
  · intro point among
    rcases drawn point (kept.subset among) with own | ascii
    · exact unicode point own
    · exact decide_eq_false (by omega)

end Bounds

section Findings

variable {digest : LocationDigest} {alphanumeric : Nat → Bool} {text location : PyStr}

theorem replace_ok (digest : LocationDigest) {state : RedactionState} {found : SecretMatch}
    (named : relativePath location = true) (size : text.length ≤ 16384)
    (among : found ∈ secrets alphanumeric text) (few : state.findings.length ≤ 64)
    (counted : state.matchCount + 1 < 10 ^ 7) :
    ∃ next, state.replace digest text location found = .ok next ∧ next.findings.length ≤ 64 ∧
      next.matchCount = state.matchCount + 1 := by
  have valid := findingFieldsFor_check digest named size among counted
  have made : findingForMatch digest text location (state.matchCount + 1) found =
      .ok ⟨_, valid⟩ := dif_pos valid
  unfold RedactionState.replace
  by_cases room : state.findings.length < 64
  · simp only [if_pos room, made]
    refine ⟨_, rfl, ?_, rfl⟩
    rw [List.length_append, List.length_singleton]
    omega
  · simp only [if_neg room]
    exact ⟨_, rfl, few, rfl⟩

theorem replaced_ok (digest : LocationDigest) {found : List SecretMatch} {state : RedactionState}
    (named : relativePath location = true) (size : text.length ≤ 16384)
    (among : ∀ secret ∈ found, secret ∈ secrets alphanumeric text)
    (few : state.findings.length ≤ 64) (counted : state.matchCount + found.length < 10 ^ 7) :
    ∃ final, found.foldlM (RedactionState.replace digest text location) state = .ok final ∧
      final.findings.length ≤ 64 ∧ final.matchCount = state.matchCount + found.length := by
  induction found generalizing state with
  | nil => exact ⟨state, rfl, few, rfl⟩
  | cons head rest ih =>
      rw [List.length_cons] at counted
      obtain ⟨next, replaced, short, count⟩ := replace_ok digest named size
        (among head List.mem_cons_self) few (by omega)
      obtain ⟨final, folded, least, total⟩ := ih
        (fun secret there => among secret (List.mem_cons_of_mem _ there)) short (by omega)
      refine ⟨final, ?_, least, by rw [List.length_cons]; omega⟩
      rw [List.foldlM_cons, replaced]
      exact folded

end Findings

section Sources

theorem sanitizeText_ok (library : RedactionLibrary) {location text : PyStr}
    {state : RedactionState}
    (named : relativePath location = true) (size : 1 ≤ text.length ∧ text.length ≤ 16384)
    (unicode : ∀ point ∈ text, surrogate point = false) (few : state.findings.length ≤ 64)
    (counted : state.matchCount + 16384 < 10 ^ 7) :
    ∃ returned final, sanitizeText library location state text = .ok (returned, final) ∧
      (1 ≤ returned.length ∧ returned.length ≤ 16384) ∧
      (∀ point ∈ returned, surrogate point = false) ∧ final.findings.length ≤ 64 ∧
      final.matchCount ≤ state.matchCount + 16384 := by
  have every : ∀ secret ∈ secrets library.alphanumeric text,
      secret ∈ secrets library.alphanumeric text := fun _ there => there
  have total : (secrets library.alphanumeric text).length ≤ text.length := secrets_length
  obtain ⟨replaced, folded, short, count⟩ := replaced_ok library.toLocationDigest
    named size.2 every few (by omega)
  have left : text ≠ [] := List.length_pos_iff.mp (by omega)
  obtain ⟨least, most, valid⟩ := boundText_valid library.alphanumeric left unicode
  unfold sanitizeText
  rw [folded]
  exact ⟨_, _, rfl, ⟨least, most.trans size.2⟩, valid, short, by simp only; omega⟩

theorem sanitizeFiles_ok (library : RedactionLibrary) {state : RedactionState}
    {files : List SecuritySourceFile}
    (few : state.findings.length ≤ 64)
    (counted : state.matchCount + files.length * 16384 < 10 ^ 7) :
    ∃ sanitized final, sanitizeFiles library state files = .ok (sanitized, final) ∧
      (sanitized.map fun item => item.path) = (files.map fun item => item.path) ∧
      final.findings.length ≤ 64 := by
  induction files generalizing state with
  | nil => exact ⟨[], state, rfl, rfl, few⟩
  | cons item rest ih =>
      rw [List.length_cons, Nat.add_mul, Nat.one_mul] at counted
      have room : state.matchCount + 16384 < 10 ^ 7 := by
        linarith [Nat.zero_le (rest.length * 16384)]
      have checked := item.valid
      simp only [SourceFileFields.check, Bool.and_eq_true, decide_eq_true_eq, List.all_eq_true,
        Bool.not_eq_true'] at checked
      obtain ⟨content, after, sanitized, size, unicode, short, count⟩ := sanitizeText_ok
        library checked.1.1 checked.1.2 checked.2 few room
      have valid : (SourceFileFields.mk item.path content).check = true := by
        simp only [SourceFileFields.check, checked.1.1, Bool.true_and, Bool.and_eq_true,
          decide_eq_true_eq, List.all_eq_true, Bool.not_eq_true']
        exact ⟨size, unicode⟩
      obtain ⟨others, final, later, paths, least⟩ := ih short (by linarith)
      refine ⟨⟨_, valid⟩ :: others, final, ?_, ?_, least⟩
      · rw [sanitizeFiles, sanitized]
        simp only [SourceFileFields.validate, dif_pos valid, later]
        rfl
      · rw [List.map_cons, List.map_cons, paths]

theorem sanitizeSecuritySource_ok (library : RedactionLibrary) (request : SecurityRequest) :
    ∃ fresh, sanitizeSecuritySource library request = .ok fresh := by
  obtain ⟨least, most, unicode⟩ := request.diff_valid
  obtain ⟨some_, few, unique⟩ := request.files_valid
  have named : relativePath diffPath = true := by decide
  have few_initial : RedactionState.initial.findings.length ≤ 64 := by decide
  obtain ⟨diff, after, sanitized, size, _, short, count⟩ := sanitizeText_ok library
    named ⟨least, most⟩ unicode few_initial (by decide)
  have start : RedactionState.initial.matchCount = 0 := rfl
  have fits : after.matchCount + request.affectedFiles.length * 16384 < 10 ^ 7 := by omega
  obtain ⟨files, final, later, paths, bounded⟩ := sanitizeFiles_ok library
    short fits
  have count := congrArg List.length paths
  rw [List.length_map, List.length_map] at count
  have valid : (SourceFields.mk diff files final.findings final.complete).check = true := by
    simp only [SourceFields.check, Bool.and_eq_true, decide_eq_true_eq]
    exact ⟨⟨⟨size, by omega⟩, bounded⟩, paths ▸ unique⟩
  refine ⟨⟨_, valid⟩, ?_⟩
  rw [sanitizeSecuritySource, sanitized]
  simp only [later]
  exact dif_pos valid

end Sources

end SynapseOS.Security
