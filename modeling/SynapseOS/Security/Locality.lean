import SynapseOS.Security.PrivateKey

/-! A match of `_SECRET_PATTERN` depends on what it covers and on the point behind it. -/

namespace SynapseOS.Security

open Execution

section Points

theorem letter_value {point : Nat} (key : keyPoint point = true) : valuePoint point = true := by
  have shown : ∀ small < 0x80, keyPoint small = true → valuePoint small = true := by decide
  rcases Nat.lt_or_ge point 0x80 with ascii | wide
  · exact shown point ascii key
  · have upper : upperLetter point = false := decide_eq_false (by omega)
    unfold keyPoint foldPoint at key
    rw [upper] at key
    have special : point = 0x130 ∨ point = 0x131 ∨ point = 0x17F ∨ point = 0x212A := by
      by_contra other
      push Not at other
      rw [if_neg Bool.false_ne_true, if_neg (by omega), if_neg other.2.2.1, if_neg other.2.2.2]
        at key
      unfold asciiAlphanumeric digit lowerLetter at key
      rw [upper] at key
      simp only [Bool.or_false, Bool.or_eq_true, decide_eq_true_eq] at key
      omega
    rcases special with rfl | rfl | rfl | rfl <;> decide

end Points

section Lists

variable {α : Type} {p : α → Bool} {stop : α}

theorem dropWhile_stop (stops : p stop = false) (front rest : List α) :
    (front ++ stop :: rest).dropWhile p = front.dropWhile p ++ stop :: rest := by
  rw [List.dropWhile_append, List.dropWhile_cons_of_neg (by rw [stops]; exact Bool.false_ne_true)]
  split
  · next none_ => rw [List.isEmpty_iff.mp none_, List.nil_append]
  · rfl

theorem takeWhile_within {front rest : List α}
    (short : ((front ++ stop :: rest).takeWhile p).length ≤ front.length) (other : List α) :
    (front ++ stop :: other).takeWhile p = (front ++ stop :: rest).takeWhile p := by
  induction front with
  | nil =>
      rw [List.nil_append, List.takeWhile_cons] at short
      rw [List.nil_append, List.nil_append, List.takeWhile_cons, List.takeWhile_cons]
      split
      · next passes =>
          rw [if_pos passes] at short
          cases short
      · rfl
  | cons head tail ih =>
      rw [List.cons_append, List.takeWhile_cons] at short
      rw [List.cons_append, List.cons_append, List.takeWhile_cons, List.takeWhile_cons]
      split
      · next passes =>
          rw [if_pos passes, List.length_cons, List.length_cons] at short
          rw [ih (by omega)]
      · rfl

end Lists

section Literals

variable {compared : Nat → Nat} {wanted front tail : PyStr}

theorem behind_front (fits : wanted.length ≤ front.length) (tail : PyStr) :
    behind compared wanted (front ++ tail) = (behind compared wanted front).map (· ++ tail) := by
  induction wanted generalizing front with
  | nil => rfl
  | cons point others ih =>
      cases front with
      | nil => cases fits
      | cons head rest =>
          rw [List.cons_append, behind, behind]
          split
          · exact ih (Nat.le_of_succ_le_succ fits)
          · rfl

theorem behind_length {text rest : PyStr} (read : behind compared wanted text = some rest) :
    rest = text.drop wanted.length ∧ wanted.length ≤ text.length := by
  induction wanted generalizing text with
  | nil =>
      cases read
      exact ⟨rfl, Nat.zero_le _⟩
  | cons point others ih =>
      cases text with
      | nil => cases read
      | cons head tail =>
          rw [behind] at read
          split at read
          · obtain ⟨same, fits⟩ := ih read
            exact ⟨same, Nat.succ_le_succ fits⟩
          · cases read

theorem literal_exclusive {other text rest : PyStr} (clashes : clash other wanted = true)
    (read : literal wanted text = some rest) : literal other text = none := by
  induction wanted generalizing other text with
  | nil => cases other <;> cases clashes
  | cons point others ih =>
      cases other with
      | nil => cases clashes
      | cons first more =>
          cases text with
          | nil => rfl
          | cons head tail =>
              unfold literal at read ⊢
              rw [behind] at read ⊢
              rw [clash, Bool.or_eq_true, decide_eq_true_eq] at clashes
              split at read
              · next same =>
                  split
                  · next again =>
                      rcases clashes with here | later
                      · exact absurd (same.symm.trans again) here
                      · exact ih later read
                  · rfl
              · cases read

end Literals

section PrivateKeys

variable {label front tail : PyStr}

theorem closes_front (fits : (closingMarker label).length ≤ front.length) (tail : PyStr) :
    closes label (front ++ tail) = closes label front := by
  have measure : (closingMarker label).length = endWord.length + label.length + dashes.length := by
    rw [closingMarker, List.length_append, List.length_append]
  unfold closes literal backReference
  rw [behind_front (by omega)]
  cases opened : behind foldPoint endWord front with
  | none => rfl
  | some first =>
      obtain ⟨rfl, _⟩ := behind_length opened
      rw [Option.map_some, Option.bind_some, Option.bind_some,
        behind_front (by rw [List.length_drop]; omega)]
      cases labelled : behind lowerPoint label (front.drop endWord.length) with
      | none => rfl
      | some second =>
          obtain ⟨rfl, _⟩ := behind_length labelled
          rw [Option.map_some, Option.bind_some, Option.bind_some,
            behind_front (by rw [List.length_drop, List.length_drop]; omega), Option.isSome_map]

theorem closedAfter_least {text : PyStr} {length : Nat}
    (closed : closedAfter label text = some length) :
    (closingMarker label).length ≤ length := by
  induction text generalizing length with
  | nil => cases closed
  | cons point rest ih =>
      rw [closedAfter] at closed
      split at closed
      · cases closed
        exact le_rfl
      · obtain ⟨inner, found, rfl⟩ := Option.map_eq_some_iff.mp closed
        exact (ih found).trans (Nat.le_succ _)

theorem closedAfter_front {length : Nat} (closed : closedAfter label (front ++ tail) = some length)
    (within : length ≤ front.length) (other : PyStr) : closedAfter label (front ++ other) =
      some length := by
  induction front generalizing length with
  | nil =>
      have least := closedAfter_least closed
      have positive := closingMarker_pos label
      rw [List.length_nil] at within
      omega
  | cons point rest ih =>
      have least := closedAfter_least closed
      have here : closes label (point :: rest ++ tail) = closes label (point :: rest) :=
        closes_front (least.trans within) tail
      have there : closes label (point :: rest ++ other) = closes label (point :: rest) :=
        closes_front (least.trans within) other
      rw [List.cons_append] at closed here there ⊢
      rw [closedAfter, here] at closed
      rw [closedAfter, there]
      split at closed
      · next ends => rw [if_pos ends, closed]
      · next open_ =>
          obtain ⟨inner, found, rfl⟩ := Option.map_eq_some_iff.mp closed
          rw [if_neg open_, ih found (Nat.le_of_succ_le_succ within)]
          rfl

def labelledLength (text label : PyStr) : Option Nat :=
  (literal (openingMarker label) text).bind fun rest =>
    (closedAfter ((text.drop beginWord.length).take label.length) rest).map
      ((openingMarker label).length + ·)

theorem privateKeyLength_labels (text : PyStr) :
    privateKeyLength text = supportedLabels.findSome? (labelledLength text) := rfl

/-- A block that ends within the front is found before every other text. -/
theorem privateKeyLength_front {length : Nat}
    (found : privateKeyLength (front ++ tail) = some length)
    (within : length ≤ front.length) (other : PyStr) : privateKeyLength (front ++ other) =
      some length := by
  rw [privateKeyLength_labels] at found
  obtain ⟨label, supported, matched⟩ := List.exists_of_findSome?_eq_some found
  obtain ⟨rest, opened, closed⟩ := Option.bind_eq_some_iff.mp matched
  obtain ⟨inner, closing, rfl⟩ := Option.map_eq_some_iff.mp closed
  have fits : (openingMarker label).length ≤ front.length := (Nat.le_add_right _ _).trans within
  have measure : (openingMarker label).length = beginWord.length + label.length +
      dashes.length := by
    rw [openingMarker, List.length_append, List.length_append]
  unfold literal at opened
  rw [behind_front fits] at opened
  obtain ⟨left, read, rfl⟩ := Option.map_eq_some_iff.mp opened
  have again : literal (openingMarker label) (front ++ other) = some (left ++ other) := by
    unfold literal
    rw [behind_front fits, read]
    rfl
  have named : ∀ text, ((front ++ text).drop beginWord.length).take label.length =
      (front.drop beginWord.length).take label.length := by
    intro text
    rw [List.drop_append_of_le_length (by omega), List.take_append_of_le_length]
    rw [List.length_drop]
    omega
  rw [named] at closing
  have length := (behind_length read).1 ▸ List.length_drop
  rw [privateKeyLength_labels, findSome?_only supported]
  · unfold labelledLength
    rw [again, Option.bind_some, named, closedAfter_front closing (by rw [length]; omega)]
    rfl
  · intro later among different
    unfold labelledLength
    rw [literal_exclusive (labels_clash label supported later among different) again]
    rfl

end PrivateKeys

section Values

theorem quotedLength_cons (quote point : Nat) (rest : PyStr) :
    quotedLength quote (point :: rest) =
      if point = quote then some 0
      else if lineBreak point = true then none
      else if point = 0x5C then
        match rest with
        | [] => none
        | escaped :: others =>
            if lineBreak escaped = true then none else (quotedLength quote others).map (· + 2)
      else (quotedLength quote rest).map (· + 1) :=
  quotedLength.eq_def quote (point :: rest)

theorem quotedLength_within {quote length : Nat} {front tail : PyStr}
    (found : quotedLength quote (front ++ tail) = some length) (within : length < front.length)
    (other : PyStr) : quotedLength quote (front ++ other) = some length := by
  induction size : front.length using Nat.strong_induction_on generalizing front length with
  | _ size ih =>
      subst size
      cases front with
      | nil => cases within
      | cons point rest =>
          rw [List.length_cons] at within ih
          rw [List.cons_append, quotedLength_cons] at found ⊢
          split at found
          · next same => rw [if_pos same, found]
          · next others =>
              rw [if_neg others]
              split at found
              · cases found
              · next plain =>
                  rw [if_neg plain]
                  split at found
                  · next slash =>
                      rw [if_pos slash]
                      cases rest with
                      | nil =>
                          cases tail with
                          | nil => cases found
                          | cons head more =>
                              dsimp only [List.nil_append] at found
                              split at found
                              · cases found
                              · obtain ⟨inner, _, same⟩ := Option.map_eq_some_iff.mp found
                                rw [List.length_nil] at within
                                omega
                      | cons escaped more =>
                          dsimp only [List.cons_append] at found ⊢
                          split at found
                          · cases found
                          · next kept =>
                              obtain ⟨inner, later, rfl⟩ := Option.map_eq_some_iff.mp found
                              rw [List.length_cons] at within ih
                              rw [if_neg kept, ih more.length (by omega) later (by omega) rfl]
                              rfl
                  · next kept =>
                      obtain ⟨inner, later, rfl⟩ := Option.map_eq_some_iff.mp found
                      rw [if_neg kept, ih rest.length (by omega) later (by omega) rfl]
                      rfl

theorem quotedValue_within {form used : ValueForm} {quote length : Nat} {front tail : PyStr}
    (found : quotedValue form quote (front ++ tail) = some (used, length))
    (within : length ≤ front.length)
    (other : PyStr) : quotedValue form quote (front ++ other) = some (used, length) := by
  cases front with
  | nil =>
      have positive := quotedValue_pos found
      rw [List.length_nil] at within
      omega
  | cons point more =>
      rw [List.cons_append, quotedValue] at found ⊢
      split at found
      · next same =>
          obtain ⟨inner, closed, value⟩ := Option.bind_eq_some_iff.mp found
          rw [if_pos same]
          split at value
          · cases value
          · next nonzero =>
              cases value
              rw [List.length_cons] at within
              rw [quotedLength_within closed (by omega), Option.bind_some, if_neg nonzero]
      · cases found

variable {alphanumeric : Nat → Bool} {front rest : PyStr} {stop : Nat}

theorem run_past {wanted : PyStr}
    (letters : ∀ point ∈ wanted, keyPoint point = true ∧ foldPoint point = point)
    {left : PyStr} (read : literal wanted (front ++ stop :: rest) = some left)
    (past : front.length < wanted.length) :
    front.length < ((front ++ stop :: rest).takeWhile valuePoint).length := by
  induction wanted generalizing front with
  | nil => cases past
  | cons point others ih =>
      have own : ∀ {head : Nat}, foldPoint head = foldPoint point → valuePoint head = true := by
        intro head same
        apply letter_value
        obtain ⟨key, folds⟩ := letters point List.mem_cons_self
        unfold keyPoint at key ⊢
        rwa [same]
      unfold literal at read
      cases front with
      | nil =>
          rw [List.nil_append, behind] at read
          split at read
          · next same =>
              rw [List.nil_append, List.takeWhile_cons_of_pos (own same)]
              exact Nat.succ_pos _
          · cases read
      | cons head tail =>
          rw [List.cons_append, behind] at read
          split at read
          · next same =>
              rw [List.cons_append, List.takeWhile_cons_of_pos (own same)]
              exact Nat.succ_lt_succ
                (ih (fun point among => letters point (List.mem_cons_of_mem _ among)) read
                (Nat.lt_of_succ_lt_succ past))
          · cases read

theorem reserved_letters : ∀ word ∈ [PyStr.ofString "null", .ofString "none", .ofString "true",
    .ofString "false"], ∀ point ∈ word, keyPoint point = true ∧ foldPoint point = point := by
  repeat rw [PyStr.ofString_ofList]
  decide

theorem any_congr_mem {α : Type} {items : List α} {p q : α → Bool}
    (same : ∀ item ∈ items, p item = q item) : items.any p = items.any q := by
  rw [Bool.eq_iff_iff, List.any_eq_true, List.any_eq_true]
  constructor
  · rintro ⟨item, among, holds⟩
    exact ⟨item, among, same item among ▸ holds⟩
  · rintro ⟨item, among, holds⟩
    exact ⟨item, among, (same item among).symm ▸ holds⟩

theorem reservedWord_within
    (short : ((front ++ stop :: rest).takeWhile valuePoint).length ≤ front.length) (other : PyStr) :
    reservedWord alphanumeric (front ++ stop :: other) = reservedWord alphanumeric
      (front ++ stop :: rest) := by
  have again := takeWhile_within short other
  apply any_congr_mem
  intro word among
  have letters := reserved_letters word among
  rcases Nat.lt_or_ge front.length word.length with past | fits
  · have none_ : ∀ text, ((front ++ stop :: text).takeWhile valuePoint).length ≤ front.length →
        literal word (front ++ stop :: text) = none := by
      intro text small
      cases read : literal word (front ++ stop :: text) with
      | none => rfl
      | some left =>
          have long := run_past letters read past
          omega
    rw [none_ rest short, none_ other (again ▸ short)]
  · unfold literal
    rw [behind_front fits, behind_front fits, Option.any_map, Option.any_map]
    cases behind foldPoint word front with
    | none => rfl
    | some left =>
        cases left with
        | nil => rfl
        | cons head tail => rfl

theorem namesExpression_within (solid : space stop = false)
    (short : ((front ++ stop :: rest).takeWhile valuePoint).length ≤ front.length) (other : PyStr) :
    namesExpression (front ++ stop :: other) = namesExpression (front ++ stop :: rest) := by
  cases front with
  | nil =>
      have refused : valuePoint stop = false := by
        cases passes : valuePoint stop with
        | false => rfl
        | true =>
            rw [List.nil_append, List.takeWhile_cons_of_pos passes] at short
            cases short
      have other_ : keyPoint stop = false := by
        cases key : keyPoint stop with
        | false => rfl
        | true => exact absurd (letter_value key) (by rw [refused]; exact Bool.false_ne_true)
      rw [List.nil_append, List.nil_append, namesExpression, namesExpression, other_]
      rfl
  | cons point tail =>
      have again := takeWhile_within short other
      rw [List.cons_append, List.cons_append, namesExpression, namesExpression]
      cases key : keyPoint point with
      | false => rfl
      | true =>
          have dropped : ∀ text, ((point :: tail ++ stop :: text).takeWhile valuePoint).length ≤
              (point :: tail).length →
              (tail ++ stop :: text).dropWhile keyPoint = tail.dropWhile keyPoint ++
                stop :: text := by
            intro text small
            cases open_ : keyPoint stop with
            | false => exact dropWhile_stop open_ tail text
            | true =>
                rw [List.dropWhile_append]
                split
                · next all =>
                    have every : ∀ head ∈ tail, keyPoint head = true :=
                      List.dropWhile_eq_nil_iff.mp (List.isEmpty_iff.mp all)
                    have run : (point :: tail ++ stop :: text).takeWhile valuePoint =
                        point :: tail ++ (stop :: text).takeWhile valuePoint := by
                      apply List.takeWhile_append_of_pos
                      intro head among
                      rcases List.mem_cons.mp among with rfl | later
                      · exact letter_value key
                      · exact letter_value (every head later)
                    rw [run, List.takeWhile_cons_of_pos (letter_value open_), List.length_append,
                      List.length_cons (a := stop)] at small
                    omega
                · rfl
          rw [dropped rest short, dropped other (again ▸ short), dropWhile_stop solid,
            dropWhile_stop solid, List.head?_append, List.head?_append]
          rfl

theorem unquotedValue_within {form : ValueForm} {length : Nat} (solid : space stop = false)
    (found : unquotedValue alphanumeric (front ++ stop :: rest) = some (form, length))
    (within : length ≤ front.length) (other : PyStr) :
    unquotedValue alphanumeric (front ++ stop :: other) = some (form, length) := by
  have head : (front ++ stop :: other).head? = (front ++ stop :: rest).head? := by
    rw [List.head?_append, List.head?_append]
    rfl
  have short : ((front ++ stop :: rest).takeWhile valuePoint).length ≤ front.length := by
    unfold unquotedValue at found
    split at found
    · cases found
    · split at found
      · cases found
      · cases found
        exact within
  unfold unquotedValue at found ⊢
  rw [reservedWord_within short, namesExpression_within solid short, head, takeWhile_within short]
  exact found

theorem quotedValue_other {form : ValueForm} {quote point : Nat} (different : point ≠ quote)
    (rest : PyStr) : quotedValue form quote (point :: rest) = none := by
  rw [quotedValue, if_neg different]

theorem credentialValue_double (rest : PyStr) :
    credentialValue alphanumeric (0x22 :: rest) = quotedValue .double 0x22 (0x22 :: rest) := by
  have single : quotedValue .single 0x27 (0x22 :: rest) = none := quotedValue_other (by decide) rest
  have plain : unquotedValue alphanumeric (0x22 :: rest) = none := by
    unfold unquotedValue
    rw [List.takeWhile_cons_of_neg (by decide)]
    split <;> rfl
  unfold credentialValue
  rw [single, plain, Option.or_none, Option.or_none]

theorem credentialValue_single (rest : PyStr) :
    credentialValue alphanumeric (0x27 :: rest) = quotedValue .single 0x27 (0x27 :: rest) := by
  have double : quotedValue .double 0x22 (0x27 :: rest) = none := quotedValue_other (by decide) rest
  have plain : unquotedValue alphanumeric (0x27 :: rest) = none := by
    unfold unquotedValue
    rw [List.takeWhile_cons_of_neg (by decide)]
    split <;> rfl
  unfold credentialValue
  rw [double, plain, Option.or_none, Option.none_or]

theorem credentialValue_plain {point : Nat} (double : point ≠ 0x22) (single : point ≠ 0x27)
    (rest : PyStr) :
    credentialValue alphanumeric (point :: rest) = unquotedValue alphanumeric (point :: rest) := by
  unfold credentialValue
  rw [quotedValue_other double, quotedValue_other single, Option.none_or, Option.none_or]

theorem credentialValue_within {form : ValueForm} {length : Nat} (solid : space stop = false)
    (found : credentialValue alphanumeric (front ++ stop :: rest) = some (form, length))
    (within : length ≤ front.length) (other : PyStr) :
    credentialValue alphanumeric (front ++ stop :: other) = some (form, length) := by
  cases front with
  | nil =>
      have positive := credentialValue_pos found
      rw [List.length_nil] at within
      omega
  | cons point tail =>
      rw [List.cons_append] at found ⊢
      by_cases double : point = 0x22
      · subst double
        rw [credentialValue_double] at found ⊢
        exact quotedValue_within found within (stop :: other)
      · by_cases single : point = 0x27
        · subst single
          rw [credentialValue_single] at found ⊢
          exact quotedValue_within found within (stop :: other)
        · rw [credentialValue_plain double single] at found ⊢
          exact unquotedValue_within solid found within other

end Values

section Credentials

variable {alphanumeric : Nat → Bool} {front rest : PyStr} {stop : Nat}

theorem assignedValue_within {valueText : PyStr} {form : ValueForm} {length : Nat}
    (solid : space stop = false)
    (found : assignedValue alphanumeric (front ++ stop :: rest) = some (valueText, form, length))
    (within : (front ++ stop :: rest).length - valueText.length + length ≤ front.length)
    (other : PyStr) : ∃ value, valueText = value ++ stop :: rest ∧
      assignedValue alphanumeric (front ++ stop :: other) = some (value ++ stop :: other,
        form, length) := by
  have head : (front ++ stop :: other).head? = (front ++ stop :: rest).head? := by
    rw [List.head?_append, List.head?_append]
    rfl
  unfold assignedValue at found ⊢
  rw [head]
  split at found
  · cases found
  · next proper =>
      rw [if_neg proper]
      rw [dropWhile_stop solid] at found ⊢
      have shorter : (front.dropWhile space).length ≤ front.length :=
        (List.dropWhile_suffix _).length_le
      cases left : front.dropWhile space with
      | nil =>
          rw [left, List.nil_append] at found
          dsimp only at found
          split at found
          · obtain ⟨_, _, same⟩ := Option.map_eq_some_iff.mp found
            cases same
            have small : (rest.dropWhile space).length ≤ rest.length :=
              (List.dropWhile_suffix _).length_le
            rw [List.length_append, List.length_cons] at within
            omega
          · cases found
      | cons sign others =>
          rw [left, List.cons_append] at found
          rw [List.cons_append]
          dsimp only at found ⊢
          split at found
          · next signs =>
              obtain ⟨⟨used, measured⟩, value, same⟩ := Option.map_eq_some_iff.mp found
              cases same
              rw [dropWhile_stop solid] at value
              rw [left, List.length_cons] at shorter
              have least : (others.dropWhile space).length ≤ others.length :=
                (List.dropWhile_suffix _).length_le
              have bound : length ≤ (others.dropWhile space).length := by
                rw [dropWhile_stop solid, List.length_append, List.length_append] at within
                omega
              refine ⟨others.dropWhile space, dropWhile_stop solid _ _, ?_⟩
              rw [if_pos signs, dropWhile_stop solid,
                credentialValue_within solid value bound other]
              rfl
          · cases found

theorem keys_clash : ∀ key ∈ credentialKeyTexts, ∀ other ∈ credentialKeyTexts, other ≠ key →
    clash other key = true := by
  unfold credentialKeyTexts credentialKeys
  repeat rw [PyStr.ofString_ofList]
  decide

def keyedCredential (alphanumeric : Nat → Bool) (text key : PyStr) : Option (SecretKind × Nat) :=
  (literal key text).bind fun rest =>
    (assignedValue alphanumeric rest).map fun assigned =>
      let prefixLength := text.length - assigned.1.length
      (.credential prefixLength assigned.2.1, prefixLength + assigned.2.2)

theorem credential_keys {previous : Option Nat} (apart : previous.any keyPoint = false)
    (text : PyStr) :
    credential alphanumeric previous text = credentialKeyTexts.findSome?
      (keyedCredential alphanumeric text) := by
  unfold credential
  rw [if_neg (by rw [apart]; exact Bool.false_ne_true)]
  rfl

theorem credential_key {previous : Option Nat} (apart : previous.any keyPoint = false)
    {text key left : PyStr}
    (among : key ∈ credentialKeyTexts) (read : literal key text = some left) :
    credential alphanumeric previous text = keyedCredential alphanumeric text key := by
  rw [credential_keys apart, findSome?_only among]
  intro later there different
  unfold keyedCredential
  rw [literal_exclusive (keys_clash key among later there different) read]
  rfl

theorem keyedCredential_some {text key : PyStr} {kind : SecretKind} {length : Nat}
    (found : keyedCredential alphanumeric text key = some (kind, length)) :
    ∃ left valueText form size, literal key text = some left ∧
      assignedValue alphanumeric left = some (valueText, form, size) ∧
      kind = .credential (text.length - valueText.length) form ∧
      length = text.length - valueText.length + size := by
  obtain ⟨left, read, assigned⟩ := Option.bind_eq_some_iff.mp found
  obtain ⟨⟨valueText, form, size⟩, value, same⟩ := Option.map_eq_some_iff.mp assigned
  cases same
  exact ⟨left, valueText, form, size, read, value, rfl, rfl⟩

theorem assignedValue_shorter {text valueText : PyStr} {form : ValueForm} {size : Nat}
    (found : assignedValue alphanumeric text = some (valueText, form, size)) :
    valueText <:+ text ∧ valueText.length < text.length := by
  unfold assignedValue at found
  split at found
  · cases found
  · split at found
    · cases found
    · next sign others left =>
        split at found
        · obtain ⟨_, _, same⟩ := Option.map_eq_some_iff.mp found
          cases same
          have front : sign :: others <:+ text := left ▸ List.dropWhile_suffix _
          have back : others.dropWhile space <:+ others := List.dropWhile_suffix _
          have whole := back.trans ((List.suffix_cons sign others).trans front)
          refine ⟨whole, ?_⟩
          have least := back.length_le
          have most := front.length_le
          rw [List.length_cons] at most
          omega
        · cases found

theorem credential_within {previous : Option Nat} {kind : SecretKind} {length : Nat}
    (solid : space stop = false)
    (found : credential alphanumeric previous (front ++ stop :: rest) = some (kind, length))
    (within : length ≤ front.length) (other : PyStr) :
    credential alphanumeric previous (front ++ stop :: other) = some (kind, length) := by
  have apart : previous.any keyPoint = false := by
    unfold credential at found
    split at found
    · cases found
    · next open_ => exact Bool.not_eq_true _ ▸ open_
  rw [credential_keys apart] at found
  obtain ⟨key, among, matched⟩ := List.exists_of_findSome?_eq_some found
  obtain ⟨left, valueText, form, size, read, value, rfl, rfl⟩ := keyedCredential_some matched
  obtain ⟨rfl, fits⟩ := behind_length read
  have shorter := (assignedValue_shorter value).2
  have key_fits : key.length ≤ front.length := by
    rw [List.length_drop] at shorter
    omega
  have again :
      literal key (front ++ stop :: other) = some (front.drop key.length ++ stop :: other) := by
    unfold literal at read ⊢
    rw [behind_front key_fits] at read ⊢
    obtain ⟨inner, own, _⟩ := Option.map_eq_some_iff.mp read
    rw [own, (behind_length own).1]
    rfl
  rw [List.drop_append_of_le_length key_fits] at value
  have bound : (front.drop key.length ++ stop :: rest).length - valueText.length + size ≤
      (front.drop key.length).length := by
    rw [List.length_drop] at shorter
    rw [List.length_append, List.length_drop]
    rw [List.length_append] at within shorter
    omega
  obtain ⟨kept, rfl, assigned⟩ := assignedValue_within solid value bound other
  rw [credential_key apart among again]
  unfold keyedCredential
  rw [again, Option.bind_some, assigned, Option.map_some]
  dsimp only
  have prefix_ : (front ++ stop :: other).length - (kept ++ stop :: other).length =
      (front ++ stop :: rest).length - (kept ++ stop :: rest).length := by
    simp only [List.length_append, List.length_cons]
    omega
  rw [prefix_]

/-- A match that ends within the front is found before every other text, unless a private key there
covers more. -/
theorem secretAt_within {previous : Option Nat} {kind : SecretKind} {length : Nat}
    (solid : space stop = false)
    (found : secretAt alphanumeric previous (front ++ stop :: rest) = some (kind, length))
    (within : length ≤ front.length) (other : PyStr) :
    secretAt alphanumeric previous (front ++ stop :: other) = some (kind, length) ∨
      ∃ longer, secretAt alphanumeric previous (front ++ stop :: other) =
        some (.privateKey, longer) ∧
        front.length < longer := by
  unfold secretAt at found ⊢
  rcases Option.or_eq_some_iff.mp found with block | ⟨none_, assignment⟩
  · obtain ⟨measured, key, same⟩ := Option.map_eq_some_iff.mp block
    cases same
    rw [privateKeyLength_front key within (stop :: other)]
    exact .inl rfl
  · have later := credential_within solid assignment within other
    cases key : privateKeyLength (front ++ stop :: other) with
    | none => exact .inl later
    | some longer =>
        refine .inr ⟨longer, rfl, ?_⟩
        by_contra short
        have back := privateKeyLength_front key (by omega) (stop :: rest)
        rw [back] at none_
        cases none_

end Credentials

end SynapseOS.Security
