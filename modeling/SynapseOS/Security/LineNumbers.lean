import SynapseOS.Core.Lines
import SynapseOS.Security.Noninterference

/-! When a sanitized text has the line numbers of its source. -/

namespace SynapseOS.Security

open Execution

section Values

variable {alphanumeric : Nat → Bool}

theorem lineEnd_space {point : Nat} (ends : lineEnd point = true) : space point = true := by
  unfold lineEnd at ends
  unfold space
  simp only [Bool.or_eq_true, decide_eq_true_eq, List.contains_eq_mem, List.mem_cons,
    List.not_mem_nil, or_false] at ends ⊢
  omega

theorem solid_lineEnd {point : Nat} (solid : space point = false) : lineEnd point = false := by
  cases ends : lineEnd point with
  | false => rfl
  | true =>
      rw [lineEnd_space ends] at solid
      cases solid

theorem behind_points {compared : Nat → Nat} {wanted text rest : PyStr}
    (read : behind compared wanted text = some rest) :
    (text.take wanted.length).map compared = wanted.map compared := by
  induction wanted generalizing text with
  | nil => simp
  | cons point others ih =>
      cases text with
      | nil => cases read
      | cons head tail =>
          rw [behind] at read
          split at read
          · next same =>
              rw [List.length_cons, List.take_succ_cons, List.map_cons, List.map_cons,
                same, ih read]
          · cases read

theorem fold_dash {point : Nat} (same : foldPoint point = 0x2D) : point = 0x2D := by
  unfold foldPoint at same
  split at same
  · next upper =>
      have bounds := of_decide_eq_true upper
      omega
  · split_ifs at same <;> omega

theorem closes_dash {label text : PyStr} (closed : closes label text = true) :
    text[(closingMarker label).length - 1]? = some 0x2D := by
  unfold closes at closed
  obtain ⟨left, found⟩ := Option.isSome_iff_exists.mp closed
  obtain ⟨second, labelled, last⟩ := Option.bind_eq_some_iff.mp found
  obtain ⟨first, opened, named⟩ := Option.bind_eq_some_iff.mp labelled
  obtain ⟨rfl, _⟩ := behind_length opened
  obtain ⟨rfl, _⟩ := behind_length named
  have points := behind_points last
  have fifth :
      ((((text.drop endWord.length).drop label.length).take dashes.length).map foldPoint)[4]? =
        some 0x2D := by
    rw [points]
    decide
  rw [List.getElem?_map, List.getElem?_take_of_lt (by decide), List.getElem?_drop,
    List.getElem?_drop] at fifth
  obtain ⟨point, at_, same⟩ := Option.map_eq_some_iff.mp fifth
  have measure : (closingMarker label).length - 1 = endWord.length + (label.length + 4) := by
    rw [closingMarker, List.length_append, List.length_append]
    have five : dashes.length = 5 := by decide
    omega
  rw [measure, at_, fold_dash same]

theorem closedAfter_dash {label text : PyStr} {length : Nat}
    (found : closedAfter label text = some length) :
    1 ≤ length ∧ text[length - 1]? = some 0x2D := by
  induction text generalizing length with
  | nil => cases found
  | cons point rest ih =>
      rw [closedAfter] at found
      split at found
      · next closed =>
          cases found
          exact ⟨closingMarker_pos label, closes_dash closed⟩
      · obtain ⟨inner, later, rfl⟩ := Option.map_eq_some_iff.mp found
        obtain ⟨least, dash⟩ := ih later
        refine ⟨by omega, ?_⟩
        have back : inner + 1 - 1 = inner - 1 + 1 := by omega
        rw [back, List.getElem?_cons_succ, dash]

theorem privateKeyLength_dash {text : PyStr} {length : Nat}
    (found : privateKeyLength text = some length) :
    1 ≤ length ∧ text[length - 1]? = some 0x2D := by
  obtain ⟨label, _, matched⟩ := List.exists_of_findSome?_eq_some found
  obtain ⟨rest, opened, closed⟩ := Option.bind_eq_some_iff.mp matched
  obtain ⟨inner, later, rfl⟩ := Option.map_eq_some_iff.mp closed
  obtain ⟨rfl, _⟩ := behind_length opened
  obtain ⟨least, dash⟩ := closedAfter_dash later
  rw [List.getElem?_drop] at dash
  refine ⟨by omega, ?_⟩
  rw [← dash]
  congr 1
  omega

theorem quotedLength_quote {quote length : Nat} {text : PyStr}
    (found : quotedLength quote text = some length) :
    text[length]? = some quote := by
  induction size : text.length using Nat.strong_induction_on generalizing text length with
  | _ size ih =>
      subst size
      cases text with
      | nil => cases found
      | cons point rest =>
          rw [quotedLength_cons] at found
          split at found
          · next same =>
              cases found
              rw [same]
              rfl
          · split at found
            · cases found
            · split at found
              · cases rest with
                | nil => cases found
                | cons escaped others =>
                    dsimp only at found
                    split at found
                    · cases found
                    · obtain ⟨inner, later, rfl⟩ := Option.map_eq_some_iff.mp found
                      show others[inner]? = some quote
                      exact ih others.length (by simp) later rfl
              · obtain ⟨inner, later, rfl⟩ := Option.map_eq_some_iff.mp found
                show rest[inner]? = some quote
                exact ih rest.length (by simp) later rfl

/-- A value ends no line with its first point or with its last one. -/
def ValueEdges (value : PyStr) : Prop :=
  ∃ first last, value.head? = some first ∧ value.getLast? = some last ∧ lineEnd first = false ∧
    lineEnd last = false

theorem edges_take {text : PyStr} {length first last : Nat} (positive : 1 ≤ length)
    (starts : text.head? = some first)
    (ends : text[length - 1]? = some last) (inner : lineEnd first = false)
    (final : lineEnd last = false) : ValueEdges (text.take length) := by
  have within := (List.getElem?_eq_some_iff.mp ends).1
  refine ⟨first, last, ?_, ?_, inner, final⟩
  · rw [List.head?_take, if_neg (by omega), starts]
  · rw [List.getLast?_eq_getElem?, List.length_take, min_eq_left (by omega),
      List.getElem?_take_of_lt (by omega), ends]

theorem quotedValue_edges {form used : ValueForm} {quote length : Nat} {text : PyStr}
    (inner : lineEnd quote = false)
    (found : quotedValue form quote text = some (used, length)) : ValueEdges
      (text.take length) := by
  unfold quotedValue at found
  split at found
  · cases found
  · next point rest =>
      split at found
      · next same =>
          obtain ⟨size, quoted, later⟩ := Option.bind_eq_some_iff.mp found
          split at later
          · cases later
          · cases later
            subst same
            have closing : (point :: rest)[size + 2 - 1]? = some point := by
              show rest[size]? = some point
              exact quotedLength_quote quoted
            exact edges_take (by omega) rfl closing inner inner
      · cases found

variable {alphanumeric : Nat → Bool}

theorem unquotedValue_edges {form : ValueForm} {length : Nat} {text : PyStr}
    (found : unquotedValue alphanumeric text = some (form, length)) : ValueEdges
      (text.take length) := by
  unfold unquotedValue at found
  split at found
  · cases found
  · split at found
    · cases found
    · next run some_ =>
        cases found
        have solid : ∀ point ∈ text.takeWhile valuePoint, lineEnd point = false := by
          intro point among
          have value := List.mem_takeWhile_imp among
          apply solid_lineEnd
          unfold valuePoint at value
          rw [Bool.not_eq_true', Bool.or_eq_false_iff] at value
          exact value.1
        have taken : text.take (text.takeWhile valuePoint).length = text.takeWhile valuePoint :=
          (List.prefix_iff_eq_take.mp (List.takeWhile_prefix _)).symm
        rw [taken]
        cases points : text.takeWhile valuePoint with
        | nil => exact absurd points some_
        | cons head tail =>
            rw [points] at solid
            exact ⟨head, (head :: tail).getLast (List.cons_ne_nil _ _), rfl,
              List.getLast?_eq_getLast_of_ne_nil _,
              solid head List.mem_cons_self, solid _ (List.getLast_mem _)⟩

theorem credentialValue_edges {form : ValueForm} {length : Nat} {text : PyStr}
    (found : credentialValue alphanumeric text = some (form, length)) : ValueEdges
      (text.take length) := by
  rcases Option.or_eq_some_iff.mp found with double | ⟨_, later⟩
  · exact quotedValue_edges (by decide) double
  · rcases Option.or_eq_some_iff.mp later with single | ⟨_, plain⟩
    · exact quotedValue_edges (by decide) single
    · exact unquotedValue_edges plain

theorem assignedValue_value {text valueText : PyStr} {form : ValueForm} {size : Nat}
    (found : assignedValue alphanumeric text = some (valueText, form, size)) :
    credentialValue alphanumeric valueText = some (form, size) := by
  unfold assignedValue at found
  split at found
  · cases found
  · split at found
    · cases found
    · split at found
      · obtain ⟨_, value, same⟩ := Option.map_eq_some_iff.mp found
        cases same
        exact value
      · cases found

def SecretKind.copied : SecretKind → Nat
  | .privateKey => 0
  | .credential prefixLength _ => prefixLength

def SecretKind.mask : SecretKind → PyStr
  | .privateKey => redactedSecret
  | .credential _ form => form.mark ++ redactedSecret ++ form.mark

theorem secretAt_edges {previous : Option Nat} {text : PyStr} {kind : SecretKind} {length : Nat}
    (found : secretAt alphanumeric previous text = some (kind, length)) :
    ValueEdges ((text.take length).drop kind.copied) := by
  rcases Option.or_eq_some_iff.mp found with block | ⟨_, assignment⟩
  · obtain ⟨measured, key, same⟩ := Option.map_eq_some_iff.mp block
    cases same
    obtain ⟨positive, dash⟩ := privateKeyLength_dash key
    cases text with
    | nil => cases dash
    | cons head rest =>
        have first := privateKeyLength_head key
        exact edges_take positive rfl dash (by rw [first]; decide) (by decide)
  · unfold credential at assignment
    split at assignment
    · cases assignment
    · obtain ⟨key, _, matched⟩ := List.exists_of_findSome?_eq_some assignment
      obtain ⟨left, valueText, form, size, read, assigned, rfl, rfl⟩ := keyedCredential_some matched
      obtain ⟨rfl, _⟩ := behind_length read
      have behind_ : valueText <:+ text :=
        (assignedValue_shorter assigned).1.trans (List.drop_suffix _ _)
      have dropped : text.drop (text.length - valueText.length) = valueText :=
        (List.suffix_iff_eq_drop.mp behind_).symm
      show ValueEdges
        ((text.take (text.length - valueText.length + size)).drop (text.length - valueText.length))
      rw [List.drop_take, dropped, Nat.add_sub_cancel_left]
      exact credentialValue_edges (assignedValue_value assigned)

end Values

section Pieces

variable {alphanumeric : Nat → Bool} {text : PyStr}

def Segment.pieces : Segment → List Piece
  | .kept _ point => [.kept point]
  | .secret found =>
      (found.covered.take found.kind.copied).map Piece.kept ++
        [.span (found.covered.drop found.kind.copied) found.kind.mask]

theorem kept_flatMap (points : List Nat) {text : Piece → List Nat}
    (kept : ∀ point, text (.kept point) = [point]) :
    (points.map Piece.kept).flatMap text = points := by
  induction points with
  | nil => rfl
  | cons head tail ih => rw [List.map_cons, List.flatMap_cons, kept, ih, List.singleton_append]

theorem pieces_shown (segment : Segment) : segment.pieces.flatMap Piece.shown = segment.render := by
  cases segment with
  | kept position point => rfl
  | secret found =>
      show _ = found.replacement
      unfold Segment.pieces SecretMatch.replacement
      rw [List.flatMap_append, kept_flatMap _ fun _ => rfl, List.flatMap_singleton]
      cases kind : found.kind with
      | privateKey => rfl
      | credential prefixLength form =>
          show found.covered.take prefixLength ++ (form.mark ++ redactedSecret ++ form.mark) =
            found.covered.take prefixLength ++ form.mark ++ redactedSecret ++ form.mark
          rw [List.append_assoc, List.append_assoc, List.append_assoc]

def Segment.source : Segment → PyStr
  | .kept _ point => [point]
  | .secret found => found.covered

theorem pieces_hidden (segment : Segment) :
    segment.pieces.flatMap Piece.hidden = segment.source := by
  cases segment with
  | kept position point => rfl
  | secret found =>
      unfold Segment.pieces Segment.source
      rw [List.flatMap_append, kept_flatMap _ fun _ => rfl, List.flatMap_singleton]
      exact List.take_append_drop _ _

/-- The segments of a scan cover the text. -/
theorem scanFrom_source {fuel position : Nat} {previous : Option Nat} {text : PyStr}
    (enough : text.length ≤ fuel) :
    (scanFrom alphanumeric fuel position previous text).flatMap Segment.source = text := by
  induction fuel generalizing position previous text with
  | zero =>
      rw [List.length_eq_zero_iff.mp (Nat.le_zero.mp enough)]
      rfl
  | succ fuel ih =>
      cases text with
      | nil => rfl
      | cons head rest =>
          rw [List.length_cons] at enough
          cases read : secretAt alphanumeric previous (head :: rest) with
          | none =>
              rw [scanFrom, read]
              show [head] ++ (scanFrom alphanumeric fuel (position + 1) (some head) rest).flatMap
                Segment.source = _
              rw [ih (by omega)]
              rfl
          | some pair =>
              obtain ⟨kind, length⟩ := pair
              have positive := secretAt_pos read
              rw [scanFrom, read]
              show (head :: rest).take length ++ (scanFrom alphanumeric fuel _ _ _).flatMap
                Segment.source = _
              rw [ih (by rw [List.length_drop, List.length_cons]; omega), List.take_append_drop]

theorem scan_source (alphanumeric : Nat → Bool) (text : PyStr) :
    ((scan alphanumeric text).flatMap Segment.pieces).flatMap Piece.hidden = text := by
  rw [List.flatMap_assoc]
  simp only [pieces_hidden]
  exact scanFrom_source le_rfl

theorem scan_shown (alphanumeric : Nat → Bool) (text : PyStr) :
    ((scan alphanumeric text).flatMap Segment.pieces).flatMap Piece.shown =
      substituted alphanumeric text := by
  rw [List.flatMap_assoc]
  simp only [pieces_shown]
  rfl

theorem mask_tidy (kind : SecretKind) :
    kind.mask ≠ [] ∧ ∀ point ∈ kind.mask, lineEnd point = false := by
  cases kind with
  | privateKey => decide
  | credential prefixLength form =>
      have shown : ∀ form : ValueForm, form.mark ++ redactedSecret ++ form.mark ≠ [] ∧
          ∀ point ∈ form.mark ++ redactedSecret ++ form.mark, lineEnd point = false := by
        intro form
        cases form <;> decide
      exact shown form

theorem secret_tidy {found : SecretMatch} (held : found ∈ secrets alphanumeric text) :
    (Piece.span (found.covered.drop found.kind.copied) found.kind.mask).Tidy := by
  obtain ⟨before, length, head, rest, _, read, covered⟩ := secret_read held
  obtain ⟨first, last, starts, ends, inner, final⟩ := secretAt_edges read
  rw [← covered] at starts ends
  refine ⟨?_, ?_, ?_, (mask_tidy found.kind).1, (mask_tidy found.kind).2⟩
  · intro none_
    rw [none_] at starts
    cases starts
  · intro point same
    rw [starts] at same
    rwa [← Option.some.inj same]
  · intro point same
    rw [ends] at same
    rwa [← Option.some.inj same]

theorem mem_pieces {piece : Piece} : piece ∈ (scan alphanumeric text).flatMap Segment.pieces ↔
    ∃ segment ∈ scan alphanumeric text, piece ∈ segment.pieces := List.mem_flatMap

theorem scan_tidy : ∀ piece ∈ (scan alphanumeric text).flatMap Segment.pieces, piece.Tidy := by
  intro piece among
  obtain ⟨segment, there, own⟩ := mem_pieces.mp among
  cases segment with
  | kept position point =>
      rw [List.mem_singleton.mp own]
      trivial
  | secret found =>
      rcases List.mem_append.mp own with front | value
      · obtain ⟨point, _, rfl⟩ := List.mem_map.mp front
        trivial
      · rw [List.mem_singleton.mp value]
        exact secret_tidy (mem_secrets.mpr there)

def SingleLine (found : SecretMatch) : Prop :=
  ∀ point ∈ found.covered.drop found.kind.copied, lineEnd point = false

theorem scan_flat : (∀ piece ∈ (scan alphanumeric text).flatMap Segment.pieces, piece.Flat) ↔
    ∀ found ∈ secrets alphanumeric text, SingleLine found := by
  constructor
  · intro flat found held
    exact flat _
      (mem_pieces.mpr ⟨_, mem_secrets.mp held, List.mem_append_right _ (List.mem_singleton_self _)⟩)
  · intro single piece among
    obtain ⟨segment, there, own⟩ := mem_pieces.mp among
    cases segment with
    | kept position point =>
        rw [List.mem_singleton.mp own]
        trivial
    | secret found =>
        rcases List.mem_append.mp own with front | value
        · obtain ⟨point, _, rfl⟩ := List.mem_map.mp front
          trivial
        · rw [List.mem_singleton.mp value]
          exact single found (mem_secrets.mpr there)

theorem kept_front {points : List Nat} {items front back : List Piece} {hidden shown : List Nat}
    (splits : points.map Piece.kept ++ items = front ++ .span hidden shown :: back) :
    ∃ others, front = points.map Piece.kept ++ others ∧
    items = others ++ .span hidden shown :: back := by
  induction points generalizing front with
  | nil => exact ⟨front, rfl, splits⟩
  | cons point rest ih =>
      cases front with
      | nil => cases (List.cons.inj splits).1
      | cons first tail =>
          obtain ⟨rfl, later⟩ := List.cons.inj splits
          obtain ⟨others, rfl, same⟩ := ih later
          exact ⟨others, rfl, same⟩

/-- A span of the pieces is the value of a match, where it starts. -/
theorem scanFrom_span {fuel position : Nat} {previous : Option Nat} {text : PyStr}
    {front back : List Piece} {hidden shown : List Nat}
    (splits : (scanFrom alphanumeric fuel position previous text).flatMap Segment.pieces =
      front ++ .span hidden shown :: back) :
    ∃ found, .secret found ∈ scanFrom alphanumeric fuel position previous text ∧
      found.start + (found.covered.take found.kind.copied).length =
        position + (front.flatMap Piece.hidden).length ∧
      hidden = found.covered.drop found.kind.copied := by
  induction fuel generalizing position previous text front with
  | zero => exact absurd splits.symm (by simp [scanFrom])
  | succ fuel ih =>
      cases text with
      | nil => exact absurd splits.symm (by simp [scanFrom])
      | cons head rest =>
          cases read : secretAt alphanumeric previous (head :: rest) with
          | none =>
              rw [scanFrom, read] at splits ⊢
              dsimp only at splits ⊢
              obtain ⟨others, rfl, later⟩ := @kept_front [head] _ _ _ _ _ splits
              obtain ⟨found, among, starts, value⟩ := ih later
              refine ⟨found, List.mem_cons_of_mem _ among, ?_, value⟩
              rw [starts, List.flatMap_append, List.length_append]
              exact Nat.add_assoc _ _ _
          | some pair =>
              obtain ⟨kind, length⟩ := pair
              rw [scanFrom, read] at splits ⊢
              dsimp only at splits ⊢
              rw [List.flatMap_cons, Segment.pieces, List.append_assoc] at splits
              obtain ⟨others, rfl, later⟩ := kept_front splits
              rw [List.flatMap_append, kept_flatMap _ fun _ => rfl, List.length_append]
              cases others with
              | nil =>
                  obtain ⟨same, _⟩ := List.cons.inj later
                  exact ⟨_, List.mem_cons_self, rfl, (Piece.span.inj same).1.symm⟩
              | cons first more =>
                  obtain ⟨rfl, behind_⟩ := List.cons.inj later
                  obtain ⟨found, among, starts, value⟩ := ih behind_
                  refine ⟨found, List.mem_cons_of_mem _ among, ?_, value⟩
                  rw [starts, List.flatMap_cons, List.length_append]
                  have whole : ((head :: rest).take length).length =
                      (((head :: rest).take length).take kind.copied).length +
                        (((head :: rest).take length).drop kind.copied).length := by
                    rw [← List.length_append, List.take_append_drop]
                  show _ = position + ((((head :: rest).take length).take kind.copied).length +
                    ((((head :: rest).take length).drop kind.copied).length + _))
                  omega

def Untouched (alphanumeric : Nat → Bool) (text : PyStr) (number : Nat) : Prop :=
  ∀ found ∈ secrets alphanumeric text, ∀ position, found.valueStart ≤ position →
    position < found.stop →
    lineOf text position ≠ number

/-- The two texts have as many lines, and each line in which no value stands is the same in both. -/
def SameLines (alphanumeric : Nat → Bool) (text returned : PyStr) : Prop :=
  (splitLines returned).length = (splitLines text).length ∧
    ∀ number, Untouched alphanumeric text number →
    (splitLines returned)[number]? = (splitLines text)[number]?

theorem valueStart_copied {found : SecretMatch} : found.valueStart = found.start +
    found.kind.copied := by
  unfold SecretMatch.valueStart
  cases found.kind <;> rfl

/-- A complete sanitization keeps the lines exactly when no line ends in a value that it redacts. -/
theorem line_numbers_kept {library : RedactionLibrary} {location returned : PyStr}
    {state final : RedactionState}
    (sanitized : sanitizeText library location state text = .ok (returned, final))
    (complete : final.complete = true) :
    SameLines library.alphanumeric text returned ↔ ∀ found ∈ secrets library.alphanumeric text,
      SingleLine found := by
  have shown := (sanitized_complete sanitized complete).1
  have tidy : ∀ piece ∈ (scan library.alphanumeric text).flatMap Segment.pieces, piece.Tidy :=
    scan_tidy
  have number := lines_number tidy
  rw [scan_source, scan_shown, ← shown, scan_flat] at number
  unfold SameLines
  rw [number]
  constructor
  · exact fun both => both.1
  · intro single
    refine ⟨single, fun number untouched => ?_⟩
    have kept := @lines_kept _ tidy (scan_flat.mpr single) number
    rw [scan_source, scan_shown, ← shown] at kept
    apply kept
    intro front hidden shown back splits
    obtain ⟨found, among, starts, value⟩ := scanFrom_span splits
    have held := mem_secrets.mpr among
    have some_ := (secret_tidy held).1
    have positive := List.length_pos_iff.mpr some_
    rw [List.length_drop] at positive
    rw [List.length_take, min_eq_left (by omega), Nat.zero_add, ← valueStart_copied] at starts
    rw [← starts]
    apply untouched found held _ le_rfl
    rw [valueStart_copied]
    have stop : found.stop = found.start + found.covered.length := rfl
    omega

end Pieces

def longToken : PyStr := .ofString "a\ntoken=abcdefghijklmnopq\nb"

def tokenMatch : SecretMatch := ⟨2, .credential 6 .unquoted, .ofString "token=abcdefghijklmnopq"⟩

theorem line_numbers_kept_token : ∃ returned final,
    sanitizeText plainLibrary diffPath .initial longToken = .ok (returned, final) ∧
      returned = .ofString "a\ntoken=[REDACTED_SECRET]\nb" ∧
      SameLines plainLibrary.alphanumeric longToken returned := by
  have scanned : secrets plainLibrary.alphanumeric longToken = [tokenMatch] ∧
      substituted plainLibrary.alphanumeric longToken =
        .ofString "a\ntoken=[REDACTED_SECRET]\nb" := by
    unfold longToken tokenMatch
    repeat rw [PyStr.ofString_ofList]
    decide
  have sizes : longToken.length ≤ 16384 ∧
      (PyStr.ofString "a\ntoken=[REDACTED_SECRET]\nb").length ≤ longToken.length ∧
      utf8Length (.ofString "a\ntoken=[REDACTED_SECRET]\nb") ≤ utf8Length longToken := by
    unfold longToken
    repeat rw [PyStr.ofString_ofList]
    decide
  have single : SingleLine tokenMatch := by
    unfold SingleLine tokenMatch
    repeat rw [PyStr.ofString_ofList]
    decide
  obtain ⟨final, outcome, complete, _⟩ := sample_sanitized scanned ⟨sizes.1, by decide⟩ sizes.2
  refine ⟨_, final, outcome, rfl, (line_numbers_kept outcome complete).mpr fun found among => ?_⟩
  rw [scanned.1] at among
  rw [List.mem_singleton.mp among]
  exact single

def keyAndLine : PyStr := plainKey ++ .ofString "\nx"

/-- The line behind a private key moves up by the lines of the key. -/
theorem line_moved : ∃ returned final,
    sanitizeText plainLibrary diffPath .initial keyAndLine = .ok (returned, final) ∧
    final.complete = true ∧
      (splitLines keyAndLine)[3]? = some (PyStr.ofString "x") ∧
      (splitLines returned)[1]? = some (PyStr.ofString "x") ∧
      (splitLines returned).length = 2 ∧
      ¬ SameLines plainLibrary.alphanumeric keyAndLine returned := by
  have scanned : secrets plainLibrary.alphanumeric keyAndLine = [⟨0, .privateKey, plainKey⟩] ∧
      substituted plainLibrary.alphanumeric keyAndLine = redactedSecret ++ .ofString "\nx" := by
    unfold keyAndLine plainKey redactedSecret
    repeat rw [PyStr.ofString_ofList]
    decide
  have sizes :
    keyAndLine.length ≤ 16384 ∧ (redactedSecret ++ .ofString "\nx").length ≤ keyAndLine.length ∧
      utf8Length (redactedSecret ++ .ofString "\nx") ≤ utf8Length keyAndLine := by
    unfold keyAndLine plainKey redactedSecret
    repeat rw [PyStr.ofString_ofList]
    decide
  obtain ⟨final, outcome, complete, _⟩ := sample_sanitized scanned ⟨sizes.1, by decide⟩ sizes.2
  have tested : splitLines (redactedSecret ++ PyStr.ofString "\nx") = [redactedSecret,
      .ofString "x"] := by
    unfold redactedSecret
    repeat rw [PyStr.ofString_ofList]
    decide
  have source : (splitLines keyAndLine)[3]? = some (PyStr.ofString "x") ∧
      (splitLines keyAndLine).length = 4 := by
    unfold keyAndLine plainKey
    repeat rw [PyStr.ofString_ofList]
    decide
  refine ⟨_, final, outcome, complete, source.1, by rw [tested]; rfl, by rw [tested]; rfl, ?_⟩
  intro same
  have number := same.1
  rw [source.2, tested] at number
  cases number

end SynapseOS.Security
