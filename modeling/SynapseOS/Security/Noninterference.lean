import SynapseOS.Security.Locality
import SynapseOS.Security.Sanitized

/-! What the redaction of a text shows of one of its secret values. -/

namespace SynapseOS.Security

open Execution

section Heads

theorem space_fold {point : Nat} (blank : space point = true) : foldPoint point = point := by
  have upper : upperLetter point = false := by
    by_contra letter
    rw [Bool.not_eq_false] at letter
    have bounds := of_decide_eq_true letter
    have none_ : ∀ small < 0x5B, 0x41 ≤ small → space small = false := by decide
    rw [none_ point (by omega) bounds.1] at blank
    cases blank
  unfold foldPoint
  rw [upper, if_neg Bool.false_ne_true, if_neg, if_neg, if_neg]
  · rintro rfl
    cases blank
  · rintro rfl
    cases blank
  · rintro (rfl | rfl) <;> cases blank

theorem literal_solid {wanted head : Nat} {others rest left : PyStr}
    (solid : space (foldPoint wanted) = false)
    (read : literal (wanted :: others) (head :: rest) = some left) : space head = false := by
  unfold literal at read
  rw [behind] at read
  split at read
  · next same =>
      by_contra blank
      rw [Bool.not_eq_false] at blank
      rw [← same, space_fold blank, blank] at solid
      cases solid
  · cases read

theorem dash_head {label rest left : PyStr} {head : Nat}
    (read : literal (openingMarker label) (head :: rest) = some left) : head = 0x2D := by
  have begins : openingMarker label = 0x2D :: (beginWord.drop 1 ++ label ++ dashes) := by
    rw [openingMarker]
    rfl
  rw [begins] at read
  unfold literal at read
  rw [behind] at read
  split at read
  · next same =>
      have dash : foldPoint 0x2D = 0x2D := by decide
      rw [dash] at same
      unfold foldPoint at same
      split at same
      · next upper =>
          have bounds := of_decide_eq_true upper
          omega
      · split_ifs at same <;> omega
  · cases read

theorem key_heads : ∀ key ∈ credentialKeyTexts, ∃ head rest, key = head :: rest ∧
    space (foldPoint head) = false := by
  have shown : ∀ key ∈ credentialKeyTexts, key.head?.any (fun head => !space (foldPoint head)) =
      true := by
    unfold credentialKeyTexts credentialKeys
    repeat rw [PyStr.ofString_ofList]
    decide
  intro key among
  have known := shown key among
  cases key with
  | nil => cases known
  | cons head rest => exact ⟨head, rest, rfl, by simpa using known⟩

variable {alphanumeric : Nat → Bool}

theorem privateKeyLength_head {head length : Nat} {rest : PyStr}
    (found : privateKeyLength (head :: rest) = some length) : head = 0x2D := by
  rw [privateKeyLength_labels] at found
  obtain ⟨label, _, matched⟩ := List.exists_of_findSome?_eq_some found
  obtain ⟨left, opened, _⟩ := Option.bind_eq_some_iff.mp matched
  exact dash_head opened

theorem secretAt_solid {previous : Option Nat} {head length : Nat} {rest : PyStr}
    {kind : SecretKind}
    (found : secretAt alphanumeric previous (head :: rest) = some (kind, length)) :
    space head = false := by
  rcases Option.or_eq_some_iff.mp found with block | ⟨_, assignment⟩
  · obtain ⟨measured, key, _⟩ := Option.map_eq_some_iff.mp block
    rw [privateKeyLength_head key]
    decide
  · unfold credential at assignment
    split at assignment
    · cases assignment
    · obtain ⟨key, among, matched⟩ := List.exists_of_findSome?_eq_some assignment
      obtain ⟨left, read, _⟩ := Option.bind_eq_some_iff.mp matched
      obtain ⟨first, others, rfl, solid⟩ := key_heads key among
      exact literal_solid solid read

end Heads

section Scans

variable {alphanumeric : Nat → Bool} {stop : Nat} {rest other : PyStr}

/-- Behind a match that goes past the front no segment starts at its end. -/
theorem scanFrom_overrun {fuel position length : Nat} {previous : Option Nat} {front : PyStr}
    {kind : SecretKind} (some_ : front ≠ [])
    (found : secretAt alphanumeric previous (front ++ stop :: rest) = some (kind, length))
    (past : front.length < length) :
    ∀ segment ∈ scanFrom alphanumeric fuel position previous (front ++ stop :: rest),
      segment.start ≠ position + front.length := by
  have size := List.length_pos_iff.mpr some_
  intro segment among same
  cases fuel with
  | zero => cases among
  | succ fuel =>
      cases front with
      | nil => exact some_ rfl
      | cons head tail =>
          rw [List.cons_append] at found among
          rw [scanFrom, found] at among
          rcases List.mem_cons.mp among with rfl | later
          · have here : position = position + (head :: tail).length := same
            omega
          · have starts := scanFrom_starts later
            rw [List.length_take, List.length_cons, List.length_append, List.length_cons] at starts
            rw [List.length_cons] at same past
            omega

theorem scanFrom_first (fuel position : Nat) {previous : Option Nat} {front : PyStr}
    (some_ : front ≠ [])
    (bounded : ∀ kind length, secretAt alphanumeric previous (front ++ stop :: rest) =
      some (kind, length) →
      length ≤ front.length) :
    ∃ first taken before, first.start = position ∧ 0 < taken ∧ taken ≤ front.length ∧
      ∀ text, secretAt alphanumeric previous (front ++ stop :: text) =
          secretAt alphanumeric previous (front ++ stop :: rest) →
        scanFrom alphanumeric (fuel + 1) position previous (front ++ stop :: text) =
          first :: scanFrom alphanumeric fuel (position + taken) before
            (front.drop taken ++ stop :: text) := by
  cases front with
  | nil => exact absurd rfl some_
  | cons head tail =>
      cases found : secretAt alphanumeric previous (head :: tail ++ stop :: rest) with
      | none =>
          refine ⟨.kept position head, 1, some head, rfl, Nat.one_pos, Nat.succ_pos _,
            fun text same => ?_⟩
          rw [List.cons_append] at same ⊢
          rw [scanFrom, same]
          rfl
      | some pair =>
          obtain ⟨kind, length⟩ := pair
          have most := bounded kind length found
          have positive := secretAt_pos found
          have taken : ∀ text : PyStr, (head :: tail ++ stop :: text).take length =
              (head :: tail).take length :=
            fun text => List.take_append_of_le_length most
          have measure : ((head :: tail).take length).length = length := by
            rw [List.length_take]
            omega
          refine ⟨.secret ⟨position, kind, (head :: tail).take length⟩, length,
            ((head :: tail).take length).getLast?, rfl, positive, most, fun text same => ?_⟩
          have dropped : (head :: tail ++ stop :: text).drop length = (head :: tail).drop length ++
              stop :: text :=
            List.drop_append_of_le_length most
          have shortened := taken text
          rw [List.cons_append] at same dropped shortened ⊢
          rw [scanFrom, same]
          dsimp only
          rw [shortened, dropped, measure]

/-- Two texts with the same front are scanned alike up to a position where both have a segment. -/
theorem scanFrom_meets (solid : space stop = false) {fuel position : Nat} {previous : Option Nat}
    {front : PyStr}
    (here : ∃ segment ∈ scanFrom alphanumeric fuel position previous (front ++ stop :: rest),
      segment.start = position + front.length)
    (there : ∃ segment ∈ scanFrom alphanumeric fuel position previous (front ++ stop :: other),
      segment.start = position + front.length) :
    ∃ segments left before, (∀ segment ∈ segments, segment.start < position + front.length) ∧
      fuel ≤ left + front.length ∧
      scanFrom alphanumeric fuel position previous (front ++ stop :: rest) =
        segments ++ scanFrom alphanumeric left (position + front.length) before (stop :: rest) ∧
      scanFrom alphanumeric fuel position previous (front ++ stop :: other) =
        segments ++ scanFrom alphanumeric left (position + front.length) before
          (stop :: other) := by
  induction fuel generalizing position previous front with
  | zero =>
      obtain ⟨_, among, _⟩ := here
      cases among
  | succ fuel ih =>
      by_cases none_ : front = []
      · subst none_
        exact ⟨[], fuel + 1, previous, by simp, le_rfl, rfl, rfl⟩
      · have size := List.length_pos_iff.mpr none_
        have bounded : ∀ {text : PyStr},
            (∃ segment ∈ scanFrom alphanumeric (fuel + 1) position previous (front ++ stop :: text),
              segment.start = position + front.length) → ∀ kind length,
            secretAt alphanumeric previous (front ++ stop :: text) = some (kind, length) →
            length ≤ front.length := by
          intro text ⟨segment, among, same⟩ kind length found
          by_contra past
          exact scanFrom_overrun none_ found (not_le.mp past) segment among same
        have agrees : secretAt alphanumeric previous (front ++ stop :: other) =
            secretAt alphanumeric previous (front ++ stop :: rest) := by
          cases found : secretAt alphanumeric previous (front ++ stop :: rest) with
          | some pair =>
              rcases secretAt_within solid found (bounded here _ _ found) other
                with same | ⟨longer, more, past⟩
              · exact same
              · have short := bounded there _ _ more
                omega
          | none =>
              cases more : secretAt alphanumeric previous (front ++ stop :: other) with
              | none => rfl
              | some pair =>
                  rcases secretAt_within solid more (bounded there _ _ more) rest
                    with same | ⟨longer, back, _⟩
                  · rw [found] at same
                    cases same
                  · rw [found] at back
                    cases back
        obtain ⟨first, taken, before, starts, positive, most, step⟩ :=
          scanFrom_first fuel position none_ (bounded here)
        have dropped : (front.drop taken).length = front.length - taken := List.length_drop
        have ahead : position + taken + (front.drop taken).length = position + front.length := by
          omega
        have later : ∀ {text : PyStr},
            scanFrom alphanumeric (fuel + 1) position previous (front ++ stop :: text) =
              first :: scanFrom alphanumeric fuel (position + taken) before
                (front.drop taken ++ stop :: text) →
            (∃ segment ∈ scanFrom alphanumeric (fuel + 1) position previous (front ++ stop :: text),
              segment.start = position + front.length) →
            ∃ segment ∈ scanFrom alphanumeric fuel (position + taken) before (front.drop taken ++
              stop :: text), segment.start = position + taken + (front.drop taken).length := by
          intro text unfolds ⟨segment, among, same⟩
          rw [unfolds] at among
          rcases List.mem_cons.mp among with own | later
          · rw [own, starts] at same
            omega
          · exact ⟨segment, later, by omega⟩
        have left := step rest rfl
        have right := step other agrees
        obtain ⟨segments, more, last, early, enough, splits, splits'⟩ :=
          ih (later left here) (later right there)
        rw [ahead] at early splits splits'
        refine ⟨first :: segments, more, last, ?_, by omega, by rw [left, splits]; rfl,
          by rw [right, splits']; rfl⟩
        intro segment among
        rcases List.mem_cons.mp among with rfl | behind
        · omega
        · exact early segment behind

theorem scanFrom_here {fuel : Nat} {previous : Option Nat} {text : PyStr} {found : SecretMatch}
    (among : .secret found ∈ scanFrom alphanumeric fuel found.start previous text) :
    ∃ left length, fuel = left + 1 ∧ secretAt alphanumeric previous text = some (found.kind,
      length) ∧
      found.covered = text.take length ∧
      scanFrom alphanumeric fuel found.start previous text =
        .secret found :: scanFrom alphanumeric left found.stop found.covered.getLast?
          (text.drop found.covered.length) := by
  cases fuel with
  | zero => cases among
  | succ fuel =>
      cases text with
      | nil => cases among
      | cons head rest =>
          cases read : secretAt alphanumeric previous (head :: rest) with
          | none =>
              rw [scanFrom, read] at among
              rcases List.mem_cons.mp among with same | later
              · cases same
              · have starts := scanFrom_starts later
                have here : found.start + 1 ≤ found.start := starts
                omega
          | some pair =>
              obtain ⟨kind, length⟩ := pair
              have positive := secretAt_pos read
              rw [scanFrom, read] at among ⊢
              dsimp only at among ⊢
              rcases List.mem_cons.mp among with same | later
              · have own : found = ⟨found.start, kind, (head :: rest).take length⟩ :=
                  Segment.secret.inj same
                have covered : found.covered = (head :: rest).take length :=
                  congrArg SecretMatch.covered own
                have kinds : found.kind = kind := congrArg SecretMatch.kind own
                have dropped : (head :: rest).drop found.covered.length =
                    (head :: rest).drop length := by
                  rw [covered, List.length_take]
                  rcases Nat.le_total length (head :: rest).length with below | above
                  · rw [Nat.min_eq_left below]
                  · rw [Nat.min_eq_right above, List.drop_eq_nil_of_le above, List.drop_length]
                refine ⟨fuel, length, rfl, by rw [kinds], covered, ?_⟩
                rw [dropped, ← own, ← covered]
                rfl
              · have starts := scanFrom_starts later
                rw [List.length_take, List.length_cons] at starts
                have here : found.start + min length (rest.length + 1) ≤ found.start := starts
                omega

/-- A scan sees of the point before it only whether it is a point of a key. -/
theorem scanFrom_previous {fuel position : Nat} {previous before : Option Nat} {text : PyStr}
    (same : previous.any keyPoint = before.any keyPoint ∨
      credential alphanumeric none text = none) :
    scanFrom alphanumeric fuel position previous text =
      scanFrom alphanumeric fuel position before text := by
  have agrees : secretAt alphanumeric previous text = secretAt alphanumeric before text := by
    unfold secretAt
    congr 1
    rcases same with same | none_
    · unfold credential
      rw [same]
    · have always : ∀ previous : Option Nat, credential alphanumeric previous text = none := by
        intro previous
        unfold credential at none_ ⊢
        split
        · rfl
        · exact none_
      rw [always, always]
  cases fuel with
  | zero => rfl
  | succ fuel =>
      cases text with
      | nil => rfl
      | cons head rest => rw [scanFrom, scanFrom, agrees]

end Scans

def SecretMatch.valueStart (found : SecretMatch) : Nat :=
  match found.kind with
  | .privateKey => found.start
  | .credential prefixLength _ => found.start + prefixLength

/-- Two texts that differ in one value, which the pattern matches in both. -/
structure OneValue (alphanumeric : Nat → Bool) (text other : PyStr) (found twin : SecretMatch) :
    Prop where
  held : found ∈ secrets alphanumeric text
  twin_held : twin ∈ secrets alphanumeric other
  start : twin.start = found.start
  kind : twin.kind = found.kind
  span : twin.covered.length = found.covered.length
  before : other.take found.valueStart = text.take found.valueStart
  after : other.drop found.stop = text.drop found.stop
  bytes : utf8Length twin.covered = utf8Length found.covered
  lines : newlines twin.covered = newlines found.covered

/-- What follows the value does not tell the two values apart: their last points are both points of
a key or both not, or no credential follows. -/
def Untold (alphanumeric : Nat → Bool) (text : PyStr) (found twin : SecretMatch) : Prop :=
  found.covered.getLast?.any keyPoint = twin.covered.getLast?.any keyPoint ∨
    credential alphanumeric none (text.drop found.stop) = none

section Values

variable {alphanumeric : Nat → Bool} {text other : PyStr} {found twin : SecretMatch}

theorem scanFrom_positive {fuel position : Nat} {previous : Option Nat} {text : PyStr}
    {segment : Segment}
    (among : segment ∈ scanFrom alphanumeric fuel position previous text) : segment.start <
      segment.stop := by
  induction fuel generalizing position previous text with
  | zero => cases among
  | succ fuel ih =>
      by_cases left : text = []
      · rw [left] at among
        cases among
      · obtain ⟨head, taken, before, starts, stops, positive, _, unfolds⟩ :=
          scanFrom_step alphanumeric fuel position previous left
        rw [unfolds] at among
        rcases List.mem_cons.mp among with rfl | later
        · omega
        · exact ih later

theorem secret_read (held : found ∈ secrets alphanumeric text) :
    ∃ before length head rest, text.drop found.start = head :: rest ∧
      secretAt alphanumeric before (head :: rest) = some (found.kind, length) ∧
      found.covered = (head :: rest).take length := by
  have there := mem_secrets.mp held
  have within := secret_within held
  have positive : found.start < found.start + found.covered.length := scanFrom_positive there
  have reached := @scanFrom_reaches alphanumeric text.length 0 found.start none text le_rfl
    (by omega)
  rw [Nat.zero_add] at reached
  rcases reached with ⟨segment, among, starts, stops⟩ | ⟨left, before, front, enough, splits⟩
  · rcases scan_apart among there with rfl | order | order
    · exact absurd starts (lt_irrefl _)
    · have least : segment.stop ≤ found.start := order
      omega
    · have most : found.start + found.covered.length ≤ segment.start := order
      omega
  · cases rest : text.drop found.start with
    | nil =>
        have short := List.drop_eq_nil_iff.mp rest
        omega
    | cons head tail =>
        rw [rest] at enough splits
        have ordered : (scan alphanumeric text).Pairwise fun first second =>
            first.stop ≤ second.start :=
          scanFrom_ordered _ _ _ _
        rw [scan, splits] at there ordered
        rcases List.mem_append.mp there with early | here
        · obtain ⟨fuel, rfl⟩ : ∃ fuel, left = fuel + 1 :=
            ⟨left - 1, by rw [List.length_cons] at enough; omega⟩
          obtain ⟨first, taken, last, starts, _, _, _, unfolds⟩ :=
            scanFrom_step alphanumeric fuel found.start before (List.cons_ne_nil head tail)
          have apart : found.stop ≤ first.start :=
            (List.pairwise_append.mp ordered).2.2 _ early
              first (by rw [unfolds]; exact List.mem_cons_self)
          have stop : found.stop = found.start + found.covered.length := rfl
          omega
        · obtain ⟨_, length, _, read, covered, _⟩ := scanFrom_here here
          exact ⟨before, length, head, tail, rfl, read, covered⟩

theorem prefix_pos {previous : Option Nat} {prefixLength length : Nat} {form : ValueForm}
    {text : PyStr}
    (read : secretAt alphanumeric previous text = some (.credential prefixLength form, length)) :
    0 < prefixLength := by
  rcases Option.or_eq_some_iff.mp read with block | ⟨_, assignment⟩
  · obtain ⟨_, _, same⟩ := Option.map_eq_some_iff.mp block
    cases same
  · unfold credential at assignment
    split at assignment
    · cases assignment
    · obtain ⟨key, _, matched⟩ := List.exists_of_findSome?_eq_some assignment
      obtain ⟨left, valueText, used, size, literal_, value, kind, _⟩ := keyedCredential_some matched
      cases kind
      have shorter := (assignedValue_shorter value).2
      obtain ⟨rfl, fits⟩ := behind_length literal_
      rw [List.length_drop] at shorter
      omega

theorem OneValue.aligned (one : OneValue alphanumeric text other found twin) :
    other.length = text.length ∧ other.take found.start = text.take found.start ∧
      ∃ head rest rest', text.drop found.start = head :: rest ∧
      other.drop found.start = head :: rest' ∧
        space head = false := by
  obtain ⟨_, length, head, rest, left, read, _⟩ := secret_read one.held
  obtain ⟨_, length', head', rest', right, read', _⟩ := secret_read one.twin_held
  rw [one.start] at right
  rw [one.kind] at read'
  have value : found.start ≤ found.valueStart := by
    unfold SecretMatch.valueStart
    split <;> omega
  have front : other.take found.start = text.take found.start := by
    have cut := congrArg (List.take found.start) one.before
    rwa [List.take_take, List.take_take, min_eq_left value] at cut
  have within := secret_within one.held
  have within' := secret_within one.twin_held
  rw [one.start, one.span] at within'
  have total : other.length = text.length := by
    have same := congrArg List.length one.after
    rw [List.length_drop, List.length_drop] at same
    have stop : found.stop = found.start + found.covered.length := rfl
    omega
  refine ⟨total, front, head, rest, rest', left, ?_, secretAt_solid read⟩
  rw [right]
  congr 1
  cases kind : found.kind with
  | privateKey =>
      have block : ∀ {before text length}, secretAt alphanumeric before text =
          some (.privateKey, length) →
          privateKeyLength text = some length := by
        intro before text length read
        rcases Option.or_eq_some_iff.mp read with block | ⟨_, assignment⟩
        · obtain ⟨_, key, same⟩ := Option.map_eq_some_iff.mp block
          cases same
          exact key
        · unfold credential at assignment
          split at assignment
          · cases assignment
          · obtain ⟨_, _, matched⟩ := List.exists_of_findSome?_eq_some assignment
            obtain ⟨_, _, _, _, _, _, same, _⟩ := keyedCredential_some matched
            cases same
      rw [kind] at read read'
      rw [privateKeyLength_head (block read), privateKeyLength_head (block read')]
  | credential prefixLength form =>
      rw [kind] at read
      have positive := prefix_pos read
      have starts : found.valueStart = found.start + prefixLength := by
        unfold SecretMatch.valueStart
        rw [kind]
      have heads : ∀ text : PyStr, (text.take found.valueStart)[found.start]? =
          (text.drop found.start).head? := by
        intro text
        rw [List.getElem?_take_of_lt (by omega), List.head?_drop]
      have same := heads other
      rw [one.before, heads text, left, right] at same
      exact Option.some.inj same.symm

/-- The scans of two texts that differ in one value are the same up to it, and behind it they go on
with the same text. -/
theorem scans_alike (one : OneValue alphanumeric text other found twin) :
    ∃ segments left, (∀ segment ∈ segments, segment.start < found.start) ∧
      (text.drop found.stop).length ≤ left ∧
      scan alphanumeric text = segments ++ .secret found ::
        scanFrom alphanumeric left found.stop found.covered.getLast? (text.drop found.stop) ∧
      scan alphanumeric other = segments ++ .secret twin ::
        scanFrom alphanumeric left found.stop twin.covered.getLast? (text.drop found.stop) := by
  obtain ⟨total, front, head, rest, rest', left, right, solid⟩ := one.aligned
  have within := secret_within one.held
  have held := mem_secrets.mp one.held
  have twin_held := mem_secrets.mp one.twin_held
  have size : (text.take found.start).length = found.start := by
    rw [List.length_take]
    omega
  have splits : text.take found.start ++ head :: rest = text := by
    rw [← left, List.take_append_drop]
  have splits' : text.take found.start ++ head :: rest' = other := by
    rw [← front, ← right, List.take_append_drop]
  unfold scan at held twin_held ⊢
  rw [total] at twin_held ⊢
  have measure :
      (text.drop found.stop).length = text.length - (found.start + found.covered.length) :=
    List.length_drop
  have positive : found.start < found.start + found.covered.length := scanFrom_positive held
  generalize text.length = fuel at held twin_held measure ⊢
  have here : ∃ segment ∈ scanFrom alphanumeric fuel 0 none (text.take found.start ++ head :: rest),
      segment.start = 0 + (text.take found.start).length :=
    ⟨.secret found, by rw [splits]; exact held, by rw [size, Nat.zero_add]; rfl⟩
  have there :
    ∃ segment ∈ scanFrom alphanumeric fuel 0 none (text.take found.start ++ head :: rest'),
      segment.start = 0 + (text.take found.start).length :=
    ⟨.secret twin, by rw [splits']; exact twin_held, by rw [size, Nat.zero_add]; exact one.start⟩
  obtain ⟨segments, left_, before, early, enough, parts, parts'⟩ := scanFrom_meets solid here there
  rw [splits, size, Nat.zero_add] at parts
  rw [splits', size, Nat.zero_add] at parts'
  rw [size, Nat.zero_add] at early
  have late : ∀ {match_ : SecretMatch}, match_.start = found.start → ∀ {back},
      Segment.secret match_ ∈ segments ++ back → Segment.secret match_ ∈ back := by
    intro match_ same back among
    rcases List.mem_append.mp among with first | last
    · have starts : match_.start < found.start := early _ first
      omega
    · exact last
  rw [parts] at held
  rw [parts'] at twin_held
  obtain ⟨fuel', _, rfl, _, _, unfolds⟩ := scanFrom_here (late rfl held)
  have twin_here : Segment.secret twin ∈ scanFrom alphanumeric (fuel' + 1) twin.start before
      (head :: rest') := by
    rw [one.start]
    exact late one.start twin_held
  obtain ⟨fuel'', _, same, _, _, unfolds'⟩ := scanFrom_here twin_here
  obtain rfl := Nat.succ.inj same
  have dropped : (head :: rest).drop found.covered.length = text.drop found.stop := by
    rw [← left, List.drop_drop]
    rfl
  have dropped' : (head :: rest').drop twin.covered.length = text.drop found.stop := by
    rw [← one.after, ← right, List.drop_drop, one.span]
    rfl
  have stop : twin.stop = found.stop := by
    unfold SecretMatch.stop
    rw [one.start, one.span]
  rw [one.start, dropped', stop] at unfolds'
  rw [dropped] at unfolds
  exact ⟨segments, fuel', early, by omega, by rw [parts, unfolds], by rw [parts', unfolds']⟩

/-- Where the matches of a text are, what kind they have and how long they are. -/
def outline (alphanumeric : Nat → Bool) (text : PyStr) : List (Nat × SecretKind × Nat) :=
  (secrets alphanumeric text).map fun found => (found.start, found.kind, found.covered.length)

theorem secrets_scan (text : PyStr) :
    secrets alphanumeric text = (scan alphanumeric text).filterMap Segment.match? := rfl

/-- Untold values are scanned alike, also behind them. -/
theorem scans_untold (one : OneValue alphanumeric text other found twin)
    (untold : Untold alphanumeric text found twin) :
    ∃ segments behind, (∀ segment ∈ segments, segment.start < found.start) ∧
      (∀ segment ∈ behind, found.stop ≤ segment.start) ∧
      scan alphanumeric text = segments ++ .secret found :: behind ∧
      scan alphanumeric other = segments ++ .secret twin :: behind := by
  obtain ⟨segments, left, early, _, parts, parts'⟩ := scans_alike one
  rw [← scanFrom_previous untold] at parts'
  exact ⟨segments, _, early, fun segment => scanFrom_starts, parts, parts'⟩

theorem outline_untold (one : OneValue alphanumeric text other found twin)
    (untold : Untold alphanumeric text found twin) : outline alphanumeric text =
      outline alphanumeric other := by
  obtain ⟨segments, behind, _, _, parts, parts'⟩ := scans_untold one untold
  have own : ∀ secret : SecretMatch, (Segment.secret secret).match? = some secret := fun _ => rfl
  unfold outline
  rw [secrets_scan, secrets_scan, parts, parts']
  simp only [List.filterMap_append, List.filterMap_cons, own, List.map_append, List.map_cons]
  rw [one.start, one.kind, one.span]

theorem key_dashes : ∀ key ∈ credentialKeyTexts,
    key.head?.any (fun head => decide (foldPoint head ≠ 0x2D)) = true := by
  unfold credentialKeyTexts credentialKeys
  repeat rw [PyStr.ofString_ofList]
  decide

theorem credential_private {previous : Option Nat} {text : PyStr} {pair : SecretKind × Nat}
    (found : credential alphanumeric previous text = some pair) : privateKeyLength text = none := by
  cases key : privateKeyLength text with
  | none => rfl
  | some length =>
      unfold credential at found
      split at found
      · cases found
      · obtain ⟨wanted, among, matched⟩ := List.exists_of_findSome?_eq_some found
        obtain ⟨left, read, _⟩ := Option.bind_eq_some_iff.mp matched
        have apart := key_dashes wanted among
        cases wanted with
        | nil => cases apart
        | cons first others =>
            cases text with
            | nil => cases read
            | cons head rest =>
                obtain rfl := privateKeyLength_head key
                unfold literal at read
                rw [behind] at read
                split at read
                · next same => exact absurd same.symm (of_decide_eq_true apart)
                · cases read

section Told

variable {left position : Nat} {previous : Option Nat} {rest : PyStr}

theorem scanFrom_credential (apart : previous.any keyPoint = false) (enough : rest.length ≤ left)
    (credits : credential alphanumeric none rest ≠ none) :
    ∃ secret, .secret secret ∈ scanFrom alphanumeric left position previous rest ∧
    secret.start = position := by
  obtain ⟨⟨kind, length⟩, credited⟩ := Option.ne_none_iff_exists'.mp credits
  have read : secretAt alphanumeric previous rest = some (kind, length) := by
    unfold secretAt
    rw [credential_private credited, ← credited]
    unfold credential
    rw [apart]
    rfl
  cases rest with
  | nil =>
      have some_key : ∀ key ∈ credentialKeyTexts, literal key [] = none := by
        intro key among
        have apart := key_dashes key among
        cases key with
        | nil => cases apart
        | cons first others => rfl
      rw [credential_keys rfl] at credited
      obtain ⟨key, among, matched⟩ := List.exists_of_findSome?_eq_some credited
      obtain ⟨_, _, _, _, literal_, _⟩ := keyedCredential_some matched
      rw [some_key key among] at literal_
      cases literal_
  | cons head tail =>
      obtain ⟨fuel, rfl⟩ : ∃ fuel, left = fuel + 1 :=
        ⟨left - 1, by rw [List.length_cons] at enough; omega⟩
      refine ⟨⟨position, kind, (head :: tail).take length⟩, ?_, rfl⟩
      rw [scanFrom, read]
      exact List.mem_cons_self

theorem scanFrom_blocked (key : previous.any keyPoint = true)
    (credits : credential alphanumeric none rest ≠ none) {secret : SecretMatch}
    (among : .secret secret ∈ scanFrom alphanumeric left position previous rest) : secret.start ≠
      position := by
  obtain ⟨pair, credited⟩ := Option.ne_none_iff_exists'.mp credits
  have read : secretAt alphanumeric previous rest = none := by
    unfold secretAt credential
    rw [credential_private credited, if_pos key]
    rfl
  cases left with
  | zero => cases among
  | succ fuel =>
      cases rest with
      | nil => cases among
      | cons head tail =>
          rw [scanFrom, read] at among
          rcases List.mem_cons.mp among with same | later
          · cases same
          · have starts := scanFrom_starts later
            have own : position + 1 ≤ secret.start := starts
            omega

end Told

theorem outline_at {segments back : List Segment} {own : SecretMatch} {position : Nat}
    (parts : scan alphanumeric text = segments ++ .secret own :: back)
    (early : ∀ segment ∈ segments, segment.start < position) (before : own.start < position) :
    (∃ entry ∈ outline alphanumeric text, entry.1 = position) ↔
      ∃ secret, .secret secret ∈ back ∧ secret.start = position := by
  unfold outline
  simp only [List.mem_map, mem_secrets, parts, List.mem_append, List.mem_cons]
  constructor
  · rintro ⟨_, ⟨secret, front | same | later, rfl⟩, here⟩
    · have starts : secret.start < position := early _ front
      have at_ : secret.start = position := here
      omega
    · cases same
      have at_ : own.start = position := here
      omega
    · exact ⟨secret, later, here⟩
  · rintro ⟨secret, later, here⟩
    exact ⟨_, ⟨secret, .inr (.inr later), rfl⟩, here⟩

/-- Only one of two values that are told apart has a match directly behind it. -/
theorem outline_told (one : OneValue alphanumeric text other found twin)
    (told : ¬ Untold alphanumeric text found twin) : outline alphanumeric text ≠
      outline alphanumeric other := by
  obtain ⟨segments, left, early, enough, parts, parts'⟩ := scans_alike one
  unfold Untold at told
  push Not at told
  obtain ⟨differ, credits⟩ := told
  have positive : found.start < found.start + found.covered.length :=
    scanFrom_positive (mem_secrets.mp one.held)
  have stop : found.stop = found.start + found.covered.length := rfl
  have sooner : ∀ segment ∈ segments, segment.start < found.stop := by
    intro segment among
    have starts := early segment among
    omega
  have here := outline_at parts sooner (by omega)
  have there := outline_at parts' sooner (by rw [one.start]; omega)
  intro same
  rw [same, there] at here
  cases key : found.covered.getLast?.any keyPoint with
  | true =>
      have apart : twin.covered.getLast?.any keyPoint = false := by
        rw [key] at differ
        exact Bool.eq_false_iff.mpr differ.symm
      obtain ⟨secret, among, starts⟩ := here.mp (scanFrom_credential apart enough credits)
      exact scanFrom_blocked key credits among starts
  | false =>
      have blocks : twin.covered.getLast?.any keyPoint = true := by
        rw [key] at differ
        exact Bool.eq_true_of_not_eq_false differ.symm
      obtain ⟨secret, among, starts⟩ := here.mpr (scanFrom_credential key enough credits)
      exact scanFrom_blocked blocks credits among starts

section Sanitization

variable {library : RedactionLibrary} {location : PyStr}

theorem replace_same {digest : LocationDigest} {state : RedactionState} {first second : SecretMatch}
    (kind : second.kind = first.kind)
    (before : newlines (other.take second.start) = newlines (text.take first.start))
    (inside : newlines second.covered = newlines first.covered) :
    state.replace digest other location second = state.replace digest text location first := by
  unfold RedactionState.replace findingForMatch findingFieldsFor
  rw [kind, before, inside]

theorem foldlM_same {ε σ α : Type} {f g : σ → α → Except ε σ} {items : List α}
    (same : ∀ state, ∀ item ∈ items, g state item = f state item) (state : σ) :
    items.foldlM g state = items.foldlM f state := by
  induction items generalizing state with
  | nil => rfl
  | cons item rest ih =>
      rw [List.foldlM_cons, List.foldlM_cons, same state item List.mem_cons_self]
      congr 1
      funext next
      exact ih (fun state item among => same state item (List.mem_cons_of_mem _ among)) next

theorem newlines_append (front back : PyStr) :
    newlines (front ++ back) = newlines front + newlines back :=
  List.count_append

theorem utf8Length_append (front back : PyStr) : utf8Length (front ++ back) = utf8Length front +
    utf8Length back := by
  unfold utf8Length
  rw [List.map_append, List.sum_append]

theorem secret_splits (held : found ∈ secrets alphanumeric text) :
    text = text.take found.start ++ (found.covered ++ text.drop found.stop) := by
  obtain ⟨_, length, head, rest, left, _, covered⟩ := secret_read held
  have within := secret_within held
  have behind : text.drop found.stop = (head :: rest).drop found.covered.length := by
    rw [← left, List.drop_drop]
    rfl
  have whole : found.covered ++ (head :: rest).drop found.covered.length = head :: rest := by
    have same : found.covered = (head :: rest).take found.covered.length := by
      conv_lhs => rw [covered]
      rw [covered, List.length_take]
      rcases Nat.le_total length (head :: rest).length with below | above
      · rw [Nat.min_eq_left below]
      · rw [Nat.min_eq_right above, List.take_of_length_le above, List.take_length]
    conv_lhs => rw [same]
    rw [List.length_take, min_eq_left (by rw [← left, List.length_drop]; omega),
      List.take_append_drop]
  rw [behind, whole, ← left, List.take_append_drop]

theorem OneValue.other_splits (one : OneValue alphanumeric text other found twin) :
    other = text.take found.start ++ (twin.covered ++ text.drop found.stop) := by
  obtain ⟨_, front, _⟩ := one.aligned
  have splits := secret_splits one.twin_held
  have stop : twin.stop = found.stop := by
    unfold SecretMatch.stop
    rw [one.start, one.span]
  rwa [one.start, stop, front, one.after] at splits

theorem OneValue.newlines_behind (one : OneValue alphanumeric text other found twin)
    {position : Nat}
    (behind : found.stop ≤ position) : newlines (other.take position) = newlines
      (text.take position) := by
  have within := secret_within one.held
  have stop : found.stop = found.start + found.covered.length := rfl
  have size : (text.take found.start).length = found.start := by
    rw [List.length_take]
    omega
  have cut : ∀ covered : PyStr, covered.length = found.covered.length →
      newlines ((text.take found.start ++ (covered ++ text.drop found.stop)).take position) =
        newlines (text.take found.start) + (newlines covered +
          newlines ((text.drop found.stop).take (position - found.stop))) := by
    intro covered same
    rw [List.take_append, List.take_append,
      List.take_of_length_le (l := text.take found.start) (by omega),
      List.take_of_length_le (l := covered) (by omega), newlines_append, newlines_append, size]
    congr 4
    omega
  have left := cut found.covered rfl
  have right := cut twin.covered one.span
  rw [← secret_splits one.held] at left
  rw [← one.other_splits] at right
  rw [left, right, one.lines]

theorem OneValue.replacement (one : OneValue alphanumeric text other found twin) :
    twin.replacement = found.replacement := by
  unfold SecretMatch.replacement
  rw [one.kind]
  cases kind : found.kind with
  | privateKey => rfl
  | credential prefixLength form =>
      have starts : found.valueStart = found.start + prefixLength := by
        unfold SecretMatch.valueStart
        rw [kind]
      have within := secret_within one.held
      have size : (text.take found.start).length = found.start := by
        rw [List.length_take]
        omega
      have cut : ∀ covered : PyStr, covered.length = found.covered.length →
          (((text.take found.start ++ (covered ++ text.drop found.stop)).take found.valueStart).drop
            found.start).take found.covered.length = covered.take prefixLength := by
        intro covered same
        rw [List.drop_take, List.drop_append_of_le_length (by omega),
          List.drop_of_length_le (by omega),
          List.nil_append, starts, Nat.add_sub_cancel_left, List.take_take,
          List.take_append_of_le_length (by omega), List.take_eq_take_iff]
        omega
      have left := cut found.covered rfl
      have right := cut twin.covered one.span
      rw [← secret_splits one.held] at left
      rw [← one.other_splits, one.before] at right
      dsimp only
      rw [← left, ← right]

theorem sanitizeText_untold (one : OneValue library.alphanumeric text other found twin)
    (untold : Untold library.alphanumeric text found twin) (state : RedactionState) :
    sanitizeText library location state other = sanitizeText library location state text := by
  obtain ⟨total, front, head, rest, rest', left, right, solid⟩ := one.aligned
  obtain ⟨segments, behind, early, late, parts, parts'⟩ := scans_untold one untold
  have within := secret_within one.held
  have within' := secret_within one.twin_held
  have splits := secret_splits one.held
  have splits' := secret_splits one.twin_held
  have stop : twin.stop = found.stop := by
    unfold SecretMatch.stop
    rw [one.start, one.span]
  rw [one.start, stop, front, one.after] at splits'
  have bytes : utf8Length other = utf8Length text := by
    rw [splits, splits']
    simp only [utf8Length_append, one.bytes]
  have substitutes : substituted library.alphanumeric other =
      substituted library.alphanumeric text := by
    unfold substituted
    rw [parts, parts', List.flatMap_append, List.flatMap_append, List.flatMap_cons,
      List.flatMap_cons]
    have renders : Segment.render (.secret twin) = Segment.render (.secret found) := one.replacement
    rw [renders]
  have replaced : (secrets library.alphanumeric other).foldlM
        (RedactionState.replace library.toLocationDigest other location) state =
      (secrets library.alphanumeric text).foldlM
        (RedactionState.replace library.toLocationDigest text location) state := by
    have own : ∀ secret : SecretMatch, (Segment.secret secret).match? = some secret := fun _ => rfl
    have starts : ∀ {items : List Segment} {secret : SecretMatch},
        secret ∈ items.filterMap Segment.match? → .secret secret ∈ items := by
      intro items secret among
      obtain ⟨segment, there, same⟩ := List.mem_filterMap.mp among
      cases segment with
      | kept position point => cases same
      | secret own =>
          cases same
          exact there
    rw [secrets_scan, secrets_scan, parts, parts']
    simp only [List.filterMap_append, List.filterMap_cons, own, List.foldlM_append,
      List.foldlM_cons]
    congr 1
    · apply foldlM_same
      intro state secret among
      have before : secret.start < found.start := early _ (starts among)
      apply replace_same rfl _ rfl
      have cut : ∀ text : PyStr, text.take secret.start =
          (text.take found.start).take secret.start := by
        intro text
        rw [List.take_take, min_eq_left before.le]
      rw [cut other, cut text, front]
    · funext after
      congr 1
      · exact replace_same one.kind (by rw [one.start, front]) one.lines
      · funext last
        apply foldlM_same
        intro state secret among
        have behind_ : found.stop ≤ secret.start := late _ (starts among)
        exact replace_same rfl (one.newlines_behind behind_) rfl
  unfold sanitizeText
  rw [replaced, substitutes, bytes, total]

/-- The matches of a text show nothing of a value exactly when nothing behind it tells its last
point, and then the redaction shows nothing of it. -/
theorem redaction_noninterfering (one : OneValue library.alphanumeric text other found twin) :
    (outline library.alphanumeric other = outline library.alphanumeric text ↔
        Untold library.alphanumeric text found twin) ∧
      (Untold library.alphanumeric text found twin → ∀ location state,
        sanitizeText library location state other = sanitizeText library location state text) := by
  refine ⟨⟨fun same => ?_, fun untold => (outline_untold one untold).symm⟩, ?_⟩
  · by_contra told
    exact outline_told one told same.symm
  · intro untold location state
    exact sanitizeText_untold one untold state

end Sanitization

end Values

def lettersFirst : PyStr := .ofString "token=ab"

def lettersSecond : PyStr := .ofString "token=cd"

def sampleMatch (prefixLength length : Nat) (form : ValueForm) (text : PyStr) : SecretMatch :=
  ⟨0, .credential prefixLength form, text.take length⟩

theorem sampleMatch_one {alphanumeric : Nat → Bool} {prefixLength length : Nat} {form : ValueForm}
    {text other : PyStr}
    (held : sampleMatch prefixLength length form text ∈ secrets alphanumeric text ∧
      sampleMatch prefixLength length form other ∈ secrets alphanumeric other)
    (size : length ≤ text.length ∧ length ≤ other.length)
    (same : other.take prefixLength = text.take prefixLength ∧
      other.drop length = text.drop length ∧
      utf8Length (other.take length) = utf8Length (text.take length) ∧
      newlines (other.take length) = newlines (text.take length)) :
    OneValue alphanumeric text other (sampleMatch prefixLength length form text)
      (sampleMatch prefixLength length form other) := by
  obtain ⟨before, after, bytes, lines⟩ := same
  have measure : ∀ {sample : PyStr}, length ≤ sample.length →
      (sampleMatch prefixLength length form sample).covered.length = length := by
    intro sample fits
    exact List.length_take_of_le fits
  have stop : (sampleMatch prefixLength length form text).stop = length := by
    unfold SecretMatch.stop
    rw [measure size.1]
    exact Nat.zero_add _
  have value : (sampleMatch prefixLength length form text).valueStart = prefixLength :=
    Nat.zero_add _
  exact ⟨held.1, held.2, rfl, rfl, by rw [measure size.1, measure size.2], by rw [value, before],
    by rw [stop, after], bytes, lines⟩

theorem letters_one : OneValue plainLibrary.alphanumeric lettersFirst lettersSecond
    (sampleMatch 6 8 .unquoted lettersFirst) (sampleMatch 6 8 .unquoted lettersSecond) := by
  unfold lettersFirst lettersSecond
  repeat rw [PyStr.ofString_ofList]
  exact sampleMatch_one (by decide) (by decide) (by decide)

theorem redaction_noninterfering_letters :
    Untold plainLibrary.alphanumeric lettersFirst (sampleMatch 6 8 .unquoted lettersFirst)
        (sampleMatch 6 8 .unquoted lettersSecond) ∧
      sanitizeText plainLibrary diffPath .initial lettersSecond =
        sanitizeText plainLibrary diffPath .initial lettersFirst := by
  have untold :
    Untold plainLibrary.alphanumeric lettersFirst (sampleMatch 6 8 .unquoted lettersFirst)
      (sampleMatch 6 8 .unquoted lettersSecond) := .inl (by decide)
  exact ⟨untold, (redaction_noninterfering letters_one).2 untold diffPath .initial⟩

def letterToken : PyStr := .ofString "token=abcd\"password\": \"x\""

def dashToken : PyStr := .ofString "token=abc-\"password\": \"x\""

theorem tokens_one : OneValue plainLibrary.alphanumeric letterToken dashToken
    (sampleMatch 6 10 .unquoted letterToken) (sampleMatch 6 10 .unquoted dashToken) := by
  unfold letterToken dashToken
  repeat rw [PyStr.ofString_ofList]
  exact sampleMatch_one (by decide) (by decide) (by decide)

/-- Behind the letter the quoted key is no match and one finding is made; behind the dash there are
two. -/
theorem token_shown :
    ¬ ∀ text other found twin, OneValue plainLibrary.alphanumeric text other found twin →
    sanitizeText plainLibrary diffPath .initial other =
      sanitizeText plainLibrary diffPath .initial text := by
  intro hidden
  have same := hidden _ _ _ _ tokens_one
  have counted : (secrets plainLibrary.alphanumeric letterToken).length = 1 ∧
      (secrets plainLibrary.alphanumeric dashToken).length = 2 := by
    unfold letterToken dashToken
    repeat rw [PyStr.ofString_ofList]
    decide
  have sizes : letterToken.length ≤ 16384 ∧ dashToken.length ≤ 16384 := by
    unfold letterToken dashToken
    repeat rw [PyStr.ofString_ofList]
    decide
  obtain ⟨final, outcome, _, one_⟩ :=
    @sanitized_few plainLibrary _ _ _ diffPath_relative sizes.1 rfl
    (by omega)
  obtain ⟨last, outcome', _, two⟩ := @sanitized_few plainLibrary _ _ _ diffPath_relative sizes.2 rfl
    (by omega)
  rw [outcome, outcome', Except.ok.injEq, Prod.mk.injEq] at same
  have lengths := congrArg List.length two
  rw [same.2, one_, List.length_map, List.length_map, counted.1, counted.2] at lengths
  cases lengths

end SynapseOS.Security
