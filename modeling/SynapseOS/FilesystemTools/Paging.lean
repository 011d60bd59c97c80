import SynapseOS.Execution.AsciiJson
import SynapseOS.FilesystemTools.Reading

/-! A file that is read page by page: when its text comes back. -/

namespace SynapseOS.FilesystemTools

open Execution Tools LinkedTree Containment

open Workspaces (Raised asPosix pathParts)

section Texts

variable (text : PyStr)

theorem keepLines_nil (line : PyStr) :
    keepLinesFrom line [] = if line = [] then [] else [line] := rfl

theorem keepLines_single (line : PyStr) (point : Nat) :
    keepLinesFrom line [point] = [line ++ [point]] := rfl

theorem keepLines_pair (line rest : PyStr) : keepLinesFrom line (0x0D :: 0x0A :: rest) =
    (line ++ [0x0D, 0x0A]) :: keepLinesFrom [] rest := rfl

theorem keepLines_cons {point next : Nat} (alone : point = 0x0D → next = 0x0A → False)
    (line rest : PyStr) : keepLinesFrom line (point :: next :: rest) =
      if lineEnd point = true then (line ++ [point]) :: keepLinesFrom [] (next :: rest)
      else keepLinesFrom (line ++ [point]) (next :: rest) := by
  rw [keepLinesFrom]
  exact alone

theorem keepLines_flatten (line : PyStr) : (keepLinesFrom line text).flatten = line ++ text := by
  induction line, text using keepLinesFrom.induct with
  | case1 => rfl
  | case2 line some_ => simp [keepLines_nil, some_]
  | case3 line point => simp [keepLines_single]
  | case4 line rest ih => simp [keepLines_pair, ih]
  | case5 line point next rest alone ends ih =>
      rw [keepLines_cons alone, if_pos ends, List.flatten_cons, ih]
      simp
  | case6 line point next rest alone inner ih =>
      rw [keepLines_cons alone, if_neg inner, ih]
      simp

theorem keepLines_count (line : PyStr) : (keepLinesFrom line text).length ≤ line.length +
    text.length := by
  induction line, text using keepLinesFrom.induct with
  | case1 => simp [keepLines_nil]
  | case2 line some_ =>
      have positive : 0 < line.length := List.length_pos_of_ne_nil some_
      simp only [keepLines_nil, if_neg some_, List.length_singleton]
      omega
  | case3 line point => simp [keepLines_single]
  | case4 line rest ih =>
      simp only [keepLines_pair, List.length_cons, List.length_nil] at ih ⊢
      omega
  | case5 line point next rest alone ends ih =>
      rw [keepLines_cons alone, if_pos ends]
      simp only [List.length_cons, List.length_nil] at ih ⊢
      omega
  | case6 line point next rest alone inner ih =>
      rw [keepLines_cons alone, if_neg inner]
      simp only [List.length_cons, List.length_append, List.length_nil] at ih ⊢
      omega

theorem wholeWithin_cons (room point : Nat) (rest : PyStr) : wholeWithin room (point :: rest) =
    if utf8Width point ≤ room then point :: wholeWithin (room - utf8Width point) rest else [] := rfl

theorem wholeWithin_front (room : Nat) : wholeWithin room text <+: text := by
  induction text generalizing room with
  | nil => exact List.prefix_refl _
  | cons point rest ih =>
      rw [wholeWithin_cons]
      split
      · exact (List.prefix_cons_inj point).mpr (ih _)
      · exact List.nil_prefix

theorem wholeWithin_bytes (room : Nat) : byteLength (wholeWithin room text) ≤ room := by
  induction text generalizing room with
  | nil => exact Nat.zero_le _
  | cons point rest ih =>
      rw [wholeWithin_cons]
      split
      · next fits =>
          have below := ih (room - utf8Width point)
          rw [byteLength_cons]
          omega
      · exact Nat.zero_le _

theorem wholeWithin_eq {room : Nat} : wholeWithin room text = text ↔ byteLength text ≤ room := by
  constructor
  · intro same
    rw [← same]
    exact wholeWithin_bytes text room
  · intro fits
    induction text generalizing room with
    | nil => rfl
    | cons point rest ih =>
        rw [byteLength_cons] at fits
        rw [wholeWithin_cons, if_pos (by omega), ih (by omega)]

variable {text}

theorem boundedUtf8_ok (valid : text.any surrogate = false) (limit : Nat) :
    boundedUtf8 text limit = .ok (wholeWithin limit text, decide (limit < byteLength text)) := by
  rw [boundedUtf8, encodedLength_ok valid]
  dsimp only
  split
  · next fits => rw [(wholeWithin_eq text).mpr fits, decide_eq_false (not_lt.mpr fits)]
  · next long => rw [decide_eq_true (not_le.mp long)]

theorem decodeUtf8_ok {data : List UInt8} (decoded : decodeUtf8 data = .ok text) :
    ∃ chars : List Char, data = Utf8.encode chars ∧ text = chars.map Char.toNat := by
  unfold decodeUtf8 at decoded
  split at decoded
  · next string read =>
      cases decoded
      exact ⟨string.toList, Utf8.encode_of_fromUTF8 read, rfl⟩
  · cases decoded

theorem decodeUtf8_encode (chars : List Char) :
    decodeUtf8 (Utf8.encode chars) = .ok (chars.map Char.toNat) := by
  rw [decodeUtf8, Utf8.fromUTF8_encode]
  exact congrArg Except.ok (PyStr.ofString_ofList chars)

theorem decodeUtf8_length {data : List UInt8} (decoded : decodeUtf8 data = .ok text) :
    text.length ≤ data.length := by
  obtain ⟨chars, rfl, rfl⟩ := decodeUtf8_ok decoded
  rw [List.length_map]
  induction chars with
  | nil => exact Nat.zero_le _
  | cons char rest ih =>
      have some_ : 0 < (String.utf8EncodeChar char).length := by
        rw [String.length_utf8EncodeChar]
        exact Char.utf8Size_pos char
      rw [Utf8.encode_cons, List.length_append, List.length_cons]
      have shorter := ih (decodeUtf8_encode rest)
      omega

theorem surrogate_char (char : Char) : surrogate char.toNat = false := by
  have valid := char.valid
  apply decide_eq_false
  rcases valid with low | ⟨high, _⟩
  · have small : char.toNat < 0xD800 := low
    omega
  · have large : 0xDFFF < char.toNat := high
    omega

theorem decodeUtf8_valid {data : List UInt8} (decoded : decodeUtf8 data = .ok text) :
    text.any surrogate = false := by
  obtain ⟨chars, _, rfl⟩ := decodeUtf8_ok decoded
  rw [List.any_eq_false]
  intro point member
  obtain ⟨char, _, rfl⟩ := List.mem_map.mp member
  rw [surrogate_char]
  exact Bool.false_ne_true

end Texts

section Bytes

theorem readChunks_eq (remaining : Nat) (rest : List UInt8) :
    readChunks remaining rest = rest.take remaining := by
  induction remaining, rest using readChunks.induct with
  | case1 remaining rest chunk done =>
      rw [readChunks, if_pos done]
      rcases List.take_eq_nil_iff.mp done with none_ | rfl
      · have zero : remaining = 0 := by omega
        rw [zero, List.take_zero]
      · rw [List.take_nil]
  | case2 remaining rest chunk some_ ih =>
      have size : chunk.length = min (min 65536 remaining) rest.length := List.length_take
      have own : chunk = rest.take chunk.length := by
        rw [size, ← List.take_take, List.take_length]
      have rest_ : chunk.length + (remaining - chunk.length) = remaining := by omega
      calc
        readChunks remaining rest = chunk ++ readChunks
          (remaining - chunk.length) (rest.drop chunk.length) := by
          rw [readChunks, if_neg some_]
        _ = rest.take chunk.length ++ (rest.drop chunk.length).take (remaining - chunk.length) := by
          rw [ih, ← own]
        _ = rest.take remaining := by rw [← List.take_add, rest_]

variable {ws : Workspace} {path : HostPath} (file : ws.tree.stands path = .ok .file)

include file

theorem readRegularBytes_ok (readable : ws.readRefuses path = false)
    (small : (ws.bytes path).length ≤ maxFileBytes) :
    readRegularBytes ws path = .ok (ws.bytes path) := by
  have whole : readChunks (maxFileBytes + 1) (ws.bytes path) = ws.bytes path := by
    rw [readChunks_eq, List.take_of_length_le (by omega)]
  rw [readRegularBytes, file]
  dsimp only
  rw [readable, if_neg Bool.false_ne_true, if_neg (not_lt.mpr small), whole,
    if_neg (not_lt.mpr small)]

end Bytes

section Places

variable {ws : Workspace} {path : PyStr} {place : HostPath} {kind : Workspaces.ExpectedPathKind}

theorem canonicalRoot_root {root : HostPath}
    (run : canonicalRoot ws.tree ws.depth (ws.root.map .into) = .ok root) : root = ws.root := by
  rcases bind_ok run with ⟨found, resolves, run⟩
  rcases bind_ok run with ⟨there, _, run⟩
  split at run
  · cases run
    have whole : ws.root.map Step.into = (ws.root ++ []).map .into := by rw [List.append_nil]
    rw [whole] at resolves
    exact ((Reached.all ws.canonical).resolved (orViolation_ok resolves)).trans (List.append_nil _)
  · cases run

theorem resolvePath_ok (run : resolvePath ws path kind = .ok place) :
    place = ws.root ++ pathParts path ∧ ws.tree.Direct place ∧
      canonicalRoot ws.tree ws.depth (ws.root.map .into) = .ok ws.root ∧
      relativePath ws place = .ok (asPosix (pathParts path)) ∧
      ∃ item, ws.tree.stands place = .ok item ∧ fits kind item = true := by
  unfold resolvePath resolveWorkspacePath at run
  split at run
  · cases run
  split at run
  · cases run
  rcases resolveParts_ok (plain_parts path) run with ⟨root, canonical, reached, contained⟩
  cases canonicalRoot_root canonical
  have inside := contained.inside
  subst inside
  obtain ⟨item, there⟩ := contained.present rfl
  have direct : ws.tree.Direct (ws.root ++ pathParts path) := by
    rcases reached.stat_cases with direct | missing
    · exact direct
    · cases missing.symm.trans there
  have suits := contained.fitting item there
  rw [stat_direct direct] at there
  exact ⟨rfl, direct, canonical, relative_reached canonical reached, item, there, suits⟩

end Places

section Pages

def window (text : PyStr) (start count : Nat) : List PyStr :=
  ((keepLines text).drop (start - 1)).take count

def linesBetween (text : PyStr) (first last : Nat) : PyStr :=
  (window text first (last + 1 - first)).flatten

def ReadFileInput.after (input : ReadFileInput) (line : Nat) : ReadFileInput :=
  { input with startLine := line + 1, start_bounds := by omega }

/-- The pages of a reader who asks for what is behind the last line until nothing is truncated. -/
inductive Paging (ws : Workspace) : ReadFileInput → List ReadFileOutput → Prop
  | last {input : ReadFileInput} {page : ReadFileOutput} (made : readFile ws input = .ok page)
      (whole : page.truncated = false) : Paging ws input [page]
  | more {input : ReadFileInput} {page : ReadFileOutput} {pages : List ReadFileOutput}
      (made : readFile ws input = .ok page) (cut : page.truncated = true)
      (rest : Paging ws (input.after page.endLine) pages) : Paging ws input (page :: pages)

def pageOf (path text : PyStr) (start count : Nat) : ReadFileOutput where
  path := path
  content := wholeWithin maxReadOutputBytes (window text start count).flatten
  startLine := start
  endLine := if window text start count = [] then 0 else start + (window text start count).length -
    1
  totalLines := (keepLines text).length
  truncated := decide (maxReadOutputBytes < byteLength (window text start count).flatten) ||
    decide ((window text start count).length < (keepLines text).length - (start - 1))

/-- The lines of the window have at most the bytes that are returned. -/
def Fits (text : PyStr) (count start : Nat) : Prop :=
  byteLength (window text start count).flatten ≤ maxReadOutputBytes

variable {ws : Workspace} {input : ReadFileInput} {place : HostPath} {text : PyStr}

theorem window_valid (valid : text.any surrogate = false) (start count : Nat) :
    (window text start count).flatten.any surrogate = false := by
  rw [List.any_eq_false] at valid ⊢
  intro point member
  obtain ⟨line, inside, among⟩ := List.mem_flatten.mp member
  have whole : (keepLines text).flatten = text := keepLines_flatten text []
  apply valid
  rw [← whole]
  exact List.mem_flatten.mpr ⟨line, List.mem_of_mem_drop (List.mem_of_mem_take inside), among⟩

theorem readFile_page (input : ReadFileInput)
    (resolved : resolvePath ws input.path .file = .ok place)
    (read : readText ws place = .ok text) :
    readFile ws input =
      .ok (pageOf (asPosix (pathParts input.path)) text input.startLine input.maxLines) := by
  have relative := (resolvePath_ok resolved).2.2.2.1
  obtain ⟨data, _, decoded⟩ := bind_ok read
  have bounded :=
    boundedUtf8_ok (window_valid (decodeUtf8_valid decoded) input.startLine input.maxLines)
    maxReadOutputBytes
  unfold window at bounded
  simp only [readFile, bind, Except.bind, resolved, read, bounded, relative]
  rfl

theorem window_length (text : PyStr) (start count : Nat) :
    (window text start count).length = min count ((keepLines text).length - (start - 1)) := by
  rw [window, List.length_take, List.length_drop]

theorem pageOf_exact (path text : PyStr) {start : Nat} (positive : 1 ≤ start) (count : Nat) :
    (pageOf path text start count).content =
        linesBetween text (pageOf path text start count).startLine
          (pageOf path text start count).endLine ↔
      Fits text count start := by
  have lines : linesBetween text start (pageOf path text start count).endLine =
      (window text start count).flatten := by
    show (window text start ((if window text start count = [] then 0
      else start + (window text start count).length - 1) + 1 - start)).flatten = _
    congr 1
    by_cases none_ : window text start count = []
    · rw [if_pos none_, none_, Nat.zero_add, Nat.sub_eq_zero_of_le positive]
      exact List.take_zero
    · have some_ : 0 < (window text start count).length := List.length_pos_of_ne_nil none_
      rw [if_neg none_]
      have amount : start + (window text start count).length - 1 + 1 - start =
          min count ((keepLines text).length - (start - 1)) := by
        rw [← window_length text]
        omega
      rw [amount, window, window, ← List.length_drop, ← List.take_take, List.take_length]
  show wholeWithin maxReadOutputBytes (window text start count).flatten =
    linesBetween text start _ ↔ _
  rw [lines]
  exact wholeWithin_eq _

theorem parts_equal {a b c d : PyStr} (first : a <+: c) (second : b.length ≤ d.length) :
    a ++ b = c ++ d ↔ a = c ∧ b = d := by
  constructor
  · intro same
    have lengths := congrArg List.length same
    rw [List.length_append, List.length_append] at lengths
    have shorter := first.length_le
    have whole : a = c := first.eq_of_length (by omega)
    subst whole
    exact ⟨rfl, List.append_cancel_left same⟩
  · rintro ⟨rfl, rfl⟩
    rfl

def textFrom (text : PyStr) (start : Nat) : PyStr := ((keepLines text).drop (start - 1)).flatten

theorem fits_behind {start count : Nat} (behind : (keepLines text).length ≤ start - 1) :
    Fits text count start := by
  have empty : window text start count = [] := by
    rw [window, List.drop_eq_nil_of_le behind, List.take_nil]
  rw [Fits, empty]
  exact Nat.zero_le _

theorem window_rest (text : PyStr) (start count : Nat) :
    textFrom text start = (window text start count).flatten ++
    textFrom text (start - 1 + (window text start count).length + 1) := by
  have behind : ((keepLines text).drop (start - 1)).drop (window text start count).length =
      ((keepLines text).drop (start - 1)).drop count := by
    rw [window, List.length_take]
    rcases le_total count ((keepLines text).drop (start - 1)).length with fits | short
    · rw [min_eq_left fits]
    · rw [min_eq_right short, List.drop_length, List.drop_eq_nil_of_le short]
  rw [textFrom, textFrom, Nat.add_sub_cancel, ← List.drop_drop, behind,
    window, ← List.flatten_append, List.take_append_drop]

/-- The windows behind a page are those behind its last line. -/
theorem windows_behind {start count : Nat} (positive : 1 ≤ start) :
    (∀ k, Fits text count (start + (window text start count).length + k * count)) ↔
      ∀ k, Fits text count (start + count + k * count) := by
  have size := window_length text start count
  rcases le_total count ((keepLines text).length - (start - 1)) with full | short
  · rw [size, min_eq_left full]
  · have first (k : Nat) : Fits text count (start + (window text start count).length + k * count) :=
      fits_behind (by rw [size, min_eq_right short]; omega)
    have second (k : Nat) : Fits text count (start + count + k * count) := fits_behind (by omega)
    exact iff_of_true first second

/-- What is read from a line on: the pages come to an end, and they are the text of their lines, or
hold exactly their lines, if and only if all windows fit. -/
structure Reads (ws : Workspace) (input : ReadFileInput) (text : PyStr) (start : Nat)
    (pages : List ReadFileOutput) : Prop where
  paging : Paging ws (input.after (start - 1)) pages
  length : (pages.flatMap ReadFileOutput.content).length ≤ (textFrom text start).length
  whole : pages.flatMap ReadFileOutput.content = textFrom text start ↔
    ∀ k, Fits text input.maxLines (start + k * input.maxLines)
  exact_ : (∀ page ∈ pages, page.content = linesBetween text page.startLine page.endLine) ↔
    ∀ k, Fits text input.maxLines (start + k * input.maxLines)

theorem forall_windows {count start : Nat} : (∀ k, Fits text count (start + k * count)) ↔
    Fits text count start ∧ ∀ k, Fits text count (start + count + k * count) := by
  have shift (k : Nat) : start + (k + 1) * count = start + count + k * count := by ring
  constructor
  · intro every
    refine ⟨by simpa using every 0, fun k => ?_⟩
    rw [← shift]
    exact every (k + 1)
  · rintro ⟨first, rest⟩ (_ | k)
    · simpa using first
    · rw [shift]
      exact rest k

section Step

variable {path : PyStr} {start : Nat} (positive : 1 ≤ start)
  (page : readFile ws (input.after (start - 1)) = .ok (pageOf path text start input.maxLines))

include positive page

theorem reads_last (whole : (pageOf path text start input.maxLines).truncated = false) :
    Reads ws input text start [pageOf path text start input.maxLines] := by
  obtain ⟨fits, last⟩ := Bool.or_eq_false_iff.mp whole
  have first : Fits text input.maxLines start := not_lt.mp (of_decide_eq_false fits)
  have ends := of_decide_eq_false last
  have size := window_length text start input.maxLines
  have every : ∀ k, Fits text input.maxLines (start + k * input.maxLines) := by
    rw [forall_windows]
    exact ⟨first, fun k => fits_behind (by omega)⟩
  have split := window_rest text start input.maxLines
  have empty : textFrom text (start - 1 + (window text start input.maxLines).length + 1) = [] := by
    rw [textFrom, List.drop_eq_nil_of_le (by omega)]
    rfl
  have kept :
      (pageOf path text start input.maxLines).content =
        (window text start input.maxLines).flatten :=
    (wholeWithin_eq _).mpr first
  rw [empty, List.append_nil, ← kept] at split
  constructor
  · exact .last page whole
  · rw [List.flatMap_singleton, split]
  · rw [List.flatMap_singleton, split]
    exact iff_of_true rfl every
  · rw [List.forall_mem_singleton]
    exact iff_of_true ((pageOf_exact path text positive _).mpr first) every

omit positive page in
theorem window_some (cut : (pageOf path text start input.maxLines).truncated = true) :
    window text start input.maxLines ≠ [] := by
  intro none_
  have size := window_length text start input.maxLines
  have some_ := input.lines_bounds.1
  have nothing : byteLength (window text start input.maxLines).flatten = 0 := by
    rw [none_]
    rfl
  rcases Bool.or_eq_true_iff.mp cut with long | further
  · have bytes := of_decide_eq_true long
    omega
  · have available := of_decide_eq_true further
    rw [none_] at available size
    simp only [List.length_nil] at available size
    omega

/-- Behind a page that is truncated the reader goes on at its last line. -/
theorem reads_more (cut : (pageOf path text start input.maxLines).truncated = true)
    {pages : List ReadFileOutput}
    (rest : Reads ws input text (start + (window text start input.maxLines).length) pages) :
    Reads ws input text start (pageOf path text start input.maxLines :: pages) := by
  have some_ := window_some cut
  have size : 0 < (window text start input.maxLines).length := List.length_pos_of_ne_nil some_
  have next : start - 1 + (window text start input.maxLines).length + 1 =
    start + (window text start input.maxLines).length := by omega
  have last : (pageOf path text start input.maxLines).endLine =
      start + (window text start input.maxLines).length - 1 := if_neg some_
  have paging := rest.paging
  rw [← last] at paging
  have split := window_rest text start input.maxLines
  rw [next] at split
  have kept : (pageOf path text start input.maxLines).content <+:
      (window text start input.maxLines).flatten :=
    wholeWithin_front _ _
  have conditions : (∀ k, Fits text input.maxLines (start + k * input.maxLines)) ↔
      Fits text input.maxLines start ∧ ∀ k, Fits text input.maxLines
        (start + (window text start input.maxLines).length + k * input.maxLines) := by
    rw [forall_windows, windows_behind positive]
  constructor
  · exact .more page cut paging
  · rw [List.flatMap_cons, split, List.length_append, List.length_append]
    exact Nat.add_le_add kept.length_le rest.length
  · rw [List.flatMap_cons, split, parts_equal kept rest.length, rest.whole, conditions]
    exact and_congr_left fun _ => wholeWithin_eq _
  · rw [List.forall_mem_cons, pageOf_exact path text positive, rest.exact_, conditions]

end Step

theorem reads_from (input : ReadFileInput) (resolved : resolvePath ws input.path .file = .ok place)
    (read : readText ws place = .ok text) {start : Nat} (positive : 1 ≤ start) :
    ∃ pages, Reads ws input text start pages := by
  induction left : (keepLines text).length + 1 - start using Nat.strong_induction_on
    generalizing start with
  | _ left ih =>
      have line : (input.after (start - 1)).startLine = start := Nat.sub_add_cancel positive
      have page := readFile_page (input.after (start - 1)) resolved read
      rw [line] at page
      cases cut : (pageOf (asPosix (pathParts input.path)) text start input.maxLines).truncated with
      | false => exact ⟨_, reads_last positive page cut⟩
      | true =>
          have size := window_length text start input.maxLines
          have some_ : 0 < (window text start input.maxLines).length :=
            List.length_pos_of_ne_nil (window_some cut)
          have further : 1 ≤ start + (window text start input.maxLines).length := by omega
          obtain ⟨pages, rest⟩ := ih _ (by omega) further rfl
          exact ⟨_, reads_more positive page cut rest⟩

theorem paging_unique {pages others : List ReadFileOutput} (paging : Paging ws input pages)
    (again : Paging ws input others) : others = pages := by
  induction paging generalizing others with
  | last made whole =>
      cases again with
      | last other _ =>
          cases made.symm.trans other
          rfl
      | more other cut _ =>
          cases made.symm.trans other
          exact absurd (cut.symm.trans whole) (by decide)
  | more made cut _ ih =>
      cases again with
      | last other whole =>
          cases made.symm.trans other
          exact absurd (cut.symm.trans whole) (by decide)
      | more other _ rest =>
          cases made.symm.trans other
          rw [ih rest]

/-- The pages come to an end, are the text together, and are exactly their lines. -/
def Lossless (ws : Workspace) (input : ReadFileInput) (text : PyStr) : Prop :=
  ∃ pages, Paging ws (input.after 0) pages ∧ pages.flatMap ReadFileOutput.content = text ∧
    ∀ page ∈ pages, page.content = linesBetween text page.startLine page.endLine

theorem reads_lossless {pages : List ReadFileOutput} (reads : Reads ws input text 1 pages) :
    Lossless ws input text ↔ ∀ k, Fits text input.maxLines (1 + k * input.maxLines) := by
  have whole : textFrom text 1 = text := keepLines_flatten text []
  constructor
  · rintro ⟨others, paging, _, exactly⟩
    cases paging_unique reads.paging paging
    exact reads.exact_.mp exactly
  · intro fits
    exact ⟨pages, reads.paging, (reads.whole.mpr fits).trans whole, reads.exact_.mpr fits⟩

/-- Reading page by page ends. It returns the text, in pages that are exactly their lines, if and
only if no page is asked for lines of more bytes than the limit; and so is a single page. -/
theorem paging_exact (ws : Workspace) (input : ReadFileInput) {place : HostPath} {text : PyStr}
    (resolved : resolvePath ws input.path .file = .ok place) (read : readText ws place = .ok text) :
    (∃ pages, Paging ws (input.after 0) pages) ∧
      (Lossless ws input text ↔ ∀ k, Fits text input.maxLines (1 + k * input.maxLines)) ∧
      ∃ page, readFile ws input = .ok page ∧
        (page.content = linesBetween text page.startLine page.endLine ↔
          Fits text input.maxLines input.startLine) := by
  obtain ⟨pages, reads⟩ := reads_from input resolved read le_rfl
  exact ⟨⟨pages, reads.paging⟩, reads_lossless reads, _, readFile_page input resolved read,
    pageOf_exact _ text input.start_bounds _⟩

end Pages

section Sample

def sampleFiles : List (PyStr × Item PyStr) := [([0x66], .file), ([0x67], .file)]

def sampleTree : HostTree where
  top := [([0x77], .directory sampleFiles)]
  refuses := fun _ => false

theorem sampleTree_directory {path : HostPath} {entries : List (PyStr × Item PyStr)}
    (there : sampleTree.stands path = .ok (.directory entries)) :
    entries = [([0x77], .directory sampleFiles)] ∨ entries = sampleFiles := by
  rcases path with _ | ⟨first, rest⟩
  · cases there
    exact .inl rfl
  right
  unfold LinkedTree.stands standing sampleTree Assoc.get at there
  by_cases own : [0x77] = first
  · rw [if_pos own] at there
    rcases rest with _ | ⟨second, rest⟩
    · cases there
      rfl
    · dsimp only at there
      unfold standing sampleFiles Assoc.get Assoc.get at there
      by_cases inner : [0x66] = second
      · rw [if_pos inner] at there
        cases rest <;> cases there
      · by_cases other : [0x67] = second
        · rw [if_neg inner, if_pos other] at there
          cases rest <;> cases there
        · rw [if_neg inner, if_neg other] at there
          cases there
  · rw [if_neg own] at there
    cases there

def sampleWorkspace (chars : List Char) : Workspace where
  tree := sampleTree
  depth := 0
  root := [[0x77]]
  bytes := fun _ => Utf8.encode chars
  readRefuses := fun _ => false
  scanRefuses := fun _ => false
  kindRefuses := fun _ => false
  searched := nofun
  canonical := .down .top rfl nofun
  unique := by
    intro path entries there
    rcases sampleTree_directory there with rfl | rfl <;> decide
  plain := by
    intro path entries there
    rcases sampleTree_directory there with rfl | rfl
    · unfold Plain
      decide
    · unfold Plain
      decide

variable (chars : List Char)

theorem file_short : 1 ≤ ([0x66] : PyStr).length ∧ ([0x66] : PyStr).length ≤ 4096 := by decide

theorem file_valid : ([0x66] : PyStr).any surrogate = false := by decide

theorem first_line : 1 ≤ 1 := le_rfl

def sampleRequest (maxLines : Nat) (bounds : 1 ≤ maxLines ∧ maxLines ≤ 2000) : ReadFileInput where
  path := [0x66]
  startLine := 1
  maxLines := maxLines
  path_bounds := file_short
  path_valid := file_valid
  start_bounds := first_line
  lines_bounds := bounds

theorem sample_resolved : resolvePath (sampleWorkspace chars) [0x66] .file = .ok [[0x77], [0x66]] :=
  rfl

theorem sample_read (small : (Utf8.encode chars).length ≤ maxFileBytes) :
    readText (sampleWorkspace chars) [[0x77], [0x66]] = .ok (chars.map Char.toNat) := by
  have bytes : readRegularBytes (sampleWorkspace chars) [[0x77], [0x66]] =
      .ok (Utf8.encode chars) :=
    readRegularBytes_ok rfl rfl small
  rw [readText, bytes]
  show decodeUtf8 (Utf8.encode chars) = _
  exact decodeUtf8_encode chars

theorem fits_small {text : PyStr} (small : byteLength text ≤ maxReadOutputBytes)
    (count start : Nat) : Fits text count start := by
  have part : (window text start count).flatten.Sublist text := by
    have lines :=
      ((List.take_sublist count _).trans (List.drop_sublist (start - 1) (keepLines text))).flatten
    have whole : (keepLines text).flatten = text := keepLines_flatten text []
    rwa [whole] at lines
  exact ((part.map _).sum_le_sum fun _ _ => Nat.zero_le _).trans small

def threeLines : List Char := ['a', '\n', 'b', '\n', 'c']

def threePoints : PyStr := [0x61, 0x0A, 0x62, 0x0A, 0x63]

/-- The file is read in two pages, and the first one holds two lines. -/
theorem paging_exact_sample : Lossless (sampleWorkspace threeLines)
    (sampleRequest 2 (by decide)) threePoints ∧
    ∃ page, readFile (sampleWorkspace threeLines) (sampleRequest 2 (by decide)) = .ok page ∧
      page.content = linesBetween threePoints page.startLine page.endLine := by
  have fits : ∀ start, Fits threePoints 2 start := fits_small (by decide) 2
  obtain ⟨_, lossless, page, made, shown⟩ := paging_exact (sampleWorkspace threeLines)
    (sampleRequest 2 (by decide)) (sample_resolved _) (sample_read _ (by decide))
  exact ⟨lossless.mpr fun _ => fits _, page, made, shown.mpr (fits _)⟩

def longText (count : Nat) : List Char := List.replicate count 'a' ++ ['\n', 'b']

def longPoints (count : Nat) : PyStr := List.replicate count 0x61 ++ [0x0A, 0x62]

section Long

variable (count : Nat)

theorem longText_points : (longText count).map Char.toNat = longPoints count := by
  rw [longText, List.map_append, List.map_replicate]
  rfl

theorem longText_bytes : (Utf8.encode (longText count)).length = count + 2 := by
  rw [longText, Utf8.encode_append, List.length_append]
  congr 1
  induction count with
  | zero => rfl
  | succ count ih =>
      rw [List.replicate_succ, Utf8.encode_cons, List.length_append, ih]
      exact Nat.add_comm 1 count

theorem keepLinesFrom_run {point : Nat} (inner : lineEnd point = false) (count : Nat) (line : PyStr)
    {rest : PyStr} (some_ : rest ≠ []) : keepLinesFrom line (List.replicate count point ++ rest) =
      keepLinesFrom (line ++ List.replicate count point) rest := by
  induction count generalizing line with
  | zero => simp
  | succ count ih =>
      obtain ⟨next, more, same⟩ := List.exists_cons_of_ne_nil
        (List.append_ne_nil_of_right_ne_nil (List.replicate count point) some_)
      have onward := ih (line ++ [point])
      rw [same] at onward
      have alone : point = 0x0D → next = 0x0A → False := by
        rintro rfl
        cases inner
      rw [List.replicate_succ, List.cons_append, same, keepLines_cons alone,
        if_neg (by rw [inner]; exact Bool.false_ne_true), onward, List.append_assoc,
        List.singleton_append]

theorem longPoints_lines :
    keepLines (longPoints count) = [List.replicate count 0x61 ++ [0x0A], [0x62]] := by
  rw [keepLines, longPoints, keepLinesFrom_run rfl count [] (List.cons_ne_nil _ _), List.nil_append]
  rfl

theorem longPoints_window : (window (longPoints count) 1 2000).flatten = longPoints count := by
  rw [window, longPoints_lines, longPoints]
  simp

theorem longPoints_bytes : byteLength (longPoints count) = count + 2 := by
  rw [byteLength, longPoints, List.map_append, List.map_replicate, List.sum_append,
    List.sum_replicate]
  exact congrArg (· + 2) (Nat.mul_one count)

end Long

/-- The second line of such a file is on the first page by its number and on no page by its
content. -/
theorem paging_loses_line : ¬ ∀ (ws : Workspace) (input : ReadFileInput) (place : HostPath)
    (text : PyStr),
    resolvePath ws input.path .file = .ok place → readText ws place = .ok text →
    Lossless ws input text := by
  intro claimed
  have small : (Utf8.encode (longText 262143)).length ≤ maxFileBytes := by
    rw [longText_bytes]
    decide
  have read := sample_read (longText 262143) small
  rw [longText_points] at read
  obtain ⟨pages, reads⟩ :=
    reads_from (sampleRequest 2000 (by decide)) (sample_resolved _) read le_rfl
  have fits := (reads_lossless reads).mp
    (claimed _ (sampleRequest 2000 (by decide)) _ _ (sample_resolved _) read) 0
  have bytes : byteLength (window (longPoints 262143) 1 2000).flatten ≤ maxReadOutputBytes := fits
  rw [longPoints_window, longPoints_bytes] at bytes
  exact absurd bytes (by decide)

end Sample

end SynapseOS.FilesystemTools
