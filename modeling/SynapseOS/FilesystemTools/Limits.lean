import SynapseOS.Core.Lines
import SynapseOS.Execution.OutputJson
import SynapseOS.Execution.Sample
import SynapseOS.FilesystemTools.Completeness

/-! The outputs of the reading tools beside the limit of a tool result. -/

namespace SynapseOS.FilesystemTools

open Execution Tools LinkedTree Containment

open Workspaces (Raised asPosix pathParts)

section Outputs

def ReadFileOutput.dict (out : ReadFileOutput) : OutputDict :=
  [(.ofString "path", .flat (.text out.path)), (.ofString "content", .flat (.text out.content)),
    (.ofString "start_line", .flat (.number out.startLine)),
    (.ofString "end_line", .flat (.number out.endLine)),
    (.ofString "total_lines", .flat (.number out.totalLines)),
    (.ofString "truncated", .flag out.truncated)]

def ListFilesOutput.dict (out : ListFilesOutput) : OutputDict :=
  [(.ofString "path", .flat (.text out.path)),
    (.ofString "entries", .items (out.entries.map ListedEntry.fields)),
    (.ofString "truncated", .flag out.truncated)]

def SearchTextOutput.dict (out : SearchTextOutput) : OutputDict :=
  [(.ofString "query", .flat (.text out.query)),
    (.ofString "matches", .items (out.found.map TextMatch.fields)),
    (.ofString "truncated", .flag out.truncated)]

end Outputs

section Escapes

def longEscape (point : Nat) : Bool := !shortEscape point && decide (point < 0x20)

def escapedBytes (text : PyStr) : Nat := byteLength text + text.countP shortEscape + 5 *
    text.countP longEscape

theorem short_narrow {point : Nat} (short : shortEscape point = true) : utf8Width point = 1 := by
  unfold shortEscape at short
  simp only [List.contains_iff_mem, List.mem_cons, List.not_mem_nil, or_false] at short
  rcases short with rfl | rfl | rfl | rfl | rfl | rfl | rfl <;> rfl

theorem quote_escaped (text : PyStr) : byteLength (quote text) = 2 + escapedBytes text := by
  have inner : (text.map escapedWidth).sum = escapedBytes text := by
    induction text with
    | nil => rfl
    | cons point rest ih =>
        rw [List.map_cons, List.sum_cons, ih, escapedWidth_eq, escapedBytes, escapedBytes,
          byteLength_cons, List.countP_cons, List.countP_cons, longEscape]
        by_cases short : shortEscape point = true
        · rw [if_pos short, if_pos short, short_narrow short, short, if_neg (by simp)]
          omega
        · rw [if_neg short, if_neg short, Bool.eq_false_iff.mpr short]
          by_cases control : point < 0x20
          · have narrow : utf8Width point = 1 := if_pos (by omega)
            rw [if_pos control, if_pos (by simpa using control), narrow]
            omega
          · rw [if_neg control, if_neg (by simpa using control)]
            omega
  rw [quote_bytes, inner]

theorem escapedBytes_double {text : PyStr} (plain : ∀ point ∈ text, longEscape point = false) :
    escapedBytes text ≤ 2 * byteLength text := by
  induction text with
  | nil => exact Nat.le_refl 0
  | cons point rest ih =>
      have later := ih fun other member => plain other (List.mem_cons_of_mem _ member)
      have own := plain point List.mem_cons_self
      rw [escapedBytes] at later ⊢
      rw [byteLength_cons, List.countP_cons, List.countP_cons, own, if_neg Bool.false_ne_true]
      split
      · next short =>
          rw [short_narrow short]
          omega
      · omega

end Escapes

section Places

variable {text : PyStr}

theorem asPosix_valid (valid : text.any surrogate = false) :
    (asPosix (pathParts text)).any surrogate = false := by
  rw [List.any_eq_false] at valid ⊢
  intro point among
  rcases asPosix_points among with rfl | rfl | inside
  · decide
  · decide
  · exact valid point inside

theorem asPosix_length (text : PyStr) : (asPosix (pathParts text)).length ≤ max 1 text.length := by
  unfold asPosix
  split
  · exact le_max_left _ _
  · have whole : ([0x2F].intercalate (text.splitOn 0x2F)).length = text.length := by
      rw [List.intercalate_splitOn]
    have fewer :
        ((pathParts text).map List.length).sum ≤ ((text.splitOn 0x2F).map List.length).sum :=
      (List.filter_sublist.map _).sum_le_sum fun _ _ => Nat.zero_le _
    have count : (pathParts text).length ≤ (text.splitOn 0x2F).length := List.length_filter_le _ _
    rw [intercalate_length] at whole ⊢
    omega

end Places

section Reads

variable {ws : Workspace} {python : Interpreter} {path : HostPath} {text : PyStr}

theorem readText_length (read : readText ws path = .ok text) : text.length ≤ maxFileBytes := by
  obtain ⟨data, bytes, decoded⟩ := bind_ok read
  have shorter := decodeUtf8_length decoded
  unfold readRegularBytes at bytes
  split at bytes
  · cases bytes
  · cases bytes
  · cases bytes
  · cases bytes
  · split at bytes
    · cases bytes
    · split at bytes
      · cases bytes
      · dsimp only at bytes
        split at bytes
        · cases bytes
        · next within =>
            cases bytes
            omega

def pageBytes (path text : PyStr) (start count : Nat) : Nat :=
  let shown := window text start count
  let last := if shown = [] then 0 else start + shown.length - 1
  let cut := maxReadOutputBytes < byteLength shown.flatten ∨
    shown.length < (keepLines text).length - (start - 1)
  78 + escapedBytes path + escapedBytes (wholeWithin maxReadOutputBytes shown.flatten) +
    (toString start).length +
    (toString last).length + (toString (keepLines text).length).length + if cut then 4 else 5

/-- The number of the first line can be written, and the page is not too large when it is. -/
def PageWithin (input : ReadFileInput) (text : PyStr) : Prop :=
  (toString input.startLine).length ≤ 4300 ∧
    pageBytes (asPosix (pathParts input.path)) text input.startLine input.maxLines ≤ 1048576

theorem number_bytes (number : Nat) :
    byteLength (.ofString (toString number)) = (toString number).length := by
  rw [digits_bytes, PyStr.ofString, List.length_map, String.length_toList]

theorem page_bytes (path text : PyStr) (start count : Nat) :
    byteLength (pageOf path text start count).dict.plainText = pageBytes path text start count := by
  have keys : byteLength (quote (.ofString "path")) = 6 ∧
      byteLength (quote (.ofString "content")) = 9 ∧
      byteLength (quote (.ofString "start_line")) = 12 ∧
      byteLength (quote (.ofString "end_line")) = 10 ∧
      byteLength (quote (.ofString "total_lines")) = 13 ∧
      byteLength (quote (.ofString "truncated")) = 11 := by
    decide
  have flag : byteLength (booleanText (pageOf path text start count).truncated) =
      if maxReadOutputBytes < byteLength (window text start count).flatten ∨
        (window text start count).length < (keepLines text).length - (start - 1) then 4 else 5 := by
    rw [pageOf, ← Bool.decide_or]
    dsimp only
    split
    · next cut =>
        rw [decide_eq_true cut]
        decide
    · next whole =>
        rw [decide_eq_false whole]
        decide
  obtain ⟨pathKey, contentKey, startKey, endKey, totalKey, flagKey⟩ := keys
  rw [output_bytes, ReadFileOutput.dict]
  simp only [List.map_cons, List.map_nil, List.sum_cons, List.sum_nil, List.length_cons,
    List.length_nil,
    OutputValue.plainText, FlatValue.plainText, quote_escaped (pageOf path text start count).path,
    quote_escaped (pageOf path text start count).content, number_bytes, flag, pathKey, contentKey,
    startKey, endKey, totalKey, flagKey]
  unfold pageBytes pageOf
  dsimp only
  omega

theorem file_number {number : Nat} (small : number ≤ maxFileBytes) :
    (toString number).length ≤ 4300 := by
  have digits : (toString number).length ≤ 7 :=
    digits_short (by decide) (small.trans_lt (by decide))
  omega

theorem window_last (lines : (keepLines text).length ≤ maxFileBytes) {start : Nat}
    (positive : 1 ≤ start) {count : Nat} :
    (if window text start count = [] then 0 else start + (window text start count).length - 1) ≤
      maxFileBytes := by
  have size := window_length text start count
  split
  · exact Nat.zero_le _
  · next some_ =>
      have shown : 0 < (window text start count).length := List.length_pos_of_ne_nil some_
      omega

/-- A page is within the limit exactly if its escapes leave it short enough. -/
theorem page_bounded (deep : 3 ≤ python.recursionLimit) {input : ReadFileInput}
    (read : readText ws path = .ok text) :
    Bounded python
      (pageOf (asPosix (pathParts input.path)) text input.startLine input.maxLines).dict.fields ↔
      PageWithin input text := by
  have small := readText_length read
  have lines : (keepLines text).length ≤ maxFileBytes :=
    (keepLines_count text []).trans (by simpa using small)
  have valid : text.any surrogate = false := by
    obtain ⟨data, _, decoded⟩ := bind_ok read
    exact decodeUtf8_valid decoded
  generalize page_ : pageOf (asPosix (pathParts input.path)) text input.startLine input.maxLines =
    page
  have bytes := page_bytes (asPosix (pathParts input.path)) text input.startLine input.maxLines
  rw [page_] at bytes
  have start : page.startLine = input.startLine := by rw [← page_]; rfl
  have last : page.endLine ≤ maxFileBytes := by
    rw [← page_]
    exact window_last lines input.start_bounds
  have total : page.totalLines ≤ maxFileBytes := by rw [← page_]; exact lines
  have whole : page.dict.broken = false := by
    have content : page.content.any surrogate = false := by
      rw [← page_, List.any_eq_false]
      have shown := window_valid valid input.startLine input.maxLines
      rw [List.any_eq_false] at shown
      exact fun point member => shown point ((wholeWithin_front _ _).subset member)
    have place : page.path.any surrogate = false := by
      rw [← page_]
      exact asPosix_valid input.path_valid
    simp only [OutputDict.broken, ReadFileOutput.dict, List.any_cons, List.any_nil,
      OutputValue.broken, FlatValue.broken, content, place, Bool.or_false]
    decide
  unfold PageWithin
  rw [← bytes]
  have numbers (short : (toString input.startLine).length ≤ 4300) : ∀ field ∈ page.dict,
      field.2.Short := by
    rw [ReadFileOutput.dict]
    simp only [List.forall_mem_cons]
    refine ⟨nofun, nofun, ?_, ?_, ?_, trivial, nofun⟩
    · rintro number ⟨⟩
      rwa [start]
    · rintro number ⟨⟩
      exact file_number last
    · rintro number ⟨⟩
      exact file_number total
  constructor
  · intro bounded
    have short : (toString input.startLine).length ≤ 4300 := by
      rw [← start]
      exact bounded_short bounded
        (List.mem_cons_of_mem _ (List.mem_cons_of_mem _ List.mem_cons_self))
    exact ⟨short, ((bounded_iff deep (numbers short)).mp bounded).2⟩
  · rintro ⟨short, within⟩
    exact (bounded_iff deep (numbers short)).mpr ⟨whole, within⟩

theorem page_plain {input : ReadFileInput} {text : PyStr} (small : text.length ≤ maxFileBytes)
    (short : (toString input.startLine).length ≤ 4300)
    (plain : ∀ point ∈ (window text input.startLine input.maxLines).flatten,
      longEscape point = false) :
    PageWithin input text := by
  have path : escapedBytes (asPosix (pathParts input.path)) ≤ 6 * 4096 := by
    have bound := quote_bound (asPosix (pathParts input.path))
    have length := asPosix_length input.path
    have bounds := input.path_bounds
    rw [quote_escaped] at bound
    omega
  have content :
    escapedBytes
      (wholeWithin maxReadOutputBytes (window text input.startLine input.maxLines).flatten) ≤
      2 * 262144 := by
    have double := escapedBytes_double fun point member =>
      plain point ((wholeWithin_front _ maxReadOutputBytes).subset member)
    have bytes :=
      wholeWithin_bytes (window text input.startLine input.maxLines).flatten maxReadOutputBytes
    have limit : maxReadOutputBytes = 262144 := rfl
    omega
  have lines : (keepLines text).length ≤ maxFileBytes :=
    (keepLines_count text []).trans (by simpa using small)
  have total := file_number lines
  have last : (toString (if window text input.startLine input.maxLines = [] then 0
      else input.startLine + (window text input.startLine input.maxLines).length - 1)).length ≤
        4300 :=
    file_number (window_last lines input.start_bounds)
  have flag (cut : Prop) [Decidable cut] : (if cut then 4 else 5) ≤ 5 := by split <;> omega
  refine ⟨short, ?_⟩
  unfold pageBytes
  dsimp only
  refine le_trans (Nat.add_le_add_left (flag _) _) ?_
  omega

end Reads

section Collections

variable {ws : Workspace} {python : Interpreter} {casefold : PyStr → PyStr}

/-- A bounded collection of items is within the limit exactly if all its items can be encoded. -/
theorem collection_bounded (deep : 3 ≤ python.recursionLimit) {first second head : PyStr}
    {dicts : List FlatDict}
    (flag : Bool) (keys : byteLength (quote first) ≤ 20 ∧ byteLength (quote second) ≤ 20)
    (valid : first.any surrogate = false ∧ second.any surrogate = false ∧
      head.any surrogate = false)
    (brief : head.length ≤ 4096) (short : ∀ dict ∈ dicts, dict.Short) (count : dicts.length ≤ 10000)
    (size : (dicts.map fun dict => dict.asciiText.length).sum ≤ maxCollectionOutputBytes) :
    Bounded python (OutputDict.fields [(first, .flat (.text head)), (second, .items dicts),
      (.ofString "truncated", .flag flag)]) ↔ ∀ dict ∈ dicts, dict.broken = false := by
  have shorts : ∀ field ∈ ([(first, .flat (.text head)), (second, .items dicts),
      (.ofString "truncated", .flag flag)] : OutputDict), field.2.Short := by
    simp only [List.forall_mem_cons]
    exact ⟨nofun, short, trivial, nofun⟩
  have broken : OutputDict.broken [(first, .flat (.text head)), (second, .items dicts),
      (.ofString "truncated", .flag flag)] = dicts.any FlatDict.broken := by
    have key : (PyStr.ofString "truncated").any surrogate = false := by decide
    simp only [OutputDict.broken, List.any_cons, List.any_nil, OutputValue.broken,
      FlatValue.broken, valid, key, Bool.false_or, Bool.or_false]
  have small :
    byteLength (OutputDict.plainText [(first, .flat (.text head)), (second, .items dicts),
      (.ofString "truncated", .flag flag)]) ≤ 1048576 := by
    have key : byteLength (quote (.ofString "truncated")) = 11 := by decide
    have text := quote_bound head
    have items := items_bytes dicts
    have mark : byteLength (booleanText flag) ≤ 5 := by cases flag <;> decide
    have limit : maxCollectionOutputBytes = 524288 := rfl
    rw [output_bytes]
    simp only [List.map_cons, List.map_nil, List.sum_cons, List.sum_nil, List.length_cons,
      List.length_nil, key, OutputValue.plainText, FlatValue.plainText] at items ⊢
    omega
  rw [bounded_iff deep shorts, broken, List.any_eq_false]
  simp only [Bool.not_eq_true, small, and_true]

def ListNamed (ws : Workspace) (input : ListFilesInput) : Prop :=
  ∀ collected limited, collectEntries ws input.recursive (targetOf ws input.path) =
    .ok (collected, limited) →
    ∀ entry ∈ (Filling.empty.fill ⟨input.maxEntries, maxCollectionOutputBytes⟩ ListedEntry.size
      (collected.map (listed ws))).items, entry.path.any surrogate = false

theorem listed_broken (entry : ListedEntry) : entry.fields.broken = entry.path.any surrogate := by
  have words : (PyStr.ofString "path").any surrogate = false ∧
      (PyStr.ofString "kind").any surrogate = false ∧
      entry.kind.value.any surrogate = false := by
    refine ⟨by decide, by decide, ?_⟩
    cases entry.kind <;> decide
  simp only [FlatDict.broken, ListedEntry.fields, List.any_cons, List.any_nil,
    FlatValue.broken, words, Bool.false_or, Bool.or_false]

theorem taken_sizes {α : Type} {budget : Budget} {fields : α → FlatDict} {items : List α}
    {filling : Filling α}
    (taken : Filling.Taken budget (fun item => (fields item).asciiText.length) items filling) :
    ((filling.items.map fields).map fun dict => dict.asciiText.length).sum ≤ budget.size := by
  have used := taken.room
  rw [taken.used] at used
  rw [List.map_map]
  exact used

theorem list_bounded (deep : 3 ≤ python.recursionLimit) {input : ListFilesInput}
    {out : ListFilesOutput}
    (run : listFiles ws input = .ok out) : Bounded python out.dict.fields ↔ ListNamed ws input := by
  obtain ⟨collected, limited, raw, collects, _, rfl⟩ := listFiles_ok run
  have taken := Filling.taken_fill ⟨input.maxEntries, maxCollectionOutputBytes⟩ ListedEntry.size
    (collected.map (listed ws))
  have brief : (asPosix (pathParts input.path)).length ≤ 4096 := by
    have length := asPosix_length input.path
    have bounds := input.path_bounds
    omega
  have count := taken.count
  have bounds := input.entries_bounds
  rw [ListFilesOutput.dict, collection_bounded deep _ (by decide)
    ⟨by decide, by decide, asPosix_valid input.path_valid⟩ brief]
  · rw [List.forall_mem_map]
    simp only [listed_broken, ListNamed, collects]
    constructor
    · rintro named found done ⟨⟩
      exact named
    · intro named
      exact named _ _ rfl
  · rw [List.forall_mem_map]
    intro entry _ field member
    simp only [ListedEntry.fields, List.mem_cons, List.not_mem_nil, or_false] at member
    rcases member with rfl | rfl <;> simp
  · rw [List.length_map]
    dsimp only at count ⊢
    omega
  · exact taken_sizes taken

def SearchNamed (ws : Workspace) (casefold : PyStr → PyStr) (input : SearchTextInput) : Prop :=
  ∀ files limited, candidates ws (targetOf ws input.path) = .ok (files, limited) →
    ∀ found ∈ (Filling.empty.fill ⟨input.maxResults, maxCollectionOutputBytes⟩ TextMatch.size
      ((files.filter (readable ws)).flatMap (matchesIn ws casefold input))).items,
        found.path.any surrogate = false

theorem matchesIn_item {input : SearchTextInput} {path : HostPath} {found : TextMatch}
    (small : (ws.bytes path).length ≤ maxFileBytes)
    (member : found ∈ matchesIn ws casefold input path) :
    found.text.any surrogate = false ∧ found.line ≤ maxFileBytes := by
  rw [matchesIn, textOf] at member
  cases decoded : decodeUtf8 (ws.bytes path) with
  | error raised =>
      rw [decoded] at member
      cases member
  | ok text =>
      rw [decoded] at member
      obtain ⟨⟨line, number⟩, among, made⟩ := List.mem_filterMap.mp member
      obtain ⟨first, last, same⟩ := List.mem_zipIdx among
      have count := splitLinesFrom_count [] text
      have length := decodeUtf8_length decoded
      dsimp only at made
      split at made
      · cases made
        constructor
        · have valid := decodeUtf8_valid decoded
          rw [List.any_eq_false] at valid ⊢
          intro point inside
          have here : line ∈ splitLines text := same ▸ List.getElem_mem _
          exact valid point (splitLinesFrom_points [] text line here (List.mem_of_mem_take inside))
        · rw [List.length_nil, Nat.zero_add] at count
          have lines : (splitLines text).length ≤ text.length := count
          dsimp only
          omega
      · cases made

theorem search_bounded (deep : 3 ≤ python.recursionLimit) {input : SearchTextInput}
    {out : SearchTextOutput}
    (run : searchText ws casefold input = .ok out) : Bounded python out.dict.fields ↔
    SearchNamed ws casefold input := by
  obtain ⟨files, limited, item, finds, _, _, rfl⟩ := searchText_ok run
  have taken := Filling.taken_fill ⟨input.maxResults, maxCollectionOutputBytes⟩ TextMatch.size
    ((files.filter (readable ws)).flatMap (matchesIn ws casefold input))
  have items :
    ∀ found ∈ (Filling.empty.fill ⟨input.maxResults, maxCollectionOutputBytes⟩ TextMatch.size
      ((files.filter (readable ws)).flatMap (matchesIn ws casefold input))).items,
      found.text.any surrogate = false ∧ found.line ≤ maxFileBytes := by
    intro found member
    obtain ⟨path, among, inside⟩ := List.mem_flatMap.mp (taken.front.subset member)
    have open_ := (List.mem_filter.mp among).2
    exact matchesIn_item (of_decide_eq_true (Bool.and_eq_true_iff.mp open_).2) inside
  have words : (PyStr.ofString "path").any surrogate = false ∧
      (PyStr.ofString "line").any surrogate = false ∧
      (PyStr.ofString "text").any surrogate = false := by decide
  have count := taken.count
  have bounds := input.results_bounds
  rw [SearchTextOutput.dict,
    collection_bounded deep _ (by decide) ⟨by decide, by decide, input.query_valid⟩
    (input.query_bounds.2.trans (by decide))]
  · rw [List.forall_mem_map]
    have named :
      ∀ found ∈ (Filling.empty.fill ⟨input.maxResults, maxCollectionOutputBytes⟩ TextMatch.size
        ((files.filter (readable ws)).flatMap (matchesIn ws casefold input))).items,
        (found.fields.broken = false ↔ found.path.any surrogate = false) := by
      intro found member
      simp only [FlatDict.broken, TextMatch.fields, List.any_cons, List.any_nil,
        FlatValue.broken, words, (items found member).1, Bool.false_or, Bool.or_false]
    simp only [SearchNamed, finds]
    constructor
    · rintro valid others done ⟨⟩ found member
      exact (named found member).mp (valid found member)
    · intro valid found member
      exact (named found member).mpr (valid _ _ rfl found member)
  · rw [List.forall_mem_map]
    intro found inside field member
    simp only [TextMatch.fields, List.mem_cons, List.not_mem_nil, or_false] at member
    rcases member with rfl | rfl | rfl
    · simp
    · rintro number ⟨⟩
      exact file_number (items found inside).2
    · simp
  · rw [List.length_map]
    dsimp only at count ⊢
    omega
  · exact taken_sizes taken

end Collections

/-- When the outputs of the reading tools are within the limit of a result, and that they are then
no failure. -/
theorem limits_exact (env : Collaborators) (deep : 3 ≤ env.python.recursionLimit) (ws : Workspace)
    (casefold : PyStr → PyStr) :
    (∀ fields : Fields, fields.length ≤ 128 → Bounded env.python fields → Delivered env fields) ∧
    (∀ input out text, readFile ws input = .ok out →
      readText ws (targetOf ws input.path) = .ok text →
      (Bounded env.python out.dict.fields ↔ PageWithin input text)) ∧
    (∀ input out, listFiles ws input = .ok out →
      (Bounded env.python out.dict.fields ↔ ListNamed ws input)) ∧
    (∀ input out, searchText ws casefold input = .ok out →
      (Bounded env.python out.dict.fields ↔ SearchNamed ws casefold input)) := by
  refine ⟨fun _ few bounded => bounded_delivered few bounded, ?_,
    fun _ _ run => list_bounded deep run, fun _ _ run => search_bounded deep run⟩
  intro input out text run read
  obtain ⟨place, resolved, _⟩ := bind_ok run
  obtain ⟨rfl, _⟩ := resolvePath_ok resolved
  cases (readFile_page input resolved read).symm.trans run
  exact page_bounded deep read

section Sample

/-- A page of two lines, a listing of two files and a search with two lines are within the limit. -/
theorem limits_exact_sample :
    Bounded samplePython (pageOf [0x66] threePoints 1 2).dict.fields ∧
      Bounded samplePython
        (ListFilesOutput.mk [0x2E] [⟨[0x66], .file⟩, ⟨[0x67], .file⟩] false).dict.fields ∧
      Bounded samplePython
        (SearchTextOutput.mk [0x78] [⟨[0x66], 1, [0x78]⟩,
          ⟨[0x66], 3, [0x78]⟩] false).dict.fields := by
  have pages := (limits_exact (sampleEnv (sampleTool (.plain .foreign))) (by decide)
    (sampleWorkspace threeLines) id).2.1
  obtain ⟨_, _, lists, searches⟩ :=
    limits_exact (sampleEnv (sampleTool (.plain .foreign))) (by decide)
      (sampleWorkspace foundLines) id
  refine ⟨?_, (lists sampleListing _ (sample_listed foundLines)).mpr ?_,
    (searches sampleSearch _ (sample_found id)).mpr ?_⟩
  · have read := sample_read threeLines (by decide)
    refine (pages (sampleRequest 2 (by decide)) _ threePoints
      (readFile_page (sampleRequest 2 (by decide)) (sample_resolved _) read) read).mpr
        ⟨by decide, by decide⟩
  · intro collected limited made
    cases (sample_collected foundLines).symm.trans made
    decide
  · intro files limited made
    have found : candidates (sampleWorkspace foundLines) [[0x77], [0x66]] =
        .ok ([[[0x77], [0x66]]], false) := rfl
    cases found.symm.trans made
    decide

def controls (count : Nat) : List Char := List.replicate count '\x01' ++ ['\x01']

def controlPoints (count : Nat) : PyStr := List.replicate count 0x01 ++ [0x01]

variable (count : Nat)

theorem controls_points : (controls count).map Char.toNat = controlPoints count := by
  rw [controls, List.map_append, List.map_replicate]
  rfl

theorem controls_bytes : (Utf8.encode (controls count)).length = count + 1 := by
  rw [controls, Utf8.encode_append, List.length_append, encode_replicate rfl]
  rfl

theorem controlPoints_bytes : byteLength (controlPoints count) = count + 1 := by
  rw [byteLength, controlPoints, List.map_append, List.map_replicate, List.sum_append,
    List.sum_replicate]
  exact congrArg (· + 1) (Nat.mul_one count)

theorem controlPoints_window :
    (window (controlPoints count) 1 1).flatten = controlPoints count := by
  have lines : keepLines (controlPoints count) = [controlPoints count] := by
    rw [keepLines, controlPoints, keepLinesFrom_run rfl count [] (List.cons_ne_nil _ _),
      List.nil_append]
    rfl
  rw [window, lines]
  simp

theorem controlPoints_escaped : 5 * (count + 1) ≤ escapedBytes (controlPoints count) := by
  have all : (controlPoints count).countP longEscape = count + 1 := by
    rw [controlPoints, List.countP_append, List.countP_replicate]
    rfl
  rw [escapedBytes, all]
  exact Nat.le_add_left _ _

theorem controls_exceed {count : Nat} (fits : count + 1 ≤ maxReadOutputBytes)
    (many : 1048576 < 5 * (count + 1)) :
    ¬ PageWithin (sampleRequest 1 (by decide)) (controlPoints count) := by
  rintro ⟨_, within⟩
  have whole : wholeWithin maxReadOutputBytes (controlPoints count) = controlPoints count := by
    rw [wholeWithin_eq, controlPoints_bytes]
    exact fits
  have escaped := controlPoints_escaped count
  unfold pageBytes at within
  dsimp only at within
  rw [show (sampleRequest 1 (by decide)).startLine = 1 from rfl,
    show (sampleRequest 1 (by decide)).maxLines = 1 from rfl, controlPoints_window, whole] at within
  omega

/-- A page of control characters takes more than the limit when they are escaped. -/
theorem page_exceeds_limit : ¬ ∀ (ws : Workspace) (casefold : PyStr → PyStr),
    (∀ input out, readFile ws input = .ok out → Bounded samplePython out.dict.fields) ∧
    (∀ input out, listFiles ws input = .ok out → Bounded samplePython out.dict.fields) ∧
    (∀ input out, searchText ws casefold input = .ok out →
      Bounded samplePython out.dict.fields) := by
  intro claimed
  obtain ⟨count, fits, many⟩ : ∃ count, count + 1 ≤ maxReadOutputBytes ∧
      1048576 < 5 * (count + 1) :=
    ⟨249999, by decide⟩
  have small : (Utf8.encode (controls count)).length ≤ maxFileBytes := by
    rw [controls_bytes]
    exact fits.trans (by decide)
  have read := sample_read (controls count) small
  rw [controls_points] at read
  have run := readFile_page (sampleRequest 1 (by decide)) (sample_resolved _) read
  have bounded := (claimed (sampleWorkspace (controls count)) id).1 _ _ run
  exact controls_exceed fits many ((page_bounded (by decide) read).mp bounded)

end Sample

end SynapseOS.FilesystemTools
