import SynapseOS.FilesystemTools.Contents

/-! When a listing or a search that is not truncated is complete. -/

namespace SynapseOS.FilesystemTools

open Execution Tools LinkedTree Containment

open Workspaces (Raised asPosix pathParts)

section Listing

variable (ws : Workspace)

def listed (entry : Entry) : ListedEntry := ⟨relativeText ws entry.1, entry.2⟩

def targetOf (path : PyStr) : HostPath := ws.root ++ pathParts path

def ordered (entries : List Entry) : List Entry :=
  sortedBy (fun entry => relativeText ws entry.1) entries

def entriesBelow (input : ListFilesInput) : List Entry :=
  belowAt nothing input.recursive (targetOf ws input.path) ws.tree

/-- The entries whose kinds, and those of the directories that lead to them, can be asked for. -/
def knownBelow (input : ListFilesInput) : List Entry :=
  (entriesBelow ws input).filter (visibleFrom ws.kindRefuses (targetOf ws input.path))

/-- A listing that is not truncated has all entries. -/
def ListComplete (input : ListFilesInput) (out : ListFilesOutput) : Prop :=
  out.truncated = false → out.entries = (ordered ws (entriesBelow ws input)).map (listed ws)

def ListWithin (input : ListFilesInput) : Prop :=
  (knownBelow ws input).length ≤ maxScanEntries ∧ (knownBelow ws input).length ≤ input.maxEntries ∧
    ((knownBelow ws input).map fun entry => (listed ws entry).size).sum ≤ maxCollectionOutputBytes

def KindsKnown (input : ListFilesInput) : Prop :=
  ∀ entry ∈ entriesBelow ws input, visibleFrom ws.kindRefuses (targetOf ws input.path) entry = true

variable {ws} {input : ListFilesInput} {out : ListFilesOutput}

theorem listLoop_ok {budget : Budget} {entries : List Entry} {filling final : Filling ListedEntry}
    (run : listLoop ws budget entries filling = .ok final) :
    final = filling.fill budget ListedEntry.size (entries.map (listed ws)) := by
  induction entries generalizing filling with
  | nil =>
      cases run
      rfl
  | cons entry rest ih =>
      obtain ⟨path, kind⟩ := entry
      obtain ⟨text, shown, run⟩ := bind_ok run
      obtain ⟨_, rfl⟩ := entryRelativePath_ok shown
      rw [List.map_cons, Filling.fill_cons]
      dsimp only at run
      split at run
      · next stopped =>
          cases run
          exact (Filling.fill_stopped stopped _).symm
      · exact ih run

theorem listFiles_ok (run : listFiles ws input = .ok out) : ∃ collected limited raw,
    collectEntries ws input.recursive (targetOf ws input.path) = .ok (collected, limited) ∧
      ws.tree.stands (targetOf ws input.path) = .ok (.directory raw) ∧
      out = ⟨asPosix (pathParts input.path),
        (Filling.empty.fill ⟨input.maxEntries, maxCollectionOutputBytes⟩ ListedEntry.size
          (collected.map (listed ws))).items,
        limited || (Filling.empty.fill ⟨input.maxEntries, maxCollectionOutputBytes⟩ ListedEntry.size
          (collected.map (listed ws))).stopped⟩ := by
  obtain ⟨directory, resolved, run⟩ := bind_ok run
  obtain ⟨rfl, _, _, relative, item, there, suits⟩ := resolvePath_ok resolved
  obtain ⟨⟨collected, limited⟩, collects, run⟩ := bind_ok run
  obtain ⟨filling, loops, run⟩ := bind_ok run
  obtain ⟨text, shown, run⟩ := bind_ok run
  cases relative.symm.trans shown
  cases run
  cases listLoop_ok loops
  cases item with
  | directory raw => exact ⟨collected, limited, raw, collects, there, rfl⟩
  | file | special | link => cases suits

theorem list_target {raw : List (PyStr × Item PyStr)}
    (there : ws.tree.stands (targetOf ws input.path) = .ok (.directory raw)) :
    entriesBelow ws input = below nothing input.recursive (targetOf ws input.path)
    (.directory raw) ∧
      knownBelow ws input = below ws.kindRefuses input.recursive (targetOf ws input.path)
      (.directory raw) := by
  have whole : entriesBelow ws input = below nothing input.recursive (targetOf ws input.path)
      (.directory raw) := by
    rw [entriesBelow, belowAt, there]
  refine ⟨whole, ?_⟩
  rw [knownBelow, whole]
  exact (below_visible (targetOf ws input.path) (.directory raw)).symm

theorem filled_all {α β : Type} (budget : Budget) (size : β → Nat) {items others : List α}
    (same : items.Perm others)
    (shown : α → β) : (Filling.empty.fill budget size (items.map shown)).stopped = false ↔
      others.length ≤ budget.count ∧
      (others.map fun item => size (shown item)).sum ≤ budget.size := by
  have total : ((items.map shown).map size).sum =
      (others.map fun item => size (shown item)).sum := by
    rw [List.map_map]
    exact (same.map _).sum_eq
  rw [Filling.fill_whole, List.length_map, same.length_eq, total]

/-- A listing is truncated exactly if a limit is exceeded, and else it has the entries that are
known. -/
theorem list_within (run : listFiles ws input = .ok out) :
    (out.truncated = false ↔ ListWithin ws input) ∧
    (out.truncated = false → out.entries = (ordered ws (knownBelow ws input)).map (listed ws)) := by
  obtain ⟨collected, limited, raw, collects, there, rfl⟩ := listFiles_ok run
  obtain ⟨unlimited, exactly⟩ := collected_exact collects there ⟨_, rfl, plain_parts input.path⟩
  rw [← (list_target there).2] at unlimited exactly
  dsimp only
  rw [Bool.or_eq_false_iff]
  have filled (done : limited = false) := filled_all ⟨input.maxEntries, maxCollectionOutputBytes⟩
    ListedEntry.size ((exactly done).symm ▸ sortedBy_perm) (listed ws)
  constructor
  · constructor
    · rintro ⟨done, going⟩
      exact ⟨unlimited.mp done, (filled done).mp going⟩
    · rintro ⟨scan, fits⟩
      exact ⟨unlimited.mpr scan, (filled (unlimited.mpr scan)).mpr fits⟩
  · rintro ⟨done, going⟩
    rw [(Filling.taken_fill _ _ _).whole going, exactly done]
    rfl

theorem list_exact (run : listFiles ws input = .ok out) :
    ListComplete ws input out ↔ (ListWithin ws input → KindsKnown ws input) := by
  obtain ⟨within, entries⟩ := list_within run
  have lengths (xs : List Entry) : ((ordered ws xs).map (listed ws)).length = xs.length := by
    rw [List.length_map]
    exact sortedBy_perm.length_eq
  have whole : (ordered ws (knownBelow ws input)).map (listed ws) =
      (ordered ws (entriesBelow ws input)).map (listed ws) ↔
      KindsKnown ws input := by
    constructor
    · intro same
      have sizes := congrArg List.length same
      rw [lengths, lengths] at sizes
      exact List.length_filter_eq_length_iff.mp sizes
    · intro known
      rw [knownBelow, List.filter_eq_self.mpr known]
  unfold ListComplete
  rw [← whole, ← within]
  constructor
  · intro complete done
    rw [← entries done]
    exact complete done
  · intro same done
    rw [entries done]
    exact same done

end Listing

section Searching

variable (ws : Workspace) (casefold : PyStr → PyStr) (input : SearchTextInput)

def textOf (path : HostPath) : Option PyStr := (decodeUtf8 (ws.bytes path)).toOption

def matchesOf (path : HostPath) (text : PyStr) : List TextMatch :=
  ((splitLines text).zipIdx 1).filterMap fun line =>
    if hit casefold input line.1 = true then some ⟨relativeText ws path, line.2,
      line.1.take maxLineLength⟩ else none

def matchesIn (path : HostPath) : List TextMatch :=
  match textOf ws path with
  | some text => matchesOf ws casefold input path text
  | none => []

def filesBelow : List HostPath :=
  match ws.tree.stands (targetOf ws input.path) with
  | .ok .file => [targetOf ws input.path]
  | _ => ((ordered ws (belowAt nothing true (targetOf ws input.path) ws.tree)).filter fun entry =>
      decide (entry.2 = .file)).map Prod.fst

def known (path : HostPath) : Bool :=
  visible ws.kindRefuses (targetOf ws input.path) (path.drop (targetOf ws input.path).length)

def searched (path : HostPath) : Bool :=
  known ws input path && !ws.readRefuses path && decide ((ws.bytes path).length ≤ maxFileBytes)

/-- A search that is not truncated has all lines with the query of all UTF-8 files, and leaves none
of them out for its size. -/
def SearchComplete (out : SearchTextOutput) : Prop :=
  out.truncated = false → out.found = (filesBelow ws input).flatMap (matchesIn ws casefold input) ∧
    ∀ path ∈ filesBelow ws input, (textOf ws path).isSome = true →
    (ws.bytes path).length ≤ maxFileBytes

def searchedMatches : List TextMatch :=
  ((filesBelow ws input).filter (searched ws input)).flatMap (matchesIn ws casefold input)

def SearchWithin : Prop :=
  (belowAt ws.kindRefuses true (targetOf ws input.path) ws.tree).length ≤ maxScanEntries ∧
  (searchedMatches ws casefold input).length ≤ input.maxResults ∧
    ((searchedMatches ws casefold input).map TextMatch.size).sum ≤ maxCollectionOutputBytes

/-- Every UTF-8 file is within the size limit, and is searched if the query is in it. -/
def Searchable : Prop :=
  ∀ path ∈ filesBelow ws input, (textOf ws path).isSome = true →
    (ws.bytes path).length ≤ maxFileBytes ∧
    (searched ws input path = true ∨ matchesIn ws casefold input path = [])

theorem searchLines_fill (path : HostPath) (number : Nat) (lines : List PyStr)
    (filling : Filling TextMatch) :
    searchLines casefold input (relativeText ws path) number lines filling =
      filling.fill ⟨input.maxResults, maxCollectionOutputBytes⟩ TextMatch.size
        ((lines.zipIdx number).filterMap fun line => if hit casefold input line.1 = true then
          some ⟨relativeText ws path, line.2, line.1.take maxLineLength⟩ else none) := by
  induction lines generalizing number filling with
  | nil => rfl
  | cons line rest ih =>
      rw [searchLines, List.zipIdx_cons]
      cases contains : hit casefold input line with
      | false =>
          rw [if_pos rfl, ih, List.filterMap_cons_none]
          rw [contains, if_neg Bool.false_ne_true]
      | true =>
          rw [if_neg (by decide), List.filterMap_cons_some (by rw [contains, if_pos rfl]),
            Filling.fill_cons]
          dsimp only
          split
          · next stopped => exact (Filling.fill_stopped stopped _).symm
          · exact ih _ _

variable {ws casefold input}

structure Reachable (ws : Workspace) (path : HostPath) : Prop where
  file : ws.tree.stands path = .ok .file
  inside : ws.root <+: path
  placed : ws.tree.Direct path ∨ Grounded ws path

def readable (ws : Workspace) (path : HostPath) : Bool :=
  !ws.readRefuses path && decide ((ws.bytes path).length ≤ maxFileBytes)

theorem Reachable.read {path : HostPath} (reachable : Reachable ws path)
    (open_ : readable ws path = true) : readText ws path = decodeUtf8 (ws.bytes path) := by
  obtain ⟨allowed, small⟩ := Bool.and_eq_true_iff.mp open_
  rw [readText, readRegularBytes_ok reachable.file (Bool.not_eq_true' _ ▸ allowed)
    (of_decide_eq_true small)]
  rfl

theorem Reachable.unread {path : HostPath} (reachable : Reachable ws path)
    (closed : readable ws path = false) : ∃ raised, readText ws path = .error raised := by
  unfold readText readRegularBytes
  rw [reachable.file]
  dsimp only
  by_cases refused : ws.readRefuses path = true
  · rw [if_pos refused]
    exact ⟨_, rfl⟩
  · have large : maxFileBytes < (ws.bytes path).length := by
      simpa [readable, refused] using closed
    rw [if_neg refused, if_pos large]
    exact ⟨_, rfl⟩

theorem Reachable.direct {path : HostPath} (reachable : Reachable ws path)
    (allowed : ws.readRefuses path = false) : ws.tree.Direct path := by
  rcases reachable.placed with direct | grounded
  · exact direct
  · refine grounded.direct reachable.file nofun ?_
    rw [← Bool.not_eq_true]
    intro refused
    exact absurd (allowed.symm.trans (ws.searched path refused).1) (by decide)

theorem searchFiles_ok
    (canonical : canonicalRoot ws.tree ws.depth (ws.root.map .into) = .ok ws.root)
    {files : List HostPath} (reachable : ∀ path ∈ files, Reachable ws path)
    {filling final : Filling TextMatch}
    (run : searchFiles ws casefold input files filling = .ok final) :
    final = filling.fill ⟨input.maxResults, maxCollectionOutputBytes⟩ TextMatch.size
      ((files.filter (readable ws)).flatMap (matchesIn ws casefold input)) := by
  induction files generalizing filling with
  | nil =>
      cases run
      rfl
  | cons path rest ih =>
      have own := reachable path List.mem_cons_self
      have later : ∀ path ∈ rest, Reachable ws path :=
        fun other member => reachable other (List.mem_cons_of_mem _ member)
      rw [searchFiles] at run
      cases open_ : readable ws path with
      | false =>
          obtain ⟨raised, failed⟩ := own.unread open_
          rw [failed] at run
          rw [List.filter_cons_of_neg (by rw [open_]; exact Bool.false_ne_true)]
          exact ih later run
      | true =>
          rw [own.read open_] at run
          rw [List.filter_cons_of_pos open_, List.flatMap_cons, Filling.fill_append]
          cases decoded : decodeUtf8 (ws.bytes path) with
          | error raised =>
              have empty : matchesIn ws casefold input path = [] := by
                rw [matchesIn, textOf, decoded]; rfl
              rw [decoded] at run
              rw [empty]
              exact ih later run
          | ok text =>
              have allowed : ws.readRefuses path = false := by
                simpa using (Bool.and_eq_true_iff.mp open_).1
              have relative := relativePath_direct canonical own.inside (own.direct allowed)
              have lines : matchesIn ws casefold input path =
                  matchesOf ws casefold input path text := by
                rw [matchesIn, textOf, decoded]
                rfl
              rw [decoded] at run
              dsimp only at run
              rw [relative] at run
              have step := searchLines_fill ws casefold input path 1 (splitLines text) filling
              simp only [bind, Except.bind, step] at run
              rw [lines]
              split at run
              · next stopped =>
                  cases run
                  exact (Filling.fill_stopped stopped _).symm
              · exact ih later run

theorem collectEntries_directory {deep limited : Bool} {directory : HostPath} {entries : List Entry}
    (run : collectEntries ws deep directory = .ok (entries, limited)) :
    ∃ raw, ws.tree.stands directory = .ok (.directory raw) := by
  obtain ⟨scan, scans, _⟩ := collectEntries_ok run
  cases scans with
  | done empty => cases empty
  | cut next listed | more next listed =>
      cases next
      obtain ⟨raw, there, _⟩ := scandir_ok listed
      exact ⟨raw, there⟩

theorem ordered_apart {deep : Bool} {path : PyStr} {raw : List (PyStr × Item PyStr)}
    (there : ws.tree.stands (targetOf ws path) = .ok (.directory raw)) :
    ∀ first ∈ below nothing deep (targetOf ws path) (.directory raw),
      ∀ second ∈ below nothing deep (targetOf ws path) (.directory raw),
        relativeText ws first.1 = relativeText ws second.1 → first = second := by
  intro first here second other same
  exact held_apart ⟨_, rfl, plain_parts path⟩ (below_held _ _ there first here)
    (below_held _ _ there second other) same

theorem candidates_exact {files : List HostPath} {limited : Bool} {item : Item PyStr}
    (run : candidates ws (targetOf ws input.path) = .ok (files, limited))
    (direct : ws.tree.Direct (targetOf ws input.path))
    (there : ws.tree.stands (targetOf ws input.path) = .ok item) :
    (∀ path ∈ files, Reachable ws path) ∧
    (limited = false ↔
      (belowAt ws.kindRefuses true (targetOf ws input.path) ws.tree).length ≤ maxScanEntries) ∧
    (limited = false → files = (filesBelow ws input).filter (known ws input)) := by
  have seen : ws.tree.stat (targetOf ws input.path) = .ok item := by rw [stat_direct direct, there]
  rw [candidates, statIs_ok seen] at run
  rw [belowAt, filesBelow, there]
  by_cases single : item = .file
  · subst single
    cases run
    refine ⟨?_, iff_of_true rfl (Nat.zero_le _), fun _ => ?_⟩
    · intro path member
      cases List.mem_singleton.mp member
      exact ⟨there, List.prefix_append _ _, .inl direct⟩
    · have own : known ws input (targetOf ws input.path) = true := by
        rw [known, List.drop_length]
        rfl
      exact (List.filter_eq_self.mpr fun path member => List.mem_singleton.mp member ▸ own).symm
  · have several : regular item = false := by
      cases item with
      | file => exact absurd rfl single
      | special | link | directory => rfl
    rw [several] at run
    obtain ⟨⟨collected, done⟩, collects, run⟩ := bind_ok run
    cases run
    obtain ⟨raw, found⟩ := collectEntries_directory collects
    cases there.symm.trans found
    obtain ⟨unlimited, exactly⟩ := collected_exact collects there ⟨_, rfl, plain_parts input.path⟩
    refine ⟨?_, unlimited, fun whole => ?_⟩
    · intro path member
      obtain ⟨⟨_, kind⟩, among, rfl⟩ := List.mem_map.mp member
      obtain ⟨collect, file⟩ := List.mem_filter.mp among
      cases of_decide_eq_true file
      obtain ⟨placed, inside⟩ := collected_placed collects direct _ collect
      obtain ⟨inner, stands, kind⟩ := placed.item
      refine ⟨?_, inside, .inr placed.grounded⟩
      cases inner with
      | file => exact stands
      | special | link | directory => cases kind
    · have visibles :
        collected =
          (ordered ws (below nothing true (targetOf ws input.path) (.directory raw))).filter
          (visibleFrom ws.kindRefuses (targetOf ws input.path)) := by
        rw [exactly whole, below_visible, ordered, sortedBy_filter _ (ordered_apart there)]
      rw [visibles, List.filter_comm, belowAt, there, List.filter_map]
      rfl

theorem searchText_ok {out : SearchTextOutput} (run : searchText ws casefold input = .ok out) :
    ∃ files limited item, candidates ws (targetOf ws input.path) = .ok (files, limited) ∧
      ws.tree.Direct (targetOf ws input.path) ∧ ws.tree.stands (targetOf ws input.path) = .ok item ∧
      out = ⟨input.query,
        (Filling.empty.fill ⟨input.maxResults, maxCollectionOutputBytes⟩ TextMatch.size
          ((files.filter (readable ws)).flatMap (matchesIn ws casefold input))).items,
        limited || (Filling.empty.fill ⟨input.maxResults, maxCollectionOutputBytes⟩ TextMatch.size
          ((files.filter (readable ws)).flatMap (matchesIn ws casefold input))).stopped⟩ := by
  obtain ⟨target, resolved, run⟩ := bind_ok run
  obtain ⟨rfl, direct, canonical, _, item, there, _⟩ := resolvePath_ok resolved
  obtain ⟨⟨files, limited⟩, finds, run⟩ := bind_ok run
  obtain ⟨filling, searches, run⟩ := bind_ok run
  cases run
  cases searchFiles_ok canonical (candidates_exact finds direct there).1 searches
  exact ⟨files, limited, item, finds, direct, there, rfl⟩

/-- A search is truncated exactly if a limit is exceeded, and else it has the lines of the files
that are searched. -/
theorem search_within {out : SearchTextOutput} (run : searchText ws casefold input = .ok out) :
    (out.truncated = false ↔ SearchWithin ws casefold input) ∧
      (out.truncated = false → out.found = searchedMatches ws casefold input) := by
  obtain ⟨files, limited, item, finds, direct, there, rfl⟩ := searchText_ok run
  obtain ⟨_, unlimited, exactly⟩ := candidates_exact finds direct there
  have same (done : limited = false) : files.filter (readable ws) = (filesBelow ws input).filter
      (searched ws input) := by
    rw [exactly done, List.filter_filter]
    refine List.filter_congr fun path _ => ?_
    rw [readable, searched, Bool.and_comm, Bool.and_assoc]
  dsimp only
  rw [Bool.or_eq_false_iff, SearchWithin, ← unlimited]
  constructor
  · refine and_congr_right fun done => ?_
    rw [same done, ← searchedMatches, Filling.fill_whole]
  · rintro ⟨done, going⟩
    rw [same done, ← searchedMatches] at going ⊢
    exact (Filling.taken_fill _ _ _).whole going

theorem flatMap_filter {α β : Type} (kept : α → Bool) (parts : α → List β) (items : List α) :
    (items.filter kept).flatMap parts = items.flatMap parts ↔ ∀ item ∈ items, kept item = true ∨
    parts item = [] := by
  induction items with
  | nil => exact iff_of_true rfl nofun
  | cons item rest ih =>
      rw [List.forall_mem_cons, ← ih, List.flatMap_cons]
      by_cases keeps : kept item = true
      · rw [List.filter_cons_of_pos keeps, List.flatMap_cons, List.append_cancel_left_eq]
        simp only [keeps, true_or, true_and]
      · rw [List.filter_cons_of_neg keeps]
        have fewer : ((rest.filter kept).flatMap parts).length ≤ (rest.flatMap parts).length :=
          (List.filter_sublist.flatMap parts).length_le
        constructor
        · intro same
          have lengths := congrArg List.length same
          rw [List.length_append] at lengths
          have empty : parts item = [] := List.length_eq_zero_iff.mp (by omega)
          rw [empty, List.nil_append] at same
          exact ⟨.inr empty, same⟩
        · rintro ⟨kept_ | empty, same⟩
          · exact absurd kept_ keeps
          · rw [same, empty, List.nil_append]

theorem search_exact {out : SearchTextOutput} (run : searchText ws casefold input = .ok out) :
    SearchComplete ws casefold input out ↔
    (SearchWithin ws casefold input → Searchable ws casefold input) := by
  obtain ⟨within, found⟩ := search_within run
  unfold SearchComplete
  rw [← within]
  refine forall_congr' fun done => ?_
  rw [found done, searchedMatches, flatMap_filter]
  constructor
  · rintro ⟨parts, small⟩ path member valid
    exact ⟨small path member valid, parts path member⟩
  · intro all
    refine ⟨fun path member => ?_, fun path member valid => (all path member valid).1⟩
    cases decoded : textOf ws path with
    | some text => exact (all path member (by rw [decoded]; rfl)).2
    | none =>
        right
        rw [matchesIn, decoded]

end Searching

/-- When a listing or a search that is not truncated has all that is below its path. -/
theorem completeness_exact (ws : Workspace) (casefold : PyStr → PyStr) :
    (∀ input out, listFiles ws input = .ok out →
      (ListComplete ws input out ↔ (ListWithin ws input → KindsKnown ws input))) ∧
    (∀ input out, searchText ws casefold input = .ok out →
      (SearchComplete ws casefold input out ↔
        (SearchWithin ws casefold input → Searchable ws casefold input))) :=
  ⟨fun _ _ run => list_exact run, fun _ _ run => search_exact run⟩

section Sample

variable (chars : List Char) (casefold : PyStr → PyStr)

def sampleListing : ListFilesInput where
  path := [0x2E]
  recursive := false
  maxEntries := 10
  path_bounds := by decide
  path_valid := by decide
  entries_bounds := by decide

def sampleSearch : SearchTextInput where
  query := [0x78]
  path := [0x66]
  caseSensitive := true
  maxResults := 10
  query_bounds := by decide
  query_valid := by decide
  query_blank := by decide
  path_bounds := file_short
  path_valid := file_valid
  results_bounds := by decide

theorem encode_replicate {char : Char} (narrow : char.utf8Size = 1) (count : Nat) :
    (Utf8.encode (List.replicate count char)).length = count := by
  induction count with
  | zero => rfl
  | succ count ih =>
      rw [List.replicate_succ, Utf8.encode_cons, List.length_append, ih,
        String.length_utf8EncodeChar, narrow]
      exact Nat.add_comm 1 count

theorem sortedBy_pair {α κ : Type} [LinearOrder κ] {key : α → κ} {first second : α}
    (before : key first ≤ key second) : sortedBy key [first, second] = [first, second] :=
  ranked_sorted (List.pairwise_pair.mpr before)

theorem sample_collected : collectEntries (sampleWorkspace chars) false [[0x77]] =
    .ok ([([[0x77], [0x66]], .file), ([[0x77], [0x67]], .file)], false) := by
  have entries : scandir (sampleWorkspace chars) [[0x77]] = .ok sampleFiles := by
    show Except.ok (sortedBy Prod.fst [(([0x66] : PyStr), Item.file), ([0x67], .file)]) = _
    rw [sortedBy_pair (by decide)]
    rfl
  have scan : collectLoop (sampleWorkspace chars) false ⟨[[[0x77]]], [], false⟩ =
      .ok ⟨[], [([[0x77], [0x66]], .file), ([[0x77], [0x67]], .file)], false⟩ := by
    rw [collectLoop_next rfl (Nat.zero_le _), entries]
    exact collectLoop_nil rfl
  rw [collectEntries, scan]
  show Except.ok
    ((sortedBy Prod.fst [(([0x66] : PyStr), (([[0x77], [0x66]] : HostPath), EntryKind.file)),
    ([0x67], ([[0x77], [0x67]], .file))]).map Prod.snd, false) = _
  rw [sortedBy_pair (by decide)]
  rfl

theorem sample_listed : listFiles (sampleWorkspace chars) sampleListing =
    .ok ⟨[0x2E], [⟨[0x66], .file⟩, ⟨[0x67], .file⟩], false⟩ := by
  have resolved : resolvePath (sampleWorkspace chars) sampleListing.path .directory =
      .ok [[0x77]] := rfl
  unfold listFiles
  simp only [resolved, bind, Except.bind]
  rw [show sampleListing.recursive = false from rfl, sample_collected]
  rfl

theorem sample_searched (large : maxFileBytes < (Utf8.encode chars).length) :
    searchText (sampleWorkspace chars) casefold sampleSearch = .ok ⟨[0x78], [], false⟩ := by
  have held : (sampleWorkspace chars).tree.entry [[0x77]] [0x66] = .ok .file := rfl
  have reachable : Reachable (sampleWorkspace chars) [[0x77], [0x66]] :=
    ⟨rfl, List.prefix_append _ _, .inl (.down (sampleWorkspace chars).canonical held nofun)⟩
  have closed : readable (sampleWorkspace chars) [[0x77], [0x66]] = false :=
    Bool.and_eq_false_imp.mpr fun _ => decide_eq_false (not_le.mpr large)
  obtain ⟨raised, failed⟩ := reachable.unread closed
  have skipped : searchFiles (sampleWorkspace chars) casefold sampleSearch
      [[[0x77], [0x66]]] .empty = .ok .empty := by
    rw [searchFiles, failed]
    rfl
  have resolved : resolvePath (sampleWorkspace chars) sampleSearch.path .any = .ok [[0x77],
      [0x66]] := rfl
  have found : candidates (sampleWorkspace chars) [[0x77], [0x66]] =
      .ok ([[[0x77], [0x66]]], false) := rfl
  unfold searchText
  simp only [resolved, found, skipped, bind, Except.bind]
  rfl

def foundLines : List Char := ['x', '\n', 'y', '\n', 'x']

theorem sample_found : searchText (sampleWorkspace foundLines) casefold sampleSearch =
    .ok ⟨[0x78], [⟨[0x66], 1, [0x78]⟩, ⟨[0x66], 3, [0x78]⟩], false⟩ := by
  have read : readText (sampleWorkspace foundLines) [[0x77], [0x66]] = .ok [0x78, 0x0A, 0x79,
      0x0A, 0x78] :=
    sample_read _ (by decide)
  have resolved : resolvePath (sampleWorkspace foundLines) sampleSearch.path .any = .ok [[0x77],
      [0x66]] := rfl
  have found : candidates (sampleWorkspace foundLines) [[0x77], [0x66]] =
      .ok ([[[0x77], [0x66]]], false) := rfl
  unfold searchText
  simp only [resolved, found, searchFiles, read, bind, Except.bind]
  rfl

/-- A listing of two files and a search in three lines are complete. -/
theorem completeness_exact_sample :
    ListComplete (sampleWorkspace foundLines) sampleListing ⟨[0x2E],
      [⟨[0x66], .file⟩, ⟨[0x67], .file⟩], false⟩ ∧
      SearchComplete (sampleWorkspace foundLines) id sampleSearch
        ⟨[0x78], [⟨[0x66], 1, [0x78]⟩, ⟨[0x66], 3, [0x78]⟩], false⟩ := by
  obtain ⟨lists, searches⟩ := completeness_exact (sampleWorkspace foundLines) id
  constructor
  · refine (lists sampleListing _ (sample_listed foundLines)).mpr fun _ entry among => ?_
    exact visible_nothing _ _
  · refine (searches sampleSearch _ (sample_found id)).mpr fun _ path among _ => ?_
    cases List.mem_singleton.mp among
    decide

/-- A line of a file of more than 8 MiB is not found, and the search is not truncated. -/
theorem search_loses_file : ¬ ∀ (ws : Workspace) (casefold : PyStr → PyStr),
    (∀ input out, listFiles ws input = .ok out → ListComplete ws input out) ∧
      (∀ input out, searchText ws casefold input = .ok out →
        SearchComplete ws casefold input out) := by
  intro claimed
  have bytes : (Utf8.encode (List.replicate 8388609 'x')).length = 8388609 :=
    encode_replicate rfl 8388609
  have large : maxFileBytes < (Utf8.encode (List.replicate 8388609 'x')).length := by
    rw [bytes]
    decide
  have complete := (claimed (sampleWorkspace (List.replicate 8388609 'x')) id).2 sampleSearch _
    (sample_searched _ id large)
  have small := (complete rfl).2 [[0x77], [0x66]] (List.mem_singleton_self _) (by
    show (decodeUtf8 (Utf8.encode (List.replicate 8388609 'x'))).toOption.isSome = true
    rw [decodeUtf8_encode]
    rfl)
  exact absurd small (not_le.mpr large)

end Sample

end SynapseOS.FilesystemTools
