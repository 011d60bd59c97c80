import SynapseOS.LocalGit.Audit
import SynapseOS.LocalGit.Numstat

/-! Diffs and histories of which only so many bytes are kept (`infrastructure/git/local.py`). -/

namespace SynapseOS.LocalGit

open Execution Program

def historyArguments (request : GitHistoryRequest) : List PyStr :=
  let format := [0x1F].intercalate (["--format=%H", "%P", "%s", "%an", "%aI"].map PyStr.ofString) ++
    [0x1E]
  [.ofString "log", .ofString "--first-parent", .ofString "--skip=" ++ integerText request.offset,
    .ofString "--max-count=" ++ integerText (request.limit + 1), format]

section History

variable {R : Type} (machine : Machine R) (limits : GitProcessLimits) (timeout : ℚ)

def historyPage (request : GitHistoryRequest)
    (output : BoundedOutput) : Except Raised GitHistoryResult := do
  let text ← decode output.content
  let parsed ← parseHistory machine.aware text
  let commits := if output.truncated = true then parsed.take request.limit else parsed
  let page : GitHistoryResult :=
    ⟨commits.take request.limit, request.offset,
      decide (request.limit < commits.length) || output.truncated, output.truncated,
      output.totalBytes⟩
  if page.check = true then .ok page else .error .invalid

def history (request : GitHistoryRequest) : GitProgram R GitHistoryResult := do
  requireRepository machine
  let result ← run machine timeout (historyArguments request) limits.historyBytes [0]
  resume (historyPage machine request result.stdout)

end History

def Expected {α : Type} (outcome : Except Raised α) : Prop :=
  ∀ raised, outcome = .error raised → ∃ code, raised = failure code

theorem honest_error {α : Type} {outcome : Except Raised α} {code : GitWorkflowErrorCode}
    (failed : outcome = .error (failure code)) {cut : Prop} {holds : α → Prop} :
    (Expected outcome ∧ (cut → ∃ result, outcome = .ok result ∧ holds result)) ↔ ¬ cut := by
  rw [failed]
  constructor
  · intro honest cut
    rcases honest.2 cut with ⟨result, same, _⟩
    cases same
  · intro whole
    refine ⟨?_, fun cut => absurd cut whole⟩
    intro raised same
    cases same
    exact ⟨code, rfl⟩

def Decodes (bytes : List UInt8) : Prop := ∃ text, bytes = Utf8.encode text

/-- What git prints of a changed file, whose path is any bytes but NUL. -/
structure RawEntry where
  counts : Option (Nat × Nat)
  path : List UInt8
  some_ : path ≠ []
  whole : 0 ∉ path
  small : ∀ pair ∈ counts, pair.1 < 2 ^ 64 ∧ pair.2 < 2 ^ 64

namespace RawEntry

variable (entry : RawEntry)

def added : Nat := (entry.counts.map Prod.fst).getD 0

def removed : Nat := (entry.counts.map Prod.snd).getD 0

def countsText : List Char :=
  match entry.counts with
  | none => "-\t-".toList
  | some (added, removed) => decimal added ++ '\t' :: decimal removed

def bytes : List UInt8 := Utf8.encode entry.countsText ++ 0x09 :: entry.path

end RawEntry

def rawBlock (entries : List RawEntry) : List UInt8 := terminatedBytes (entries.map RawEntry.bytes)

def rawDiff (entries : List RawEntry) (patch : List UInt8) : List UInt8 :=
  match entries with
  | [] => []
  | _ => rawBlock entries ++ 0 :: patch

def complete : Nat → List RawEntry → List RawEntry
  | _, [] => []
  | kept, entry :: rest =>
      if entry.bytes.length < kept then entry :: complete (kept - (entry.bytes.length + 1)) rest
      else []

/-- A diff that is cut is read for what is complete in it, and no diff raises what is not
expected. -/
def HonestDiff (kept : Nat) (entries : List RawEntry) (patch : List UInt8)
    (outcome : Except Raised GitDiffResult) : Prop :=
  Expected outcome ∧ (kept < (rawDiff entries patch).length → ∃ result, outcome = .ok result ∧
    result.truncated = true ∧
    (complete kept entries).mapM (fun entry => decode ⟨entry.path.toArray⟩) =
      .ok result.changedPaths ∧
    result.insertions = ((complete kept entries).map RawEntry.added).sum ∧
    result.deletions = ((complete kept entries).map RawEntry.removed).sum)

/-- The pieces of an output whose bytes are all kept; the cut may fall right behind one. -/
def completePieces (kept : Nat) (output : List UInt8) : List (List UInt8) :=
  if output[kept]? = some 0x1E then (output.take kept).splitOn 0x1E
  else ((output.take kept).splitOn 0x1E).dropLast

def readCommits (aware : PyStr → Bool) (pieces : List (List UInt8)) : Except Raised
    (List GitCommitSummary) := do
  let texts ← pieces.mapM fun piece => decode ⟨piece.toArray⟩
  ((texts.map stripNewlines).filter fun record => !record.isEmpty).mapM (commitSummary aware)

/-- A history that is cut is read for what is complete in it, and none raises what is not
expected. -/
def HonestHistory (aware : PyStr → Bool) (kept : Nat) (request : GitHistoryRequest)
    (output : List UInt8) (outcome : Except Raised GitHistoryResult) : Prop :=
  Expected outcome ∧
    (kept < output.length → ∃ result, outcome = .ok result ∧ result.truncated = true ∧
    result.hasMore = true ∧ ∃ commits, readCommits aware (completePieces kept output) =
      .ok commits ∧
      result.commits = commits.take request.limit)

section Entries

theorem RawEntry.bytes_some (entry : RawEntry) : entry.bytes ≠ [] :=
  List.append_ne_nil_of_right_ne_nil _ (List.cons_ne_nil _ _)

theorem RawEntry.bytes_whole (entry : RawEntry) : 0 ∉ entry.bytes := by
  have counts : '\x00' ∉ entry.countsText := by
    unfold RawEntry.countsText
    split
    · decide
    · simp [nul_decimal]
  unfold RawEntry.bytes
  rw [List.mem_append, List.mem_cons]
  rintro (inside | zero | inside)
  · exact nul_bytes counts inside
  · exact absurd zero (by decide)
  · exact entry.whole inside

def NumstatEntry.raw (entry : NumstatEntry) : RawEntry where
  counts := entry.counts
  path := Utf8.encode entry.path.text
  some_ := fun empty => entry.path.some_ (Utf8.encode_eq_nil.mp empty)
  whole := nul_bytes entry.path.whole
  small := entry.small

theorem tab_marked : String.utf8EncodeChar '\t' = [0x09] := rfl

theorem raw_bytes (entry : NumstatEntry) : entry.raw.bytes = Utf8.encode entry.record := by
  have record : entry.record = entry.raw.countsText ++ '\t' :: entry.path.text := by
    have counts : entry.raw.counts = entry.counts := rfl
    unfold NumstatEntry.record RawEntry.countsText
    rw [counts]
    rcases entry.counts with _ | ⟨added, removed⟩
    · rfl
    · simp
  rw [record, Utf8.encode_join tab_marked]
  rfl

theorem rawBlock_raw (entries : List NumstatEntry) :
    rawBlock (entries.map NumstatEntry.raw) = Utf8.encode (numstatText entries) := by
  unfold rawBlock numstatText
  rw [encode_terminated, List.map_map, List.map_map]
  congr 1
  apply List.map_congr_left
  intro entry _
  exact raw_bytes entry

theorem decodes_path {entry : RawEntry} (decodes : Decodes entry.bytes) : Decodes entry.path := by
  rcases decodes with ⟨text, bytes⟩
  rcases Utf8.encode_split tab_marked bytes.symm with ⟨before, after, _, _, path⟩
  exact ⟨after, path⟩

theorem decodes_block {entries : List RawEntry} (decodes : Decodes (rawBlock entries)) :
    ∀ entry ∈ entries, Decodes entry.path := by
  induction entries with
  | nil =>
      intro entry among
      cases among
  | cons first rest ih =>
      rcases decodes with ⟨text, bytes⟩
      have split := terminatedBytes_cons first.bytes (rest.map RawEntry.bytes) []
      rw [List.append_nil, List.append_nil] at split
      have whole : Utf8.encode text = first.bytes ++ 0 :: rawBlock rest := bytes.symm.trans split
      rcases Utf8.encode_split nul_marked whole with ⟨before, after, _, front, back⟩
      intro entry among
      rcases List.mem_cons.mp among with rfl | later
      · exact decodes_path ⟨before, front⟩
      · exact ih ⟨after, back⟩ entry later

theorem raw_texts {entries : List RawEntry} (decodes : ∀ entry ∈ entries, Decodes entry.path) :
    ∃ texts : List NumstatEntry, entries = texts.map NumstatEntry.raw := by
  induction entries with
  | nil => exact ⟨[], rfl⟩
  | cons first rest ih =>
      rcases ih fun entry among => decodes entry (List.mem_cons_of_mem _ among) with ⟨texts, later⟩
      rcases first with ⟨counts, path, some_, whole, small⟩
      rcases decodes _ List.mem_cons_self with ⟨text, same⟩
      dsimp only at same
      subst same
      have present : text ≠ [] := fun empty => some_ (Utf8.encode_eq_nil.mpr empty)
      have without : '\x00' ∉ text := fun inside => whole ((Utf8.mem_encode nul_marked).mpr inside)
      exact ⟨⟨counts, ⟨text, present, without⟩, small⟩ :: texts, by rw [later]; rfl⟩

theorem complete_all {kept : Nat} {entries : List RawEntry}
    (within : (rawBlock entries).length ≤ kept) :
    complete kept entries = entries := by
  induction entries generalizing kept with
  | nil => rfl
  | cons first rest ih =>
      have split := terminatedBytes_cons first.bytes (rest.map RawEntry.bytes) []
      rw [List.append_nil, List.append_nil] at split
      have length : (rawBlock (first :: rest)).length = first.bytes.length + 1 +
          (rawBlock rest).length := by
        show (terminatedBytes (first.bytes :: rest.map RawEntry.bytes)).length = _
        rw [split, List.length_append, List.length_cons]
        unfold rawBlock
        omega
      rw [complete, if_pos (by omega), ih (by omega)]

end Entries

section Parsing

variable {entries : List RawEntry}

theorem decode_failed {bytes : List UInt8} (broken : ¬ Decodes bytes) :
    decode ⟨bytes.toArray⟩ = .error (failure .gitFailed) := by
  rcases read : decode ⟨bytes.toArray⟩ with raised | text
  · rw [decode_error read]
    rfl
  · rcases decode_ok_iff.mp read with ⟨chars, same, _⟩
    exact absurd ⟨chars, same⟩ broken

theorem rawDiff_take {kept : Nat} (present : entries ≠ []) (patch : List UInt8)
    (within : (rawBlock entries).length < kept) :
    (rawDiff entries patch).take kept =
      rawBlock entries ++ 0 :: patch.take (kept - ((rawBlock entries).length + 1)) := by
  have whole : rawDiff entries patch = (rawBlock entries ++ [0]) ++ patch := by
    cases entries with
    | nil => exact absurd rfl present
    | cons first rest => simp [rawDiff]
  rw [whole, List.take_append, List.take_of_length_le (by simpa using within), List.length_append,
    List.append_assoc]
  rfl

/-- Where the cut is in the records, the two NULs behind them are not kept. -/
theorem partition_cut {kept : Nat} (present : entries ≠ []) (patch : List UInt8)
    (cut : kept ≤ (rawBlock entries).length) : partitionZeros ((rawDiff entries patch).take kept) =
      none := by
  have whole : rawDiff entries patch = rawBlock entries ++ 0 :: patch := by
    cases entries with
    | nil => exact absurd rfl present
    | cons first rest => rfl
  have pieces : ∀ record ∈ entries.map RawEntry.bytes, record ≠ [] ∧ 0 ∉ record := by
    intro record among
    rcases List.mem_map.mp among with ⟨entry, _, rfl⟩
    exact ⟨entry.bytes_some, entry.bytes_whole⟩
  rcases partition_records (by simpa using present) pieces with ⟨front, block, splits⟩
  rcases found : partitionZeros ((rawDiff entries patch).take kept) with _ | ⟨before, after⟩
  · rfl
  · have whole_found := partitionZeros_append found ((rawDiff entries patch).drop kept)
    rw [List.take_append_drop, whole] at whole_found
    rw [rawBlock, splits patch] at whole_found
    have same : before = front := (congrArg Prod.fst (Option.some.inj whole_found)).symm
    have size := congrArg List.length (partitionZeros_some found)
    have length : (rawBlock entries).length = front.length + 1 := by
      rw [rawBlock, block, List.length_append, List.length_singleton]
    rw [same, List.length_append, List.length_cons, List.length_cons, List.length_take] at size
    omega

theorem parse_kept {kept : Nat} (texts : List NumstatEntry) (present : texts ≠ [])
    (patch : List UInt8) (within : (rawBlock (texts.map NumstatEntry.raw)).length < kept) :
    parseDiffOutput ⟨((rawDiff (texts.map NumstatEntry.raw) patch).take kept).toArray⟩ =
      (decode ⟨(patch.take
        (kept - ((rawBlock (texts.map NumstatEntry.raw)).length + 1))).toArray⟩).map
        fun shown => (shown, pathsOf texts, insertionsOf texts, deletionsOf texts) := by
  rw [rawDiff_take (by simpa using present) patch within]
  rw [rawBlock_raw, parseDiffOutput_block present]

theorem parse_broken {kept : Nat} (positive : 0 < kept) (present : entries ≠ [])
    (patch : List UInt8)
    (broken : ¬ ((rawBlock entries).length < kept ∧ ∀ entry ∈ entries, Decodes entry.path)) :
    parseDiffOutput ⟨((rawDiff entries patch).take kept).toArray⟩ = .error
      (failure .gitFailed) := by
  have some_ : rawDiff entries patch ≠ [] := by
    cases entries with
    | nil => exact absurd rfl present
    | cons first rest => simp [rawDiff]
  have size : (⟨((rawDiff entries patch).take kept).toArray⟩ : ByteArray).size ≠ 0 := by
    show ((rawDiff entries patch).take kept).toArray.size ≠ 0
    have length := List.length_pos_iff.mpr some_
    rw [List.size_toArray, List.length_take]
    omega
  unfold parseDiffOutput
  rw [if_neg size]
  dsimp only
  by_cases within : (rawBlock entries).length < kept
  · have pieces : ∀ record ∈ entries.map RawEntry.bytes, record ≠ [] ∧ 0 ∉ record := by
      intro record among
      rcases List.mem_map.mp among with ⟨entry, _, rfl⟩
      exact ⟨entry.bytes_some, entry.bytes_whole⟩
    rcases partition_records (by simpa using present) pieces with ⟨front, block, splits⟩
    have undecodable : ¬ Decodes front := by
      rintro ⟨text, rfl⟩
      refine broken ⟨within, decodes_block ⟨text ++ ['\x00'], ?_⟩⟩
      rw [Utf8.encode_join nul_marked]
      exact block
    rw [rawDiff_take present patch within, rawBlock, splits]
    dsimp only
    rw [decode_failed undecodable]
    rfl
  · rw [partition_cut present patch (not_lt.mp within)]
    rfl

end Parsing

section Programs

variable {R : Type} {machine : Machine R} {limits : GitProcessLimits} {timeout : ℚ}
    {world : GitWorld R}

theorem run_exits {arguments : List PyStr} {limit : Nat} {output : ByteArray}
    (positive : 0 < timeout)
    (ends : (machine.git world.processes arguments world.repository).2 = .exits 0 output) :
    run machine timeout arguments limit [0] world =
      (.ok ⟨0, bounded limit output⟩, processed machine arguments world) := by
  unfold run
  rw [if_neg (not_le.mpr positive), look_run]
  simp only [update_run]
  rw [ends]
  dsimp only
  rw [if_pos (List.mem_singleton.mpr rfl)]
  rfl

def SafePath (machine : Machine R) (repository : R) (path : PyStr) : Prop :=
  machine.allowed repository path = true ∧ Workspaces.asPosix (Workspaces.pathParts path) = path

instance (machine : Machine R) (repository : R) (path : PyStr) :
    Decidable (SafePath machine repository path) :=
  inferInstanceAs (Decidable (_ ∧ _))

def diffResult (machine : Machine R) (repository : R) (mode : GitDiffMode)
    (output : BoundedOutput) : Except Raised GitDiffResult :=
  match parseDiffOutput output.content with
  | .error raised => .error raised
  | .ok (patch, paths, insertions, deletions) =>
      let result : GitDiffResult :=
        ⟨mode, patch, paths, insertions, deletions, output.truncated, output.totalBytes⟩
      if ∀ path ∈ paths, SafePath machine repository path then
        if result.check = true then .ok result else .error .invalid
      else .error (failure .unsafePath)

theorem resolvePaths_cases (machine : Machine R) (world : GitWorld R) (paths : List PyStr) :
    resolvePaths machine paths world = (.error (failure .unsafePath), world) ∧
        (¬ ∀ path ∈ paths, SafePath machine world.repository path) ∨
      ∃ resolved, resolvePaths machine paths world = (.ok resolved, world) ∧
        (resolved = paths ↔ ∀ path ∈ paths, SafePath machine world.repository path) := by
  unfold resolvePaths
  rw [look_run]
  rcases spelled : paths.mapM fun path =>
      if machine.allowed world.repository path = true then
        Except.ok (Workspaces.asPosix (Workspaces.pathParts path))
      else .error (failure .unsafePath) with raised | resolved
  · rcases mapM_error spelled with ⟨path, among, raises⟩
    split at raises
    · cases raises
    · rename_i refused
      cases raises
      exact .inl ⟨rfl, fun safe => refused (safe path among).1⟩
  · refine .inr ⟨resolved, rfl, ?_⟩
    have pairs := mapM_related spelled
    clear spelled
    induction pairs with
    | nil => simp
    | cons first _ ih =>
        split at first
        · rename_i allowed
          cases first
          have later : _ ↔ _ := ih
          rw [List.cons.injEq, later, List.forall_mem_cons]
          unfold SafePath
          rw [and_iff_right allowed]
        · cases first

theorem diff_outcome {mode : GitDiffMode} {paths selected : List PyStr} {output : ByteArray}
    (managed : machine.managed world.repository = true) (positive : 0 < timeout)
    (resolved : resolvePaths machine paths world = (.ok selected, world))
    (ends : (machine.git world.processes (diffArguments mode selected) world.repository).2 =
      .exits 0 output) :
    (diff machine limits timeout mode paths world).1 =
      diffResult machine (processed machine (diffArguments mode selected) world).repository mode
        (bounded limits.diffBytes output) := by
  have repository : requireRepository machine world = (.ok (), world) := by
    unfold requireRepository
    rw [look_run, if_pos managed]
    rfl
  unfold diff diffResult
  rw [run_ok repository, run_ok resolved, run_ok (run_exits positive ends)]
  dsimp only
  rcases parsed : parseDiffOutput (bounded limits.diffBytes output).content with
    raised | ⟨patch, changed, insertions, deletions⟩
  · rfl
  · rw [resume_ok_run]
    dsimp only
    rcases resolvePaths_cases machine
      (processed machine (diffArguments mode selected) world) changed with
      ⟨refused, bad⟩ | ⟨spelled, resolves, same⟩
    · rw [run_error refused, if_neg bad]
    · rw [run_ok resolves]
      by_cases safe : ∀ path ∈ changed, SafePath machine
          (processed machine (diffArguments mode selected) world).repository path
      · rw [if_pos safe, if_neg (not_not.mpr (same.mpr safe))]
        split
        · rfl
        · rfl
      · rw [if_neg safe, if_pos fun equal => safe (same.mp equal)]
        rfl

end Programs

section Diffs

variable {R : Type} (machine : Machine R) (repository : R) (kept : Nat) (entries : List RawEntry)
  (patch : List UInt8)

/-- What is kept of a diff can be read: the cut is behind the records, it is between two characters,
and the paths are texts that may be shown. -/
def ReadableDiff : Prop :=
  (rawBlock entries).length < kept ∧ (∀ entry ∈ entries, Decodes entry.path) ∧
    Decodes (patch.take (kept - ((rawBlock entries).length + 1))) ∧
    ∀ entry ∈ entries, ∀ text, entry.path = Utf8.encode text →
    SafePath machine repository (points text)

def FittingDiff : Prop :=
  entries.length ≤ 128 ∧ (entries.map RawEntry.added).sum ≤ 10000000 ∧
    (entries.map RawEntry.removed).sum ≤ 10000000

def DiffCondition : Prop :=
  (kept < (rawDiff entries patch).length →
    ReadableDiff machine repository kept entries patch ∧ (rawDiff entries patch).length ≤ 4194304) ∧
  (ReadableDiff machine repository kept entries patch → FittingDiff entries)

theorem bounded_bytes (bytes : List UInt8) :
    bounded kept ⟨bytes.toArray⟩ = ⟨⟨(bytes.take kept).toArray⟩, bytes.length,
      decide (kept < bytes.length)⟩ := by
  have content : (⟨bytes.toArray⟩ : ByteArray).extract 0 kept = ⟨(bytes.take kept).toArray⟩ := by
    apply ByteArray.ext
    rw [ByteArray.data_extract]
    simp
  unfold bounded
  rw [content]
  rfl

theorem texts_added (texts : List NumstatEntry) :
    ((texts.map NumstatEntry.raw).map RawEntry.added).sum = insertionsOf texts := by
  rw [List.map_map]
  rfl

theorem texts_removed (texts : List NumstatEntry) :
    ((texts.map NumstatEntry.raw).map RawEntry.removed).sum = deletionsOf texts := by
  rw [List.map_map]
  rfl

theorem texts_paths (texts : List NumstatEntry) :
    (texts.map NumstatEntry.raw).mapM (fun entry => decode ⟨entry.path.toArray⟩) =
      .ok (pathsOf texts) := by
  induction texts with
  | nil => rfl
  | cons entry rest ih =>
      have path : decode ⟨entry.raw.path.toArray⟩ = .ok entry.path.points :=
        decode_printed entry.path.text
      rw [List.map_cons, List.mapM_cons, path, ih]
      rfl

theorem encode_length (text : List Char) : text.length ≤ (Utf8.encode text).length := by
  induction text with
  | nil => exact le_refl _
  | cons char rest ih =>
      have positive := char.utf8Size_pos
      rw [Utf8.encode_cons, List.length_append, String.length_utf8EncodeChar, List.length_cons]
      omega

variable {machine repository kept entries patch}

theorem diffResult_readable (mode : GitDiffMode)
    (readable : ReadableDiff machine repository kept entries patch) :
    ∃ texts shown, entries = texts.map NumstatEntry.raw ∧
    shown.length ≤ (rawDiff entries patch).length ∧
      diffResult machine repository mode (bounded kept ⟨(rawDiff entries patch).toArray⟩) =
        let result : GitDiffResult := ⟨mode, shown, pathsOf texts, insertionsOf texts,
          deletionsOf texts,
          decide (kept < (rawDiff entries patch).length), (rawDiff entries patch).length⟩
        if result.check = true then .ok result else .error .invalid := by
  rcases readable with ⟨within, decodes, ⟨text, shown⟩, safe⟩
  rcases raw_texts decodes with ⟨texts, rfl⟩
  have paths : ∀ path ∈ pathsOf texts, SafePath machine repository path := by
    intro path among
    rcases List.mem_map.mp among with ⟨entry, inside, rfl⟩
    exact safe entry.raw (List.mem_map_of_mem inside) entry.path.text rfl
  unfold diffResult
  rw [bounded_bytes]
  dsimp only
  rcases texts with _ | ⟨first, rest⟩
  · refine ⟨[], [], rfl, Nat.zero_le _, ?_⟩
    have empty : (rawDiff (([] : List NumstatEntry).map NumstatEntry.raw) patch).take kept = [] :=
      List.take_nil
    have parsed : parseDiffOutput ⟨([] : List UInt8).toArray⟩ = .ok ([], [], 0, 0) := rfl
    rw [empty, parsed]
    dsimp only
    rw [if_pos (by simp)]
    rfl
  · refine ⟨first :: rest, points text, rfl, ?_, ?_⟩
    · have length := encode_length text
      have bytes := congrArg List.length shown
      rw [List.length_take] at bytes
      have whole : (rawDiff ((first :: rest).map NumstatEntry.raw) patch).length =
          (rawBlock ((first :: rest).map NumstatEntry.raw)).length + (patch.length + 1) :=
            List.length_append
      rw [points, List.length_map]
      omega
    · have decoded : decode ⟨(Utf8.encode text).toArray⟩ = .ok (points text) := decode_printed text
      rw [parse_kept (first :: rest) (List.cons_ne_nil _ _) patch within, shown, decoded]
      show (if ∀ path ∈ pathsOf (first :: rest), SafePath machine repository path then _ else _) = _
      rw [if_pos paths]

theorem diffResult_unreadable (mode : GitDiffMode) (positive : 0 < kept) (present : entries ≠ [])
    (unreadable : ¬ ReadableDiff machine repository kept entries patch) :
    ∃ code, diffResult machine repository mode (bounded kept ⟨(rawDiff entries patch).toArray⟩) =
      .error (failure code) := by
  unfold diffResult
  rw [bounded_bytes]
  dsimp only
  by_cases block : (rawBlock entries).length < kept ∧ ∀ entry ∈ entries, Decodes entry.path
  · rcases raw_texts block.2 with ⟨texts, rfl⟩
    have some_ : texts ≠ [] := by
      rintro rfl
      exact present rfl
    rw [parse_kept texts some_ patch block.1]
    by_cases decodes :
    Decodes (patch.take (kept - ((rawBlock (texts.map NumstatEntry.raw)).length + 1)))
    · rcases decodes with ⟨text, shown⟩
      have decoded : decode ⟨(Utf8.encode text).toArray⟩ = .ok (points text) := decode_printed text
      rw [shown, decoded]
      refine ⟨.unsafePath, ?_⟩
      show (if ∀ path ∈ pathsOf texts, SafePath machine repository path then _ else _) = _
      rw [if_neg]
      intro safe
      refine unreadable ⟨block.1, block.2, ⟨text, shown⟩, ?_⟩
      intro entry among path same
      rcases List.mem_map.mp among with ⟨numstat, inside, rfl⟩
      rw [← Utf8.encode_injective (same : Utf8.encode numstat.path.text = Utf8.encode path)]
      exact safe _ (List.mem_map_of_mem inside)
    · rw [decode_failed decodes]
      exact ⟨.gitFailed, rfl⟩
  · rw [parse_broken positive present patch block]
    exact ⟨.gitFailed, rfl⟩

theorem honestDiff_nil (mode : GitDiffMode) :
    HonestDiff kept [] patch
      (diffResult machine repository mode (bounded kept ⟨(rawDiff [] patch).toArray⟩)) := by
  have empty : (rawDiff [] patch).take kept = [] := List.take_nil
  have parsed : parseDiffOutput ⟨([] : List UInt8).toArray⟩ = .ok ([], [], 0, 0) := rfl
  have valid : GitDiffResult.check ⟨mode, [], [], 0, 0, false, 0⟩ = true := rfl
  have outcome : diffResult machine repository mode (bounded kept ⟨(rawDiff [] patch).toArray⟩) =
      .ok ⟨mode, [], [], 0, 0, false, 0⟩ := by
    unfold diffResult
    rw [bounded_bytes]
    dsimp only
    rw [empty, parsed]
    dsimp only
    rw [if_pos (by simp)]
    exact if_pos valid
  rw [outcome]
  constructor
  · intro raised failed
    cases failed
  · intro cut
    exact absurd cut (Nat.not_lt_zero _)

/-- A diff is read honestly exactly under its condition. -/
theorem honestDiff_iff (mode : GitDiffMode) (positive : 0 < kept) (bound : kept ≤ 4194304) :
    HonestDiff kept entries patch
      (diffResult machine repository mode (bounded kept ⟨(rawDiff entries patch).toArray⟩)) ↔
      DiffCondition machine repository kept entries patch := by
  by_cases present : entries = []
  · subst present
    have fits : FittingDiff [] := by simp [FittingDiff]
    exact ⟨fun _ => ⟨fun cut => absurd cut (Nat.not_lt_zero _), fun _ => fits⟩,
      fun _ => honestDiff_nil mode⟩
  by_cases readable : ReadableDiff machine repository kept entries patch
  · rcases diffResult_readable mode readable with ⟨texts, shown, rfl, length, outcome⟩
    have within := readable.1
    have paths : (pathsOf texts).length = (texts.map NumstatEntry.raw).length := by
      rw [pathsOf, List.length_map, List.length_map]
    have fits : GitDiffResult.check ⟨mode, shown, pathsOf texts, insertionsOf texts,
        deletionsOf texts, decide (kept < (rawDiff (texts.map NumstatEntry.raw) patch).length),
        (rawDiff (texts.map NumstatEntry.raw) patch).length⟩ = true ↔
        FittingDiff (texts.map NumstatEntry.raw) ∧
          (rawDiff (texts.map NumstatEntry.raw) patch).length ≤ 4194304 := by
      unfold GitDiffResult.check FittingDiff
      rw [decide_eq_true_eq, texts_added, texts_removed]
      dsimp only
      rw [paths]
      omega
    dsimp only at outcome
    split at outcome
    · rename_i checked
      have bounds := fits.mp checked
      rw [outcome]
      refine ⟨fun _ => ⟨fun _ => ⟨readable, bounds.2⟩, fun _ => bounds.1⟩,
        fun _ => ⟨?_, fun cut => ?_⟩⟩
      · intro raised failed
        cases failed
      · refine ⟨_, rfl, decide_eq_true cut, ?_⟩
        rw [complete_all within.le]
        exact ⟨texts_paths texts, (texts_added texts).symm, (texts_removed texts).symm⟩
    · rename_i refused
      rw [outcome]
      constructor
      · intro honest
        rcases honest.1 .invalid rfl with ⟨code, same⟩
        cases same
      · intro condition
        have size : (rawDiff (texts.map NumstatEntry.raw) patch).length ≤ 4194304 := by
          by_cases cut : kept < (rawDiff (texts.map NumstatEntry.raw) patch).length
          · exact (condition.1 cut).2
          · omega
        exact absurd (fits.mpr ⟨condition.2 readable, size⟩) refused
  · rcases diffResult_unreadable mode positive present readable with ⟨code, outcome⟩
    unfold HonestDiff
    rw [honest_error outcome]
    constructor
    · exact fun whole => ⟨fun cut => absurd cut whole, fun held => absurd held readable⟩
    · exact fun condition cut => readable (condition.1 cut).1

end Diffs

section Histories

def commitsOf (aware : PyStr → Bool) (pieces : List PyStr) :
    Except Raised (List GitCommitSummary) :=
  ((pieces.map stripNewlines).filter fun record => !record.isEmpty).mapM (commitSummary aware)

def recordCount (pieces : List PyStr) : Nat :=
  ((pieces.map stripNewlines).filter fun record => !record.isEmpty).length

/-- The condition under which a history is read honestly. Where it is cut, the cut is between two
characters, every piece that is kept reads as a commit, and what the cut has left of a record is not
in the page. -/
def HistoryCondition (aware : PyStr → Bool) (kept : Nat) (request : GitHistoryRequest)
    (output : List UInt8) : Prop :=
  kept < output.length → ∃ text, output.take kept = Utf8.encode text ∧
    (∀ piece ∈ (points text).splitOn 0x1E, stripNewlines piece ≠ [] →
      ∃ commit, commitSummary aware (stripNewlines piece) = .ok commit) ∧
    (output[kept]? = some 0x1E ∨ recordCount (((points text).splitOn 0x1E).getLast?.toList) = 0 ∨
      request.limit ≤ recordCount ((points text).splitOn 0x1E).dropLast) ∧
    output.length ≤ 1048576

variable {aware : PyStr → Bool}

theorem commitsOf_ok {pieces : List PyStr} :
    (∃ commits, commitsOf aware pieces = .ok commits) ↔
      ∀ piece ∈ pieces, stripNewlines piece ≠ [] →
      ∃ commit, commitSummary aware (stripNewlines piece) = .ok commit := by
  constructor
  · rintro ⟨commits, read⟩ piece among some_
    have kept : stripNewlines piece ∈ (pieces.map stripNewlines).filter fun record =>
        !record.isEmpty :=
      List.mem_filter.mpr ⟨List.mem_map_of_mem among, by simpa using some_⟩
    exact mapM_accepts read _ kept
  · intro each
    have records : ∀ record ∈ (pieces.map stripNewlines).filter fun record => !record.isEmpty,
        ∃ commit, commitSummary aware record = .ok commit ∧ True := by
      intro record among
      rcases List.mem_filter.mp among with ⟨inside, some_⟩
      rcases List.mem_map.mp inside with ⟨piece, own, rfl⟩
      rcases each piece own (by simpa using some_) with ⟨commit, reads⟩
      exact ⟨commit, reads, trivial⟩
    rcases mapM_validates records with ⟨commits, read, _⟩
    exact ⟨commits, read⟩

theorem commitSummary_check {record : PyStr} {commit : GitCommitSummary}
    (read : commitSummary aware record = .ok commit) : commit.check = true := by
  unfold commitSummary at read
  split at read
  · dsimp only at read
    split at read
    · rename_i valid
      cases read
      exact valid.2
    · cases read
  · cases read

theorem commitsOf_check {pieces : List PyStr} {commits : List GitCommitSummary}
    (read : commitsOf aware pieces = .ok commits) : ∀ commit ∈ commits, commit.check = true := by
  intro commit among
  rcases related_mem (mapM_related read) among with ⟨record, _, reads⟩
  exact commitSummary_check reads

theorem commitsOf_length {pieces : List PyStr} {commits : List GitCommitSummary}
    (read : commitsOf aware pieces = .ok commits) : commits.length = recordCount pieces :=
  (mapM_related read).length_eq.symm

theorem commitsOf_append {front back : List PyStr} {commits : List GitCommitSummary}
    (read : commitsOf aware (front ++ back) = .ok commits) :
    ∃ first second, commitsOf aware front = .ok first ∧ commitsOf aware back = .ok second ∧
      commits = first ++ second := by
  unfold commitsOf at read ⊢
  rw [List.map_append, List.filter_append, List.mapM_append] at read
  rcases bind_ok read with ⟨first, front, rest⟩
  rcases bind_ok rest with ⟨second, back, same⟩
  cases same
  exact ⟨first, second, front, back, rfl⟩

theorem commitsOf_error {pieces : List PyStr} {raised : Raised}
    (failed : commitsOf aware pieces = .error raised) :
    raised = failure .gitFailed := by
  rcases mapM_error failed with ⟨record, _, refused⟩
  unfold commitSummary at refused
  split at refused
  · dsimp only at refused
    split at refused
    · cases refused
    · cases refused
      rfl
  · cases refused
    rfl

theorem record_marked : String.utf8EncodeChar '\x1e' = [0x1E] := rfl

theorem decode_texts (texts : List (List Char)) :
    (texts.map Utf8.encode).mapM (fun piece => decode ⟨piece.toArray⟩) =
      .ok (texts.map points) := by
  induction texts with
  | nil => rfl
  | cons text rest ih =>
      have first : decode ⟨(Utf8.encode text).toArray⟩ = .ok (points text) := decode_printed text
      rw [List.map_cons, List.mapM_cons, first, ih]
      rfl

theorem readCommits_complete {kept : Nat} {output : List UInt8} {text : List Char}
    (decoded : output.take kept = Utf8.encode text) :
    readCommits aware (completePieces kept output) =
      commitsOf aware (if output[kept]? = some 0x1E then (points text).splitOn 0x1E
        else ((points text).splitOn 0x1E).dropLast) := by
  have pieces : (points text).splitOn 0x1E = (text.splitOn '\x1e').map points :=
    points_splitOn '\x1e' text
  unfold readCommits completePieces
  rw [decoded, Utf8.encode_splitOn record_marked, pieces]
  split
  · rw [decode_texts]
    rfl
  · rw [← List.map_dropLast, ← List.map_dropLast, decode_texts]
    rfl

theorem take_front {α : Type} (first second : List α) (count : Nat) :
    (first ++ second).take count = first.take count ↔ second.length = 0 ∨ count ≤ first.length := by
  rw [List.take_append]
  constructor
  · intro same
    have rest := congrArg List.length (List.append_right_eq_self.mp same)
    rw [List.length_take, List.length_nil] at rest
    omega
  · intro fits
    have none_ : second.take (count - first.length) = [] := by
      rw [← List.length_eq_zero_iff, List.length_take]
      omega
    rw [none_, List.append_nil]

theorem historyPage_read {R : Type} (machine : Machine R) {kept : Nat} (request : GitHistoryRequest)
    {output : List UInt8} {text : List Char} (decoded : output.take kept = Utf8.encode text)
    {commits : List GitCommitSummary}
    (read : commitsOf machine.aware ((points text).splitOn 0x1E) = .ok commits) :
    ∃ hasMore, (kept < output.length → hasMore = true) ∧
      historyPage machine request (bounded kept ⟨output.toArray⟩) =
        if output.length ≤ 1048576 then
          .ok ⟨commits.take request.limit, request.offset, hasMore, decide (kept < output.length),
            output.length⟩
        else .error .invalid := by
  have bytes : decode ⟨(Utf8.encode text).toArray⟩ = .ok (points text) := decode_printed text
  have parsed : parseHistory machine.aware (points text) = .ok commits := read
  have shown :
    (if decide (kept < output.length) = true then commits.take request.limit else commits).take
      request.limit = commits.take request.limit := by
    split
    · rw [List.take_take, min_self]
    · rfl
  refine ⟨decide (request.limit <
    (if decide (kept < output.length) = true then commits.take request.limit
    else commits).length) || decide (kept < output.length), ?_, ?_⟩
  · intro cut
    rw [decide_eq_true cut, Bool.or_true]
  · have valid (hasMore truncated : Bool) : GitHistoryResult.check
        ⟨commits.take request.limit, request.offset, hasMore, truncated, output.length⟩ = true ↔
          output.length ≤ 1048576 := by
      have offset := request.offset_valid
      have limit := request.limit_valid
      have each : (commits.take request.limit).all GitCommitSummary.check = true := by
        rw [List.all_eq_true]
        exact fun commit among => commitsOf_check read commit (List.mem_of_mem_take among)
      unfold GitHistoryResult.check
      dsimp only
      rw [each, Bool.true_and, decide_eq_true_eq, List.length_take]
      omega
    unfold historyPage
    rw [bounded_bytes, decoded]
    dsimp only
    rw [bytes]
    show (parseHistory machine.aware (points text) >>= _) = _
    rw [parsed]
    show (if GitHistoryResult.check ⟨List.take request.limit (if _ then _ else _), _, _, _,
      _⟩ = true then
      Except.ok (GitHistoryResult.mk _ _ _ _ _) else _) = _
    rw [shown]
    exact if_congr (valid _ _) rfl rfl

theorem historyPage_refused {R : Type} (machine : Machine R) {kept : Nat}
    (request : GitHistoryRequest)
    {output : List UInt8} {text : List Char} (decoded : output.take kept = Utf8.encode text)
    {raised : Raised}
    (read : commitsOf machine.aware ((points text).splitOn 0x1E) = .error raised) :
    historyPage machine request (bounded kept ⟨output.toArray⟩) = .error (failure .gitFailed) := by
  have bytes : decode ⟨(Utf8.encode text).toArray⟩ = .ok (points text) := decode_printed text
  have parsed : parseHistory machine.aware (points text) = .error raised := read
  unfold historyPage
  rw [bounded_bytes, decoded]
  dsimp only
  rw [bytes]
  show (parseHistory machine.aware (points text) >>= _) = _
  rw [parsed, commitsOf_error read]
  rfl

theorem split_last {α : Type} (items : List α) : items = items.dropLast ++
    items.getLast?.toList := by
  rcases found : items.getLast? with _ | last
  · rw [List.getLast?_eq_none_iff.mp found]
    rfl
  · exact (List.dropLast_append_getLast? last found).symm

theorem page_complete {kept : Nat} {output : List UInt8} {text : List Char}
    (decoded : output.take kept = Utf8.encode text) (count : Nat) {commits : List GitCommitSummary}
    (read : commitsOf aware ((points text).splitOn 0x1E) = .ok commits) :
    (∃ done, readCommits aware (completePieces kept output) = .ok done ∧
      commits.take count = done.take count) ↔
      (output[kept]? = some 0x1E ∨ recordCount (((points text).splitOn 0x1E).getLast?.toList) = 0 ∨
        count ≤ recordCount ((points text).splitOn 0x1E).dropLast) := by
  rw [readCommits_complete decoded]
  by_cases behind : output[kept]? = some 0x1E
  · rw [if_pos behind]
    exact ⟨fun _ => .inl behind, fun _ => ⟨commits, read, rfl⟩⟩
  · rw [if_neg behind, or_iff_right behind]
    have parts := read
    rw [split_last ((points text).splitOn 0x1E)] at parts
    rcases commitsOf_append parts with ⟨first, second, front, back, rfl⟩
    rw [← commitsOf_length front, ← commitsOf_length back, ← take_front]
    constructor
    · intro shown
      rcases shown with ⟨done, reads, same⟩
      rw [front] at reads
      cases reads
      exact same
    · exact fun same => ⟨first, front, same⟩

/-- A history is read honestly exactly under its condition. -/
theorem honestHistory_iff {R : Type} (machine : Machine R) {kept : Nat} (bound : kept ≤ 1048576)
    (request : GitHistoryRequest) (output : List UInt8) :
    HonestHistory machine.aware kept request output
      (historyPage machine request (bounded kept ⟨output.toArray⟩)) ↔
      HistoryCondition machine.aware kept request output := by
  by_cases decodes : Decodes (output.take kept)
  · rcases decodes with ⟨text, decoded⟩
    rcases read : commitsOf machine.aware ((points text).splitOn 0x1E) with raised | commits
    · have outcome := historyPage_refused machine request decoded read
      unfold HonestHistory
      rw [honest_error outcome]
      constructor
      · exact fun whole cut => absurd cut whole
      · intro condition cut
        rcases condition cut with ⟨other, same, each, _⟩
        rw [← Utf8.encode_injective (decoded.symm.trans same)] at each
        rcases commitsOf_ok.mpr each with ⟨commits, reads⟩
        rw [read] at reads
        cases reads
    · rcases historyPage_read machine request decoded read with ⟨hasMore, more, outcome⟩
      have whole : (∀ piece ∈ (points text).splitOn 0x1E, stripNewlines piece ≠ [] →
          ∃ commit, commitSummary machine.aware (stripNewlines piece) = .ok commit) :=
            commitsOf_ok.mp ⟨commits, read⟩
      rw [outcome]
      constructor
      · intro honest cut
        split at honest
        · rename_i short
          rcases honest.2 cut with ⟨page, same, _, _, done, reads, shown⟩
          cases same
          exact ⟨text, decoded, whole,
            (page_complete decoded request.limit read).mp ⟨done, reads, shown⟩, short⟩
        · rcases honest.1 .invalid rfl with ⟨code, same⟩
          cases same
      · intro condition
        by_cases cut : kept < output.length
        · rcases condition cut with ⟨other, same, _, left, short⟩
          rw [← Utf8.encode_injective (decoded.symm.trans same)] at left
          rcases (page_complete decoded request.limit read).mpr left with ⟨done, reads, shown⟩
          rw [if_pos short]
          refine ⟨?_, fun _ => ⟨_, rfl, decide_eq_true cut, more cut, done, reads, shown⟩⟩
          intro raised failed
          cases failed
        · rw [if_pos (by omega)]
          refine ⟨?_, fun other => absurd other cut⟩
          intro raised failed
          cases failed
  · have outcome : historyPage machine request (bounded kept ⟨output.toArray⟩) = .error
        (failure .gitFailed) := by
      unfold historyPage
      rw [bounded_bytes]
      dsimp only
      rw [decode_failed decodes]
      rfl
    unfold HonestHistory
    rw [honest_error outcome]
    constructor
    · exact fun whole cut => absurd cut whole
    · intro condition cut
      rcases condition cut with ⟨text, decoded, _⟩
      exact decodes ⟨text, decoded⟩

end Histories

section Reads

variable {R : Type} {machine : Machine R} {limits : GitProcessLimits} {timeout : ℚ}
    {world : GitWorld R}

theorem history_outcome {request : GitHistoryRequest} {output : ByteArray}
    (managed : machine.managed world.repository = true) (positive : 0 < timeout)
    (ends : (machine.git world.processes (historyArguments request) world.repository).2 =
      .exits 0 output) :
    (history machine limits timeout request world).1 =
      historyPage machine request (bounded limits.historyBytes output) := by
  have repository : requireRepository machine world = (.ok (), world) := by
    unfold requireRepository
    rw [look_run, if_pos managed]
    rfl
  unfold history
  rw [run_ok repository, run_ok (run_exits positive ends)]
  rcases historyPage machine request (bounded limits.historyBytes output) with raised | page
  · rfl
  · rfl

/-- Every diff, and every history, that git prints is read honestly exactly under its condition. -/
theorem bounded_reads_exact {R : Type} (machine : Machine R) (limits : GitProcessLimits)
    (timeout : ℚ)
    (world : GitWorld R) (managed : machine.managed world.repository = true)
    (positive : 0 < timeout)
    (diffBound : limits.diffBytes ≤ 4194304) (historyBound : limits.historyBytes ≤ 1048576) :
    (∀ (mode : GitDiffMode) (paths selected : List PyStr) (entries : List RawEntry)
      (patch : List UInt8), resolvePaths machine paths world = (.ok selected, world) →
      (machine.git world.processes (diffArguments mode selected) world.repository).2 =
        .exits 0 ⟨(rawDiff entries patch).toArray⟩ →
      (HonestDiff limits.diffBytes entries patch (diff machine limits timeout mode paths world).1 ↔
        DiffCondition machine (processed machine (diffArguments mode selected) world).repository
          limits.diffBytes entries patch)) ∧
    ∀ (request : GitHistoryRequest) (output : List UInt8),
      (machine.git world.processes (historyArguments request) world.repository).2 = .exits 0
        ⟨output.toArray⟩ →
      (HonestHistory machine.aware limits.historyBytes request output
        (history machine limits timeout request world).1 ↔
        HistoryCondition machine.aware limits.historyBytes request output) := by
  have some_ : 0 < limits.diffBytes := by
    have least := limits.bytes_valid limits.diffBytes (by simp)
    omega
  constructor
  · intro mode paths selected entries patch resolved ends
    rw [diff_outcome managed positive resolved ends]
    exact honestDiff_iff mode some_ diffBound
  · intro request output ends
    rw [history_outcome managed positive ends]
    exact honestHistory_iff machine historyBound request output

end Reads

section Sample

def readMachine (output : List UInt8) : Machine Unit where
  git := fun _ _ _ => ((), .exits 0 ⟨output.toArray⟩)
  managed := fun _ => true
  allowed := fun _ _ => true
  marks := fun _ => {}
  aware := fun _ => true

def samplePage : GitHistoryRequest := ⟨0, 20, by decide, by decide⟩

def sampleCommit : List Char :=
  List.replicate 40 'a' ++ '\x1f' :: List.replicate 40 'b' ++
    "\x1fs\x1fa\x1f2024-01-01T00:00:00+00:00\x1e\n".toList

def sampleRaw : RawEntry := ⟨some (1, 0), [0x66], by decide, by decide, by decide⟩

theorem encode_replicate (count : Nat) :
    Utf8.encode (List.replicate count 'x') = List.replicate count 0x78 := by
  induction count with
  | zero => rfl
  | succ count ih =>
      rw [List.replicate_succ, Utf8.encode_cons, ih]
      rfl

theorem sampleRaw_length (count : Nat) :
    (rawDiff [sampleRaw] (List.replicate count 0x78)).length = count + 7 := by
  have block : (rawBlock [sampleRaw]).length = 6 := by decide
  show (rawBlock [sampleRaw] ++ 0 :: List.replicate count 0x78).length = _
  rw [List.length_append, block, List.length_cons, List.length_replicate]
  omega

theorem sampleRaw_readable (output : List UInt8) (count : Nat) :
    ReadableDiff (readMachine output) () 1024 [sampleRaw] (List.replicate count 0x78) := by
  have path : sampleRaw.path = Utf8.encode ['f'] := rfl
  refine ⟨by decide, ?_, ?_, ?_⟩
  · intro entry among
    rw [List.mem_singleton.mp among]
    exact ⟨['f'], path⟩
  · rw [List.take_replicate, ← encode_replicate]
    exact ⟨_, rfl⟩
  · intro entry among text same
    rw [List.mem_singleton.mp among, path] at same
    rw [← Utf8.encode_injective same]
    exact ⟨rfl, by decide⟩

theorem bounded_reads_sample :
    HonestDiff 1024 [sampleRaw] (List.replicate 2000 0x78)
      (diff (readMachine (rawDiff [sampleRaw] (List.replicate 2000 0x78))) sampleLimits 1 .worktree
        [] ⟨(), 0⟩).1 := by
  have exact_ := bounded_reads_exact (readMachine (rawDiff [sampleRaw] (List.replicate 2000 0x78)))
    sampleLimits 1 ⟨(), 0⟩ rfl one_pos (by decide) (by decide)
  refine (exact_.1 .worktree [] [] [sampleRaw] (List.replicate 2000 0x78) rfl rfl).mpr
    ⟨fun _ => ⟨?_, ?_⟩, fun _ => ?_⟩
  · exact sampleRaw_readable _ 2000
  · rw [sampleRaw_length]
    omega
  · exact ⟨by decide, by decide, by decide⟩

/-- A history is refused where the cut falls inside a record, and a diff raises what is not expected
where it is too long. -/
theorem bounded_reads_fail :
    (history (readMachine (Utf8.encode (List.replicate 10 sampleCommit).flatten))
      sampleLimits 1 samplePage ⟨(), 0⟩).1 = .error (failure .gitFailed) ∧
    (diff (readMachine (rawDiff [sampleRaw] (List.replicate 5000000 0x78))) sampleLimits 1 .worktree
      [] ⟨(), 0⟩).1 = .error .invalid := by
  constructor
  · rw [history_outcome rfl one_pos rfl]
    have decoded :
      (Utf8.encode (List.replicate 10 sampleCommit).flatten).take sampleLimits.historyBytes =
        Utf8.encode ((List.replicate 10 sampleCommit).flatten.take 1024) := by decide +kernel
    have among : (0x0A :: List.replicate 7 0x61 : PyStr) ∈
        (points ((List.replicate 10 sampleCommit).flatten.take 1024)).splitOn 0x1E := by decide
    rcases read :
      commitsOf (fun _ => true)
      ((points ((List.replicate 10 sampleCommit).flatten.take 1024)).splitOn 0x1E)
      with raised | commits
    · exact historyPage_refused _ samplePage decoded read
    · rcases commitsOf_ok.mp ⟨commits, read⟩ _ among (by decide) with ⟨commit, reads⟩
      cases reads
  · rw [diff_outcome rfl one_pos rfl rfl]
    rcases diffResult_readable .worktree (sampleRaw_readable
      (rawDiff [sampleRaw] (List.replicate 5000000 0x78)) 5000000)
        with ⟨texts, shown, _, _, outcome⟩
    refine outcome.trans (if_neg ?_)
    unfold GitDiffResult.check
    rw [decide_eq_true_eq, sampleRaw_length]
    dsimp only
    omega

end Sample

end SynapseOS.LocalGit
