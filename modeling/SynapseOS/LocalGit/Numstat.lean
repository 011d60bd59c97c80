import SynapseOS.LocalGit.Bytes
import SynapseOS.LocalGit.Preparation
import SynapseOS.LocalGit.Rollback

/-! The two readers of the counts that git reports of a diff (`infrastructure/git/local.py`). -/

namespace SynapseOS.LocalGit

open Execution Program

/-- What git reports of a changed file: the lines added and removed, which a binary file has not. -/
structure NumstatEntry where
  counts : Option (Nat × Nat)
  path : ReportedPath
  small : ∀ pair ∈ counts, pair.1 < 2 ^ 64 ∧ pair.2 < 2 ^ 64

namespace NumstatEntry

def added (entry : NumstatEntry) : Nat := (entry.counts.map Prod.fst).getD 0

def removed (entry : NumstatEntry) : Nat := (entry.counts.map Prod.snd).getD 0

/-- The record of a file: `added\tremoved\tpath`, with dashes for a binary file. -/
def record (entry : NumstatEntry) : List Char :=
  match entry.counts with
  | none => ['-'] ++ '\t' :: (['-'] ++ '\t' :: entry.path.text)
  | some (added, removed) => decimal added ++ '\t' :: (decimal removed ++ '\t' :: entry.path.text)

end NumstatEntry

def numstatText (entries : List NumstatEntry) : List Char :=
  terminated (entries.map NumstatEntry.record)

/-- `git diff --patch --numstat -z`: a NUL stands between the records and the patch. -/
def diffText (entries : List NumstatEntry) (patch : List Char) : List Char :=
  match entries with
  | [] => []
  | _ => numstatText entries ++ '\x00' :: patch

def namesText (entries : List NumstatEntry) : List Char :=
  terminated (entries.map fun entry => entry.path.text)

def pathsOf (entries : List NumstatEntry) : List PyStr := entries.map fun entry => entry.path.points

def insertionsOf (entries : List NumstatEntry) : Nat := (entries.map NumstatEntry.added).sum

def deletionsOf (entries : List NumstatEntry) : Nat := (entries.map NumstatEntry.removed).sum

def Textual (entries : List NumstatEntry) : Prop := ∀ entry ∈ entries, entry.counts ≠ none

section Records

theorem tab_decimal (value : Nat) : (0x09 : Nat) ∉ points (decimal value) := by
  intro among
  rcases List.mem_map.mp among with ⟨char, inside, same⟩
  have digit := decimal_digit inside
  omega

theorem nul_record (entry : NumstatEntry) : '\x00' ∉ entry.record := by
  have path := entry.path.whole
  unfold NumstatEntry.record
  split
  · simpa using path
  · rename_i added removed _
    simpa [nul_decimal] using path

theorem record_some (entry : NumstatEntry) : entry.record ≠ [] := by
  unfold NumstatEntry.record
  split
  · exact List.cons_ne_nil _ _
  · simp

variable {entry : NumstatEntry}

theorem record_counted {added removed : Nat} (counted : entry.counts = some (added, removed)) :
    splitTwice 0x09 (points entry.record) =
      [points (decimal added), points (decimal removed), entry.path.points] := by
  unfold NumstatEntry.record
  rw [counted]
  dsimp only
  rw [points_append, points_cons '\t', points_append, points_cons '\t']
  exact splitTwice_three 0x09 _ (tab_decimal added) (tab_decimal removed)

theorem record_binary (binary : entry.counts = none) :
    splitTwice 0x09 (points entry.record) = [.ofString "-", .ofString "-", entry.path.points] := by
  unfold NumstatEntry.record
  rw [binary]
  dsimp only
  rw [points_append, points_cons '\t', points_append, points_cons '\t']
  exact splitTwice_three 0x09 _ (by decide) (by decide)

theorem path_points_some (entry : NumstatEntry) : entry.path.points ≠ [] := by
  intro empty
  exact entry.path.some_ (List.map_eq_nil_iff.mp empty)

theorem decimal_dash (value : Nat) : points (decimal value) ≠ .ofString "-" := by
  intro same
  have among : (0x2D : Nat) ∈ points (decimal value) := by
    rw [same, ofString_points]
    decide
  rcases List.mem_map.mp among with ⟨char, inside, dash⟩
  have digit := decimal_digit inside
  omega

theorem numstatRecord_record (entry : NumstatEntry) :
    numstatRecord (points entry.record) = some (entry.path.points, entry.added, entry.removed) := by
  unfold numstatRecord NumstatEntry.added NumstatEntry.removed
  rcases counts : entry.counts with _ | ⟨added, removed⟩
  · rw [record_binary counts]
    dsimp only
    rw [if_neg (path_points_some entry), if_pos ⟨rfl, rfl⟩]
    rfl
  · have small := entry.small (added, removed) counts
    rw [record_counted counts]
    dsimp only
    rw [if_neg (path_points_some entry), if_neg fun same => decimal_dash added same.1,
      digits_decimal small.1, digits_decimal small.2]
    rfl

theorem countedRecord_counted (counted : entry.counts ≠ none) :
    countedRecord (points entry.record) = .ok (entry.path.points, entry.added, entry.removed) := by
  unfold countedRecord NumstatEntry.added NumstatEntry.removed
  rcases counts : entry.counts with _ | ⟨added, removed⟩
  · exact absurd counts counted
  · have small := entry.small (added, removed) counts
    rw [record_counted counts]
    dsimp only
    rw [digits_decimal small.1, digits_decimal small.2]
    rfl

theorem countedRecord_binary (binary : entry.counts = none) :
    countedRecord (points entry.record) = .error (failure .gitFailed) := by
  unfold countedRecord
  rw [record_binary binary]
  rfl

end Records

section Blocks

variable {entries : List NumstatEntry}

theorem numstat_pieces (entries : List NumstatEntry) :
    ((points (numstatText entries)).splitOn 0).filter (fun record => !record.isEmpty) =
      entries.map fun entry => points entry.record := by
  unfold numstatText
  rw [terminated_pieces, List.map_map]
  · rfl
  · intro record among
    rcases List.mem_map.mp among with ⟨entry, _, rfl⟩
    exact nul_record entry
  · intro record among
    rcases List.mem_map.mp among with ⟨entry, _, rfl⟩
    exact record_some entry

theorem front_pieces {front : List Char} (block : numstatText entries = front ++ ['\x00']) :
    ((points front).splitOn 0).filter (fun record => !record.isEmpty) =
      entries.map fun entry => points entry.record := by
  have pieces := numstat_pieces entries
  rw [block, points_append] at pieces
  change (List.splitOn 0 (points front ++ 0 :: [])).filter _ = _ at pieces
  rw [List.splitOn_append_cons_self, List.filter_append] at pieces
  simpa using pieces

theorem partition_block (present : entries ≠ []) :
    ∃ front, numstatText entries = front ++ ['\x00'] ∧ ∀ patch,
      partitionZeros (Utf8.encode (numstatText entries) ++ 0 :: patch) =
        some (Utf8.encode front, patch) := by
  have whole : ∀ record ∈ (entries.map NumstatEntry.record).map Utf8.encode, record ≠ [] ∧
      0 ∉ record := by
    intro record among
    rcases List.mem_map.mp among with ⟨text, inside, rfl⟩
    rcases List.mem_map.mp inside with ⟨entry, _, rfl⟩
    exact ⟨fun empty => record_some entry (Utf8.encode_eq_nil.mp empty),
      nul_bytes (nul_record entry)⟩
  rcases partition_records (by simpa using present) whole with ⟨front, block, splits⟩
  rw [← encode_terminated] at block splits
  rcases Utf8.encode_split nul_marked block with ⟨before, after, text, rfl, rest⟩
  rw [Utf8.encode_eq_nil.mp rest.symm] at text
  exact ⟨before, text, splits⟩

end Blocks

section Readers

variable (entries : List NumstatEntry)

def NumstatEntry.triple (entry : NumstatEntry) : PyStr × Nat × Nat :=
  (entry.path.points, entry.added, entry.removed)

theorem triples_paths :
    (entries.map NumstatEntry.triple).map (fun triple => triple.1) = pathsOf entries := by
  rw [List.map_map]
  rfl

theorem triples_added :
    ((entries.map NumstatEntry.triple).map fun triple => triple.2.1).sum =
      insertionsOf entries := by
  rw [List.map_map]
  rfl

theorem triples_removed :
    ((entries.map NumstatEntry.triple).map fun triple => triple.2.2).sum = deletionsOf entries := by
  rw [List.map_map]
  rfl

theorem mapM_numstatRecord : (entries.map fun entry => points entry.record).mapM numstatRecord =
    some (entries.map NumstatEntry.triple) := by
  induction entries with
  | nil => rfl
  | cons entry rest ih =>
      rw [List.map_cons, List.mapM_cons, numstatRecord_record, ih]
      rfl

theorem mapM_countedRecord (textual : Textual entries) :
    (entries.map fun entry => points entry.record).mapM countedRecord =
      .ok (entries.map NumstatEntry.triple) := by
  induction entries with
  | nil => rfl
  | cons entry rest ih =>
      rw [List.map_cons, List.mapM_cons, countedRecord_counted (textual entry List.mem_cons_self),
        ih fun other among => textual other (List.mem_cons_of_mem _ among)]
      rfl

def shownPatch (patch : List Char) : PyStr :=
  match entries with
  | [] => []
  | _ => points patch

theorem parseDiffOutput_block {entries : List NumstatEntry} (present : entries ≠ [])
    (patch : List UInt8) :
    parseDiffOutput ⟨(Utf8.encode (numstatText entries) ++ 0 :: patch).toArray⟩ =
      (decode ⟨patch.toArray⟩).map fun shown =>
        (shown, pathsOf entries, insertionsOf entries, deletionsOf entries) := by
  rcases partition_block present with ⟨front, block, splits⟩
  have size : (⟨(Utf8.encode (numstatText entries) ++ 0 :: patch).toArray⟩ : ByteArray).size ≠
      0 := by
    show (Utf8.encode (numstatText entries) ++ 0 :: patch).toArray.size ≠ 0
    simp
  have decoded : decode ⟨(Utf8.encode front).toArray⟩ = .ok (points front) := decode_printed front
  unfold parseDiffOutput
  rw [if_neg size]
  dsimp only
  rw [splits patch]
  dsimp only
  rw [decoded]
  rcases read : decode ⟨patch.toArray⟩ with raised | shown
  · rfl
  · dsimp only [bind, Except.bind]
    rw [front_pieces block, mapM_numstatRecord]
    dsimp only
    rw [triples_paths, triples_added, triples_removed]
    rfl

theorem parseDiffOutput_reads (patch : List Char) :
    parseDiffOutput (printed (diffText entries patch)) =
      .ok (shownPatch entries patch, pathsOf entries, insertionsOf entries,
        deletionsOf entries) := by
  cases entries with
  | nil => rfl
  | cons entry rest =>
      have bytes : printed (diffText (entry :: rest) patch) =
          ⟨(Utf8.encode (numstatText (entry :: rest)) ++ 0 :: Utf8.encode patch).toArray⟩ :=
        congrArg (fun bytes : List UInt8 => (⟨bytes.toArray⟩ : ByteArray))
          (Utf8.encode_join nul_marked (numstatText (entry :: rest)) patch)
      have shown : decode ⟨(Utf8.encode patch).toArray⟩ = .ok (points patch) := decode_printed patch
      rw [bytes, parseDiffOutput_block (List.cons_ne_nil entry rest), shown]
      rfl

theorem parseNumstat_textual (textual : Textual entries) :
    parseNumstat (printed (numstatText entries)) (pathsOf entries) =
      .ok (insertionsOf entries, deletionsOf entries) := by
  unfold parseNumstat
  rw [decode_printed]
  show ((((points (numstatText entries)).splitOn 0).filter fun record => !record.isEmpty).mapM
    countedRecord >>= fun entries => _) = _
  rw [numstat_pieces, mapM_countedRecord entries textual]
  show (if _ = _ then _ else _) = _
  rw [triples_paths, triples_added, triples_removed, if_pos rfl]
  rfl

theorem parseNumstat_binary (binary : ¬ Textual entries) (expected : List PyStr) :
    ∃ raised, parseNumstat (printed (numstatText entries)) expected = .error raised := by
  have found : ∃ entry ∈ entries, entry.counts = none := by
    by_contra every
    exact binary fun entry among lacking => every ⟨entry, among, lacking⟩
  rcases found with ⟨entry, among, lacking⟩
  have inside := List.mem_map_of_mem (f := fun entry => points entry.record) among
  rcases mapM_raises inside (countedRecord_binary lacking) with ⟨raised, failed⟩
  refine ⟨raised, ?_⟩
  unfold parseNumstat
  rw [decode_printed]
  show ((((points (numstatText entries)).splitOn 0).filter fun record => !record.isEmpty).mapM
    countedRecord >>= fun entries => _) = _
  rw [numstat_pieces, failed]
  rfl

def ReadersAgree (patch : List Char) : Prop :=
  ∃ insertions deletions,
    parseNumstat (printed (numstatText entries)) (pathsOf entries) = .ok (insertions, deletions) ∧
      parseDiffOutput (printed (diffText entries patch)) =
        .ok (shownPatch entries patch, pathsOf entries, insertions, deletions)

theorem readersAgree_iff (patch : List Char) : ReadersAgree entries patch ↔ Textual entries := by
  constructor
  · intro agree
    rcases agree with ⟨insertions, deletions, read, _⟩
    by_contra binary
    rcases parseNumstat_binary entries binary (pathsOf entries) with ⟨raised, failed⟩
    rw [failed] at read
    cases read
  · intro textual
    exact ⟨_, _, parseNumstat_textual entries textual, parseDiffOutput_reads entries patch⟩

end Readers

def Reads {R α : Type} (repository : R) (body : GitProgram R α) (value : α) : Prop :=
  ∀ n, ∃ m, body ⟨repository, n⟩ = (.ok value, ⟨repository, m⟩)

/-- What git tells of a task branch and its base besides the counts of the diff between them. -/
structure BranchFacts where
  status : GitRepositoryStatus
  branch : PyStr
  head : PyStr
  baseSha : PyStr
  commitCount : Int
  patch : List Char

section Preparation

variable {R : Type} (machine : Machine R) (limits : GitProcessLimits) (timeout : ℚ) (repository : R)
  (checksum : PreparationPayload → PyStr) (root : PyStr) (context : GitWorkflowContext)
  (request : PreparePullRequestRequest) (facts : BranchFacts) (entries : List NumstatEntry)

def payloadOf : PreparationPayload where
  projectId := context.projectId
  taskId := context.taskId
  correlationId := context.correlationId
  baseBranch := request.baseBranch
  baseSha := facts.baseSha
  headBranch := facts.branch
  headSha := some facts.head
  title := request.title
  summary := request.summary
  changedPaths := pathsOf entries
  insertions := insertionsOf entries
  deletions := deletionsOf entries
  commitCount := facts.commitCount
  authorLogicalId := context.actorLogicalId

def wholeDiff : GitDiffResult :=
  ⟨.base request.baseBranch, shownPatch entries facts.patch, pathsOf entries, insertionsOf entries,
    deletionsOf entries, false, (printed (diffText entries facts.patch)).size⟩

def whole (output : ByteArray) : ProcessResult := ⟨0, ⟨output, output.size, false⟩⟩

/-- The diff of the task branch can be read, and nothing else stands against its preparation. -/
structure InOrder : Prop where
  managed : machine.managed repository = true
  scope : context.workspaceRoot = root ∧ context.taskId = request.taskId
  status : Reads repository (status machine limits timeout) facts.status
  head : preparableHead request facts.status = .ok (facts.branch, facts.head)
  ancestor : ∃ output, Reads repository
    (run machine timeout (ancestorArguments request.baseBranch) limits.stderrBytes [0, 1]) ⟨0,
      output⟩
  base : Reads repository (readScalar machine limits timeout (baseArguments request.baseBranch))
    facts.baseSha
  count : ∃ text, integer text = some facts.commitCount ∧ Reads repository
    (readScalar machine limits timeout (countArguments request.baseBranch)) text
  merges : Reads repository
    (run machine timeout (mergesArguments request.baseBranch) limits.historyBytes [0])
    (whole .empty)
  history : ∃ output commits, (commits.length : Int) = facts.commitCount ∧
    (decode output >>= parseHistory machine.aware) = .ok commits ∧ Reads repository
      (run machine timeout (logArguments request.baseBranch facts.commitCount) limits.historyBytes
        [0])
      (whole output)
  diff : Reads repository
    (run machine timeout (diffArguments (.base request.baseBranch) []) limits.diffBytes [0])
    (whole (printed (diffText entries facts.patch)))
  diff_valid : (wholeDiff request facts entries).check = true
  names : Reads repository
    (run machine timeout (namesArguments request.baseBranch) limits.diffBytes [0])
    (whole (printed (namesText entries)))
  numstat : Reads repository
    (run machine timeout (numstatArguments request.baseBranch) limits.diffBytes [0])
    (whole (printed (numstatText entries)))
  paths_few : entries ≠ [] ∧ entries.length ≤ limits.maximumPaths
  paths_safe : ∀ path ∈ pathsOf entries,
    machine.allowed repository path = true ∧ Workspaces.asPosix (Workspaces.pathParts path) = path
  commits_few : 1 ≤ facts.commitCount ∧ facts.commitCount ≤ 100
  payload_valid : (payloadOf context request facts entries).check = true

variable {β : Type} {machine limits timeout repository root context request facts entries}

theorem requireRepository_managed (managed : machine.managed repository = true)
    (rest : Unit → GitProgram R β) (n : Nat) :
    (requireRepository machine >>= rest) ⟨repository, n⟩ = rest () ⟨repository, n⟩ := by
  have ends : requireRepository machine ⟨repository, n⟩ = (.ok (), ⟨repository, n⟩) := by
    unfold requireRepository
    rw [look_run, if_pos managed]
    rfl
  exact run_ok ends

theorem resolvePaths_safe {paths : List PyStr}
    (safe : ∀ path ∈ paths, machine.allowed repository path = true ∧
      Workspaces.asPosix (Workspaces.pathParts path) = path)
    (rest : List PyStr → GitProgram R β) (n : Nat) :
    (resolvePaths machine paths >>= rest) ⟨repository, n⟩ = rest paths ⟨repository, n⟩ := by
  have each : ∀ path ∈ paths,
      (if machine.allowed repository path = true then
        Except.ok (Workspaces.asPosix (Workspaces.pathParts path))
      else .error (failure .unsafePath)) = .ok (id path) := by
    intro path among
    have held := safe path among
    rw [if_pos held.1, held.2]
    rfl
  have ends : resolvePaths machine paths ⟨repository, n⟩ = (.ok paths, ⟨repository, n⟩) := by
    unfold resolvePaths
    rw [look_run]
    dsimp only
    rw [mapM_values each, List.map_id]
    rfl
  exact run_ok ends

theorem InOrder.diff_reads
    (order : InOrder machine limits timeout repository root context request facts entries) :
    Reads repository (LocalGit.diff machine limits timeout (.base request.baseBranch) [])
      (wholeDiff request facts entries) := by
  intro n
  rcases order.diff n with ⟨m, ends⟩
  refine ⟨m, ?_⟩
  unfold LocalGit.diff
  rw [requireRepository_managed order.managed, resolvePaths_safe (by simp), run_ok ends]
  unfold whole
  dsimp only
  rw [parseDiffOutput_reads, resume_ok_run]
  dsimp only
  rw [resolvePaths_safe order.paths_safe, if_neg (by simp)]
  exact congrFun (if_pos order.diff_valid) _

theorem parsePaths_names (entries : List NumstatEntry) :
    parsePaths (printed (namesText entries)) = .ok (pathsOf entries) := by
  have pieces : ((points (namesText entries)).splitOn 0).filter (fun path => !path.isEmpty) =
      pathsOf entries := by
    unfold namesText
    rw [terminated_pieces, List.map_map]
    · rfl
    · intro path among
      rcases List.mem_map.mp among with ⟨entry, _, rfl⟩
      exact entry.path.whole
    · intro path among
      rcases List.mem_map.mp among with ⟨entry, _, rfl⟩
      exact entry.path.some_
  unfold parsePaths
  rw [decode_printed]
  exact congrArg Except.ok pieces

theorem preparable_status {status : GitRepositoryStatus} {branch head : PyStr}
    (found : preparableHead request status = .ok (branch, head)) :
    status.detached = false ∧ status.clean = true ∧ status.operationInProgress = false ∧
      status.headSha = some head ∧ status.branch = some branch ∧
      request.expectedBranch = .ok branch := by
  unfold preparableHead at found
  split at found
  · cases found
  · rename_i ready
    rcases bind_ok found with ⟨expected, named, found⟩
    split at found
    · split at found
      · cases found
        simp only [not_or, Bool.not_eq_true, Bool.not_eq_false] at ready
        exact ⟨ready.1, ready.2.1, ready.2.2, ‹_›, ‹_›, named⟩
      · cases found
    · cases found

theorem protected_base (base : BaseBranch) : isProtectedBranch base.text = true := by
  cases base <;> decide

def settled (checksum : PreparationPayload → PyStr) (payload : PreparationPayload) :
    GitProgram R PullRequestPreparation :=
  if payload.check = true then pure ⟨payload, checksum payload⟩ else raise .invalid

theorem InOrder.prepares
    (order : InOrder machine limits timeout repository root context request facts entries)
    (n : Nat) :
    ∃ m, preparePullRequest machine limits checksum timeout root context request ⟨repository, n⟩ =
      (resume (parseNumstat (printed (numstatText entries)) (pathsOf entries)) >>= fun counts =>
        settled checksum { payloadOf context request facts entries with
          insertions := counts.1, deletions := counts.2 }) ⟨repository, m⟩ := by
  rcases order.status n with ⟨n1, status⟩
  rcases order.ancestor with ⟨ancestorOutput, ancestorReads⟩
  rcases ancestorReads n1 with ⟨n2, ancestor⟩
  rcases order.base n2 with ⟨n3, base⟩
  rcases order.count with ⟨text, counted, countReads⟩
  rcases countReads n3 with ⟨n4, count⟩
  rcases order.merges n4 with ⟨n5, merges⟩
  rcases order.history with ⟨output, commits, length, parsed, historyReads⟩
  rcases historyReads n5 with ⟨n6, history⟩
  rcases order.diff_reads n6 with ⟨n7, diff⟩
  rcases order.names n7 with ⟨n8, names⟩
  rcases order.numstat n8 with ⟨n9, numstat⟩
  have some_ : pathsOf entries ≠ [] := by
    intro empty
    exact order.paths_few.1 (List.map_eq_nil_iff.mp empty)
  have few : (pathsOf entries).length ≤ limits.maximumPaths := by
    rw [pathsOf, List.length_map]
    exact order.paths_few.2
  refine ⟨n9, ?_⟩
  unfold preparePullRequest
  rw [requireRepository_managed order.managed, if_neg (by simp [order.scope.1, order.scope.2]),
    if_neg (by rw [protected_base]; decide)]
  dsimp only
  rw [run_ok status, order.head, resume_ok_run]
  dsimp only
  rw [run_ok ancestor, if_neg (by simp), run_ok base, run_ok count]
  unfold commitCountOf
  rw [counted, resume_ok_run, if_neg (not_not.mpr order.commits_few), run_ok merges]
  unfold whole at merges history ⊢
  dsimp only
  rw [if_neg (by simp), if_neg (by simp), run_ok history]
  dsimp only
  rw [if_neg (by simp), parsed, resume_ok_run, if_neg (not_not.mpr length), run_ok diff,
    if_neg (show ¬ (wholeDiff request facts entries).truncated = true from Bool.false_ne_true),
    run_ok names, run_ok numstat]
  unfold whole
  dsimp only
  rw [if_neg (by simp), parsePaths_names, resume_ok_run, if_neg (by simp [some_, few]),
    resolvePaths_safe order.paths_safe, if_neg (by simp)]
  rfl

theorem slash_protected {branch : PyStr}
    (slash : 0x2F ∈ branch) : isProtectedBranch branch = false := by
  have other : branch ∉ [PyStr.ofString "main", PyStr.ofString "production"] := by
    intro among
    simp only [List.mem_cons, List.not_mem_nil, or_false] at among
    rcases among with rfl | rfl
    · exact absurd slash (by decide)
    · exact absurd slash (by decide)
  unfold isProtectedBranch
  rw [List.contains_eq_mem]
  exact decide_eq_false other

theorem expectedBranch_unprotected {branch : PyStr} (named : request.expectedBranch = .ok branch) :
    isProtectedBranch branch = false := by
  unfold PreparePullRequestRequest.expectedBranch deriveTaskBranch at named
  split at named
  · cases named
    apply slash_protected
    unfold taskBranch
    simp
  · cases named

theorem statusReasons_ready {status : GitRepositoryStatus} {branch head : PyStr}
    {payload : PreparationPayload}
    (found : preparableHead request status = .ok (branch, head))
    (onBranch : payload.headBranch = branch)
    (atHead : payload.headSha = some head) : statusReasons payload status = [] := by
  have ready := preparable_status found
  unfold statusReasons
  rw [onBranch, atHead, protected_base, expectedBranch_unprotected ready.2.2.2.2.2,
    ready.2.1, ready.2.2.1, ready.2.2.2.1, ready.2.2.2.2.1]
  simp [itemIf]

theorem InOrder.validates
    (order : InOrder machine limits timeout repository root context request facts entries)
    (n : Nat) :
    ∃ m, validateRepositoryState machine limits checksum timeout
        ⟨payloadOf context request facts entries,
          checksum (payloadOf context request facts entries)⟩
        ⟨repository, n⟩ =
      (resume (parseNumstat (printed (numstatText entries)) (pathsOf entries)) >>= fun counts =>
        pure (ordered (itemIf (decide (checksum { payloadOf context request facts entries with
            insertions := counts.1, deletions := counts.2 } ≠
          checksum (payloadOf context request facts entries))) .stalePreparation)))
            ⟨repository, m⟩ := by
  rcases order.status n with ⟨n1, status⟩
  rcases order.base n1 with ⟨n2, base⟩
  rcases order.ancestor with ⟨ancestorOutput, ancestorReads⟩
  rcases ancestorReads n2 with ⟨n3, ancestor⟩
  rcases order.merges n3 with ⟨n4, merges⟩
  rcases order.diff_reads n4 with ⟨n5, diff⟩
  rcases order.history with ⟨output, commits, length, parsed, historyReads⟩
  rcases historyReads n5 with ⟨n6, history⟩
  rcases order.count with ⟨text, counted, countReads⟩
  rcases countReads n6 with ⟨n7, count⟩
  rcases order.names n7 with ⟨n8, names⟩
  rcases order.numstat n8 with ⟨n9, numstat⟩
  have early : statusReasons (payloadOf context request facts entries) facts.status = [] :=
    statusReasons_ready order.head rfl rfl
  have head := (preparable_status order.head).2.2.2.1
  refine ⟨n9, ?_⟩
  unfold payloadOf at early ⊢
  unfold validateRepositoryState
  rw [requireRepository_managed order.managed]
  dsimp only
  rw [run_ok status, early, if_neg (by simp), run_ok base, run_ok ancestor, run_ok merges]
  unfold whole
  dsimp only
  rw [if_neg (by simp [itemIf]), run_ok diff,
    if_neg (show ¬ (wholeDiff request facts entries).truncated = true from Bool.false_ne_true),
    run_ok history]
  unfold whole
  dsimp only
  rw [if_neg (by simp), parsed, resume_ok_run, run_ok count]
  unfold commitCountOf
  rw [counted, resume_ok_run, run_ok names, run_ok numstat]
  unfold whole
  dsimp only
  rw [if_neg (by simp), parsePaths_names, resume_ok_run, head, length]
  simp only [ne_eq, not_true_eq_false, decide_false, itemIf, Bool.false_eq_true, if_false,
    List.nil_append]

/-- A branch in order is prepared exactly when no file of its diff is binary. -/
theorem InOrder.prepared_iff
    (order : InOrder machine limits timeout repository root context request facts entries) :
    (∃ preparation, Reads repository
      (preparePullRequest machine limits checksum timeout root context request) preparation) ↔
      Textual entries := by
  constructor
  · intro prepared
    rcases prepared with ⟨preparation, reads⟩
    rcases reads 0 with ⟨m, returned⟩
    rcases order.prepares checksum 0 with ⟨n, run⟩
    by_contra binary
    rcases parseNumstat_binary entries binary (pathsOf entries) with ⟨raised, failed⟩
    rw [failed, resume_error_run] at run
    rw [run] at returned
    cases returned
  · intro textual
    refine ⟨⟨payloadOf context request facts entries,
      checksum (payloadOf context request facts entries)⟩, ?_⟩
    intro n
    rcases order.prepares checksum n with ⟨m, run⟩
    rw [parseNumstat_textual entries textual, resume_ok_run] at run
    refine ⟨m, run.trans ?_⟩
    exact congrFun (if_pos order.payload_valid) _

theorem InOrder.validated_iff
    (order : InOrder machine limits timeout repository root context request facts entries) :
    Reads repository (validateRepositoryState machine limits checksum timeout
      ⟨payloadOf context request facts entries, checksum (payloadOf context request facts entries)⟩)
        [] ↔
      Textual entries := by
  constructor
  · intro reads
    rcases reads 0 with ⟨m, returned⟩
    rcases order.validates checksum 0 with ⟨n, run⟩
    by_contra binary
    rcases parseNumstat_binary entries binary (pathsOf entries) with ⟨raised, failed⟩
    rw [failed, resume_error_run] at run
    rw [run] at returned
    cases returned
  · intro textual n
    rcases order.validates checksum n with ⟨m, run⟩
    rw [parseNumstat_textual entries textual, resume_ok_run] at run
    refine ⟨m, run.trans ?_⟩
    have same : decide (checksum { payloadOf context request facts entries with
        insertions := insertionsOf entries, deletions := deletionsOf entries } ≠
        checksum (payloadOf context request facts entries)) = false :=
      decide_eq_false (not_not.mpr rfl)
    show (Except.ok (ordered (itemIf (decide _) _)), _) = _
    rw [same]
    rfl

end Preparation

/-- The two readers agree on the counts of a diff exactly when no file of it is binary, and a branch
in order is prepared, and its preparation validated, exactly then. -/
theorem numstat_exact (entries : List NumstatEntry) :
    (∀ patch, ReadersAgree entries patch ↔ Textual entries) ∧
      ∀ {R : Type} (machine : Machine R) (limits : GitProcessLimits) (timeout : ℚ) (repository : R)
        (checksum : PreparationPayload → PyStr) (root : PyStr) (context : GitWorkflowContext)
        (request : PreparePullRequestRequest) (facts : BranchFacts),
        InOrder machine limits timeout repository root context request facts entries →
          ((∃ preparation, Reads repository
            (preparePullRequest machine limits checksum timeout root context request) preparation) ↔
            Textual entries) ∧
          (Reads repository (validateRepositoryState machine limits checksum timeout
            ⟨payloadOf context request facts entries,
              checksum (payloadOf context request facts entries)⟩) [] ↔
            Textual entries) := by
  constructor
  · exact readersAgree_iff entries
  · intro R machine limits timeout repository checksum root context request facts order
    exact ⟨order.prepared_iff checksum, order.validated_iff checksum⟩

section Sample

def sampleEntry (binary : Bool) : NumstatEntry where
  counts := if binary = true then none else some (1, 0)
  path := ⟨['f'], by decide, by decide⟩
  small := by cases binary <;> simp

def textEntry : NumstatEntry where
  counts := some (12, 3)
  path := ⟨['g'], by decide, by decide⟩
  small := by simp

def sampleEntries (binary : Bool) : List NumstatEntry := [sampleEntry binary, textEntry]

def samplePreparation : PreparePullRequestRequest where
  taskId := 7
  branchKind := .feature
  branchSlug := .ofString "s"
  baseBranch := .main
  title := .ofString "t"
  summary := .ofString "s"

def sampleContext : GitWorkflowContext := ⟨[0x2F], 1, 7, .ofString "a", 3⟩

def cleanText : PyStr :=
  PyStr.ofString "# branch.oid " ++ sampleSecond ++ 0 :: PyStr.ofString "# branch.head " ++
    sampleRequest.expectedBranch ++ [0]

def cleanReport : GitRepositoryStatus where
  branch := some sampleRequest.expectedBranch
  headSha := some sampleSecond
  detached := false
  clean := true
  stagedCount := 0
  unstagedCount := 0
  untrackedCount := 0
  marks := {}
  outputBytes := (bytesOf cleanText).size

def sampleLog : PyStr :=
  [0x1F].intercalate ([sampleSecond, sampleFirst] ++ ["s", "a", "t"].map PyStr.ofString) ++ [0x1E,
    0x0A]

def branchOutputs (binary : Bool) : List (List PyStr × ByteArray) :=
  [(["status", "--porcelain=v2"].map .ofString, bytesOf cleanText),
    (["merge-base", "--is-ancestor"].map .ofString, .empty),
    (["rev-parse", "main"].map .ofString, bytesOf sampleFirst),
    (["rev-list", "--count"].map .ofString, bytesOf (.ofString "1")),
    (["rev-list", "--merges"].map .ofString, .empty),
    (["log", "--first-parent"].map .ofString, bytesOf sampleLog),
    (["diff", "--no-ext-diff"].map .ofString, printed (diffText (sampleEntries binary) ['x'])),
    (["diff", "--name-only"].map .ofString, printed (namesText (sampleEntries binary))),
    (["diff", "--numstat"].map .ofString, printed (numstatText (sampleEntries binary)))]

def branchMachine (binary : Bool) : Machine Unit where
  git := fun _ arguments _ =>
    match (branchOutputs binary).find? fun row => decide (row.1 = arguments.take 2) with
    | some row => ((), .exits 0 row.2)
    | none => ((), .failed)
  managed := fun _ => true
  allowed := fun _ _ => true
  marks := fun _ => {}
  aware := fun _ => true

theorem cleanText_records : ascii cleanText = true ∧ cleanText.length ≤ 1024 ∧
    cleanText.splitOn 0 = [PyStr.ofString "# branch.oid " ++ sampleSecond,
      PyStr.ofString "# branch.head " ++ sampleRequest.expectedBranch, []] := by
  unfold cleanText sampleRequest CommitRequest.expectedBranch taskBranch
  dsimp only [TaskBranchKind.text]
  repeat rw [PyStr.ofString_ofList]
  decide

theorem clean_report :
    parseStatus {} ⟨bytesOf cleanText, (bytesOf cleanText).size, false⟩ = .ok cleanReport := by
  have decoded : decode (bytesOf cleanText) = .ok cleanText := decode_bytesOf cleanText_records.1
  have size : (bytesOf cleanText).size ≤ 1024 :=
    (size_bytesOf cleanText_records.1).trans_le cleanText_records.2.1
  have sha : shaText sampleSecond = true ∧ sampleSecond ≠ .ofString "(initial)" :=
    sampleSha_valid true
  have valid : cleanReport.check = true := by
    unfold GitRepositoryStatus.check cleanReport
    simp only [Option.all_some, sha.1, sampleBranch_valid.1, Bool.true_and, decide_eq_true_eq]
    omega
  have read : readRecords {} false (cleanText.splitOn 0) =
      .ok ⟨some sampleRequest.expectedBranch, some sampleSecond, 0, 0, 0⟩ := by
    rw [cleanText_records.2.2, readRecords_oid _ _ sha.2, readRecords_head _ _ sampleBranch_valid.2]
    rfl
  have same (size : Nat) : StatusReading.report ⟨some sampleRequest.expectedBranch,
      some sampleSecond, 0, 0, 0⟩ {} size = { cleanReport with outputBytes := size } := rfl
  rw [parseStatus_read {} ⟨bytesOf cleanText, (bytesOf cleanText).size, false⟩ decoded read, same]
  exact if_pos valid

theorem find_key {κ α : Type} [DecidableEq κ] {rows : List (κ × α)}
    (distinct : (rows.map Prod.fst).Nodup)
    {row : κ × α} (among : row ∈ rows) : rows.find? (fun other => decide (other.1 = row.1)) =
      some row := by
  induction rows with
  | nil => cases among
  | cons first rest ih =>
      rw [List.map_cons, List.nodup_cons] at distinct
      rcases List.mem_cons.mp among with rfl | later
      · rw [List.find?_cons_of_pos (by simp)]
      · have other : first.1 ≠ row.1 := by
          intro same
          exact distinct.1 (same ▸ List.mem_map_of_mem later)
        rw [List.find?_cons_of_neg (by simpa using other), ih distinct.2 later]

theorem branch_keys (binary : Bool) : ((branchOutputs binary).map Prod.fst).Nodup := by
  unfold branchOutputs
  simp only [List.map_cons, List.map_nil]
  repeat rw [PyStr.ofString_ofList]
  decide

theorem branch_ends (binary : Bool) (place : Nat) {row : List PyStr × ByteArray}
    (found : (branchOutputs binary)[place]? = some row) {arguments : List PyStr}
    (key : arguments.take 2 = row.1) (n : Nat) :
    (branchMachine binary).git n arguments () = ((), .exits 0 row.2) := by
  show (match (branchOutputs binary).find? fun other => decide (other.1 = arguments.take 2) with
    | some row => ((), Ending.exits 0 row.2)
    | none => ((), .failed)) = _
  rw [key, find_key (branch_keys binary) (List.mem_of_getElem? found)]

theorem branch_reads (binary : Bool) (place : Nat) {row : List PyStr × ByteArray}
    (found : (branchOutputs binary)[place]? = some row) {arguments : List PyStr}
    (key : arguments.take 2 = row.1)
    (fits : row.2.size ≤ 1024) {codes : List Int} (accepted : 0 ∈ codes) :
    Reads () (run (branchMachine binary) 1 arguments 1024 codes) (whole row.2) := by
  intro n
  have kept : bounded 1024 row.2 = ⟨row.2, row.2.size, false⟩ :=
    bounded_whole (by unfold bounded; simpa using fits)
  refine ⟨n + 1, ?_⟩
  unfold run
  rw [if_neg (by norm_num), look_run]
  dsimp only
  rw [branch_ends binary place found key n, update_run]
  dsimp only
  rw [if_pos accepted, kept]
  rfl

theorem branch_scalar (binary : Bool) (place : Nat) {row : List PyStr × ByteArray}
    (found : (branchOutputs binary)[place]? = some row) {arguments : List PyStr}
    (key : arguments.take 2 = row.1) {text : PyStr} (fits : row.2.size ≤ 1024)
    (parsed : parseScalar ⟨row.2, row.2.size, false⟩ = .ok text) :
    Reads () (readScalar (branchMachine binary) sampleLimits 1 arguments) text := by
  intro n
  have ends := branch_ends binary place found key n
  refine ⟨n + 1, ?_⟩
  exact scalar_exits one_pos (congrArg Prod.snd ends) fits parsed

def sampleFacts : BranchFacts where
  status := cleanReport
  branch := sampleRequest.expectedBranch
  head := sampleSecond
  baseSha := sampleFirst
  commitCount := 1
  patch := ['x']

theorem sample_head : preparableHead samplePreparation cleanReport =
    .ok (sampleRequest.expectedBranch, sampleSecond) := by
  have named : samplePreparation.expectedBranch = .ok sampleRequest.expectedBranch := by
    unfold PreparePullRequestRequest.expectedBranch deriveTaskBranch
    rw [if_pos (by decide)]
    rfl
  unfold preparableHead
  rw [if_neg (by decide), named]
  show (if cleanReport.branch = some sampleRequest.expectedBranch then
    Except.ok (sampleRequest.expectedBranch, sampleSecond) else .error (failure .invalidState)) = _
  have onBranch : cleanReport.branch = some sampleRequest.expectedBranch := rfl
  rw [if_pos onBranch]

theorem scalar_bytesOf {text : PyStr} (plain : ascii text = true) (size : Nat)
    (stripped : strip text = text) (single : text ≠ [] ∧ 0 ∉ text ∧ 0x0A ∉ text) :
    parseScalar ⟨bytesOf text, size, false⟩ = .ok text := by
  unfold parseScalar
  dsimp only
  rw [if_neg Bool.false_ne_true, decode_bytesOf plain]
  show (if strip text = [] ∨ 0 ∈ strip text ∨ 0x0A ∈ strip text then _ else _) = _
  rw [stripped, if_neg (by simp only [single, or_self, not_false_eq_true])]
  rfl

theorem sample_history : ∃ commits, (commits.length : Int) = 1 ∧
    (decode (bytesOf sampleLog) >>= parseHistory fun _ => true) = .ok commits := by
  have plain : ascii sampleLog = true := by decide
  refine ⟨[⟨sampleSecond, [sampleFirst], .ofString "s", .ofString "a"⟩], rfl, ?_⟩
  rw [decode_bytesOf plain]
  show (((sampleLog.splitOn 0x1E).map stripNewlines).filter fun record => !record.isEmpty).mapM
    (commitSummary fun _ => true) = _
  have records :
    ((sampleLog.splitOn 0x1E).map stripNewlines).filter (fun record => !record.isEmpty) =
    [[0x1F].intercalate ([sampleSecond, sampleFirst] ++ ["s", "a", "t"].map PyStr.ofString)] := by
      decide
  rw [records]
  rfl

theorem sample_inOrder (binary : Bool) :
    InOrder (branchMachine binary) sampleLimits 1 ()
    [0x2F] sampleContext samplePreparation sampleFacts
      (sampleEntries binary) where
  managed := rfl
  scope := ⟨rfl, rfl⟩
  status := by
    intro n
    have ends := branch_ends binary 0 rfl (rfl : statusArguments.take 2 = _) n
    refine ⟨n + 1, ?_⟩
    exact status_exits rfl one_pos (congrArg Prod.snd ends)
      ((size_bytesOf cleanText_records.1).trans_le cleanText_records.2.1) clean_report
  head := sample_head
  ancestor := ⟨_, branch_reads binary 1 rfl rfl (by decide) (by decide)⟩
  base := branch_scalar binary 2 rfl rfl ((size_bytesOf (by decide)).trans_le (by decide))
    (scalar_bytesOf (by decide) _ (by decide) (by decide))
  count := ⟨.ofString "1", by decide,
    branch_scalar binary 3 rfl rfl ((size_bytesOf (by decide)).trans_le (by decide))
    (scalar_bytesOf (by decide) _ (by decide) (by decide))⟩
  merges := branch_reads binary 4 rfl rfl (by decide) (by decide)
  history := by
    rcases sample_history with ⟨commits, length, parsed⟩
    refine ⟨bytesOf sampleLog, commits, length, parsed, ?_⟩
    exact branch_reads binary 5 rfl rfl ((size_bytesOf (by decide)).trans_le (by decide))
      (by decide)
  diff := branch_reads binary 6 rfl rfl (by cases binary <;> decide) (by decide)
  diff_valid := by cases binary <;> decide
  names := branch_reads binary 7 rfl rfl (by cases binary <;> decide) (by decide)
  numstat := branch_reads binary 8 rfl rfl (by cases binary <;> decide) (by decide)
  paths_few := ⟨List.cons_ne_nil _ _, by cases binary <;> decide⟩
  paths_safe := by cases binary <;> decide
  commits_few := by decide
  payload_valid := by cases binary <;> decide

theorem numstat_exact_sample :
    (∃ preparation,
      Reads () (preparePullRequest (branchMachine false) sampleLimits (fun _ => []) 1 [0x2F]
      sampleContext samplePreparation) preparation) ∧
    Reads () (validateRepositoryState (branchMachine false) sampleLimits (fun _ => []) 1
      ⟨payloadOf sampleContext samplePreparation sampleFacts (sampleEntries false), []⟩) [] := by
  have textual : Textual (sampleEntries false) := by
    intro entry among
    rcases List.mem_pair.mp among with rfl | rfl
    · decide
    · decide
  have exact_ := (numstat_exact (sampleEntries false)).2 (branchMachine false) sampleLimits 1
    () (fun _ => []) [0x2F] sampleContext samplePreparation sampleFacts (sample_inOrder false)
  exact ⟨exact_.1.mpr textual, exact_.2.mpr textual⟩

/-- The diff of a binary file is read, and the file's branch is not prepared. -/
theorem binary_unprepared :
    parseDiffOutput (printed (diffText (sampleEntries true) ['x'])) = .ok ([0x78],
      [[0x66], [0x67]], 12, 3) ∧
      parseNumstat (printed (numstatText (sampleEntries true)))
      [[0x66], [0x67]] = .error (failure .gitFailed) ∧
      ¬ ∃ preparation, Reads ()
      (preparePullRequest (branchMachine true) sampleLimits (fun _ => []) 1 [0x2F]
        sampleContext samplePreparation) preparation := by
  refine ⟨parseDiffOutput_reads (sampleEntries true) ['x'], ?_, ?_⟩
  · unfold parseNumstat
    rw [decode_printed]
    rfl
  · intro prepared
    have textual := ((sample_inOrder true).prepared_iff fun _ => []).mp prepared
    exact textual (sampleEntry true) List.mem_cons_self rfl

end Sample

end SynapseOS.LocalGit
