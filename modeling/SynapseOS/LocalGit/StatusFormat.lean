import SynapseOS.LocalGit.Bytes

/-! What `git status --porcelain=v2 --branch -z` prints, and what `_parse_status` makes of it. -/

namespace SynapseOS.LocalGit

open Execution

inductive PathState
  | unmodified
  | modified
  | typeChanged
  | added
  | deleted
  | renamed
  | copied
  | unmerged
  deriving DecidableEq, Repr

def PathState.char : PathState → Char
  | .unmodified => '.'
  | .modified => 'M'
  | .typeChanged => 'T'
  | .added => 'A'
  | .deleted => 'D'
  | .renamed => 'R'
  | .copied => 'C'
  | .unmerged => 'U'

structure EntryDetail where
  text : List Char
  whole : '\x00' ∉ text

inductive StatusEntry
  | ordinary (index worktree : PathState) (detail : EntryDetail) (path : ReportedPath)
  | moved (index worktree : PathState) (detail : EntryDetail) (path source : ReportedPath)
  | unmerged (index worktree : PathState) (detail : EntryDetail) (path : ReportedPath)
  | untracked (path : ReportedPath)
  | ignored (path : ReportedPath)

namespace StatusEntry

def changed (kind : Char) (index worktree : PathState) (detail : EntryDetail)
    (path : ReportedPath) : List Char :=
  [kind] ++ ' ' :: ([index.char, worktree.char] ++ ' ' :: (detail.text ++ ' ' :: path.text))

def records : StatusEntry → List (List Char)
  | .ordinary index worktree detail path => [changed '1' index worktree detail path]
  | .moved index worktree detail path source =>
      [changed '2' index worktree detail path, source.text]
  | .unmerged index worktree detail path => [changed 'u' index worktree detail path]
  | .untracked path => ['?' :: ' ' :: path.text]
  | .ignored path => ['!' :: ' ' :: path.text]

def states : StatusEntry → Option (PathState × PathState)
  | .ordinary index worktree _ _ | .moved index worktree _ _ _ | .unmerged index worktree _ _ =>
      some (index, worktree)
  | .untracked _ | .ignored _ => none

def staged (entry : StatusEntry) : Bool := entry.states.any fun states =>
    decide (states.1 ≠ .unmodified)

def unstaged (entry : StatusEntry) : Bool := entry.states.any fun states =>
    decide (states.2 ≠ .unmodified)

def isUntracked : StatusEntry → Bool
  | .untracked _ => true
  | _ => false

end StatusEntry

structure Upstream where
  name : List Char
  divergence : Option (Nat × Nat)
  whole : '\x00' ∉ name

/-- What a status tells; there is no object name before the first commit, and no branch on a
detached head. -/
structure StatusOutput where
  oid : Option (List Char)
  head : Option (List Char)
  upstream : Option Upstream
  stash : Option Nat
  entries : List StatusEntry
  oid_valid : ∀ sha ∈ oid, shaText (points sha) = true
  head_valid : ∀ name ∈ head, name ≠ [] ∧ '\x00' ∉ name

namespace StatusOutput

variable (output : StatusOutput)

def oidHeader : List Char := "# branch.oid ".toList ++ output.oid.getD "(initial)".toList

def headHeader : List Char := "# branch.head ".toList ++ output.head.getD "(detached)".toList

/-- `# branch.upstream` and `# branch.ab`. -/
def upstreamHeaders : List (List Char) :=
  match output.upstream with
  | none => []
  | some upstream =>
      ("# branch.upstream ".toList ++ upstream.name) ::
        match upstream.divergence with
        | none => []
        | some (ahead, behind) =>
            ["# branch.ab +".toList ++ decimal ahead ++ " -".toList ++ decimal behind]

def stashHeaders : List (List Char) :=
  match output.stash with
  | none => []
  | some count => ["# stash ".toList ++ decimal count]

def records : List (List Char) :=
  output.oidHeader :: output.headHeader :: (output.upstreamHeaders ++ output.stashHeaders ++
    output.entries.flatMap StatusEntry.records)

def text : List Char := terminated output.records

def size : Nat := (printed output.text).size

def staged : Nat := output.entries.countP StatusEntry.staged

def unstaged : Nat := output.entries.countP StatusEntry.unstaged

def untracked : Nat := output.entries.countP StatusEntry.isUntracked

def report (marks : OperationMarks) : GitRepositoryStatus :=
  ⟨output.head.map points, output.oid.map points, output.head.isNone,
    decide (output.staged + output.unstaged + output.untracked = 0), output.staged, output.unstaged,
    output.untracked, marks, output.size⟩

end StatusOutput

section Reading

variable (reading : StatusReading) (rest : List PyStr)

theorem PathState.char_space (state : PathState) : state.char.toNat ≠ 0x20 := by
  cases state <;> decide

theorem PathState.char_dot (state : PathState) : state.char.toNat = 0x2E ↔ state = .unmodified := by
  cases state <;> decide

theorem changed_states (kind : Char) (named : kind.toNat ≠ 0x20) (index worktree : PathState)
    (detail : EntryDetail) (path : ReportedPath) :
    changedStates (points (StatusEntry.changed kind index worktree detail path)) =
      .ok (index.char.toNat, worktree.char.toNat) := by
  have space : points [kind] ++ (0x20 : Nat) :: (points [index.char, worktree.char] ++ 0x20 ::
      points (detail.text ++ ' ' :: path.text)) = points
        (StatusEntry.changed kind index worktree detail path) := by
    simp only [StatusEntry.changed, points_append, points_cons, points_nil]
    rfl
  unfold changedStates
  rw [← space, splitTwice_three 0x20 _ (by simpa using named.symm)
    (by simpa using ⟨index.char_space.symm, worktree.char_space.symm⟩)]
  rfl

def StatusReading.count (entry : StatusEntry) : StatusReading :=
  { reading with
    staged := reading.staged + if entry.staged = true then 1 else 0
    unstaged := reading.unstaged + if entry.unstaged = true then 1 else 0
    untracked := reading.untracked + if entry.isUntracked = true then 1 else 0 }

theorem after_head {start : String} (first : Nat) {point : Nat} (text : PyStr)
    (starts : (PyStr.ofString start).head? = some first) (other : first ≠ point) :
    after start (point :: text) = none := by
  unfold after
  rcases points : PyStr.ofString start with _ | ⟨head, tail⟩
  · rw [points] at starts
    cases starts
  · rw [points] at starts
    cases starts
    rw [if_neg (by simp [other])]

/-- A record that is neither a header nor an untracked or ignored path is one of a changed path. -/
theorem readRecords_point {point : Nat} (text : PyStr) (header : 0x23 ≠ point)
    (untracked : 0x3F ≠ point) (ignored : 0x21 ≠ point) :
    readRecords reading false ((point :: text) :: rest) =
      if ((after "1 " (point :: text)).isSome || (after "2 " (point :: text)).isSome ||
          (after "u " (point :: text)).isSome) = true then
        match changedStates (point :: text) with
        | .error raised => .error raised
        | .ok (index, worktree) =>
            readRecords { reading with
              staged := reading.staged + if index = 0x2E then 0 else 1
              unstaged := reading.unstaged + if worktree = 0x2E then 0 else 1 }
              (after "2 " (point :: text)).isSome rest
      else .error (.git .gitFailed) := by
  rw [readRecords, if_neg (List.cons_ne_nil _ _), if_neg Bool.false_ne_true,
    after_head 0x23 _ (by rw [PyStr.ofString_ofList]; rfl) header,
    after_head 0x23 _ (by rw [PyStr.ofString_ofList]; rfl) header,
    after_head 0x3F _ (by rw [PyStr.ofString_ofList]; rfl) untracked,
    after_head 0x21 _ (by rw [PyStr.ofString_ofList]; rfl) ignored]
  rfl

theorem readRecords_changed (kind : Char) (named : kind ∈ ['1', '2', 'u'])
    (index worktree : PathState) (detail : EntryDetail) (path : ReportedPath) :
    readRecords reading false
      (points (StatusEntry.changed kind index worktree detail path) :: rest) =
      readRecords { reading with
        staged := reading.staged + if index = .unmodified then 0 else 1
        unstaged := reading.unstaged + if worktree = .unmodified then 0 else 1 }
          (decide (kind = '2')) rest := by
  have states (space : kind.toNat ≠ 0x20) := changed_states kind space index worktree detail path
  have shape : ∃ tail, points (StatusEntry.changed kind index worktree detail path) = kind.toNat ::
      0x20 :: tail :=
    ⟨_, rfl⟩
  rcases shape with ⟨tail, shape⟩
  rw [shape] at states ⊢
  have marks :
    ((after "1 " (kind.toNat :: 0x20 :: tail)).isSome ||
      (after "2 " (kind.toNat :: 0x20 :: tail)).isSome ||
      (after "u " (kind.toNat :: 0x20 :: tail)).isSome) = true ∧
      (after "2 " (kind.toNat :: 0x20 :: tail)).isSome = decide (kind = '2') := by
    unfold after
    repeat rw [PyStr.ofString_ofList]
    simp only [List.mem_cons, List.not_mem_nil, or_false] at named
    rcases named with rfl | rfl | rfl
    · exact ⟨rfl, rfl⟩
    · exact ⟨rfl, rfl⟩
    · exact ⟨rfl, rfl⟩
  have other : kind.toNat ≠ 0x20 ∧ 0x23 ≠ kind.toNat ∧ 0x3F ≠ kind.toNat ∧ 0x21 ≠ kind.toNat := by
    simp only [List.mem_cons, List.not_mem_nil, or_false] at named
    rcases named with rfl | rfl | rfl <;> decide
  rw [readRecords_point reading rest _ other.2.1 other.2.2.1 other.2.2.2, if_pos marks.1, marks.2,
    states other.1]
  simp only [index.char_dot, worktree.char_dot]

theorem readRecords_ignored (text : PyStr) :
    readRecords reading false ((0x21 :: 0x20 :: text) :: rest) =
      readRecords reading false rest := by
  have mark : (after "! " (0x21 :: 0x20 :: text)).isSome = true := by
    unfold after
    rw [PyStr.ofString_ofList]
    rfl
  rw [readRecords, if_neg (List.cons_ne_nil _ _), if_neg Bool.false_ne_true,
    after_head 0x23 _ (by rw [PyStr.ofString_ofList]; rfl) (by decide),
    after_head 0x23 _ (by rw [PyStr.ofString_ofList]; rfl) (by decide),
    after_head 0x3F _ (by rw [PyStr.ofString_ofList]; rfl) (by decide)]
  dsimp only
  rw [if_neg (by decide), if_pos mark]

theorem readRecords_skip {record : PyStr} (some_ : record ≠ []) :
    readRecords reading true (record :: rest) = readRecords reading false rest := by
  rw [readRecords, if_neg some_, if_pos rfl]

theorem count_states {entry : StatusEntry} {index worktree : PathState}
    (states : entry.states = some (index, worktree)) :
    reading.count entry = { reading with
      staged := reading.staged + if index = .unmodified then 0 else 1
      unstaged := reading.unstaged + if worktree = .unmodified then 0 else 1 } := by
  have changed : entry.isUntracked = false := by
    cases entry with
    | untracked path => cases states
    | _ => rfl
  unfold StatusReading.count StatusEntry.staged StatusEntry.unstaged
  rw [states, changed]
  by_cases first : index = .unmodified <;> by_cases second :
    worktree = .unmodified <;> simp [first, second]

theorem readRecords_entry (entry : StatusEntry) :
    readRecords reading false (entry.records.map points ++ rest) = readRecords
      (reading.count entry) false rest := by
  cases entry with
  | ordinary index worktree detail path =>
      rw [count_states reading rfl]
      exact readRecords_changed reading rest _ (by decide) index worktree detail path
  | moved index worktree detail path source =>
      rw [count_states reading rfl]
      have first := readRecords_changed reading (points source.text :: rest) '2'
        (by decide) index worktree detail path
      refine first.trans (readRecords_skip _ rest ?_)
      intro empty
      exact source.some_ (List.map_eq_nil_iff.mp empty)
  | unmerged index worktree detail path =>
      rw [count_states reading rfl]
      exact readRecords_changed reading rest _ (by decide) index worktree detail path
  | untracked path => exact readRecords_untracked reading rest
  | ignored path => exact readRecords_ignored reading rest (points path.text)

theorem readRecords_entries (entries : List StatusEntry) :
    readRecords reading false ((entries.flatMap StatusEntry.records).map points ++ [[]]) =
      .ok (entries.foldl StatusReading.count reading) := by
  induction entries generalizing reading with
  | nil => rfl
  | cons entry entries ih =>
      rw [List.flatMap_cons, List.map_append, List.append_assoc, readRecords_entry, ih]
      rfl

theorem fold_count (entries : List StatusEntry) :
    entries.foldl StatusReading.count reading = { reading with
      staged := reading.staged + entries.countP StatusEntry.staged
      unstaged := reading.unstaged + entries.countP StatusEntry.unstaged
      untracked := reading.untracked + entries.countP StatusEntry.isUntracked } := by
  induction entries generalizing reading with
  | nil => rfl
  | cons entry entries ih =>
      rw [List.foldl_cons, ih, List.countP_cons, List.countP_cons, List.countP_cons]
      simp only [StatusReading.count, StatusReading.mk.injEq, true_and]
      omega

theorem readRecords_header {text : PyStr} (oid : after "# branch.oid " (0x23 :: text) = none)
    (head : after "# branch.head " (0x23 :: text) = none) :
    readRecords reading false ((0x23 :: text) :: rest) = .error (.git .gitFailed) := by
  rw [readRecords, if_neg (List.cons_ne_nil _ _), if_neg Bool.false_ne_true, oid, head,
    after_head 0x3F _ (by rw [PyStr.ofString_ofList]; rfl) (by decide),
    after_head 0x21 _ (by rw [PyStr.ofString_ofList]; rfl) (by decide),
    after_head 0x31 _ (by rw [PyStr.ofString_ofList]; rfl) (by decide),
    after_head 0x32 _ (by rw [PyStr.ofString_ofList]; rfl) (by decide),
    after_head 0x75 _ (by rw [PyStr.ofString_ofList]; rfl) (by decide)]
  rfl

theorem readRecords_oidHeader (value : PyStr) :
    readRecords reading false ((.ofString "# branch.oid " ++ value) :: rest) =
      readRecords
        { reading with headSha := if value = .ofString "(initial)" then none else some value } false
        rest := by
  rw [readRecords, after_self]
  dsimp only
  rw [if_neg (by rw [PyStr.ofString_ofList]; exact List.cons_ne_nil _ _), if_neg (by decide)]

theorem readRecords_headHeader (value : PyStr) :
    readRecords reading false ((.ofString "# branch.head " ++ value) :: rest) =
      readRecords
        { reading with branch := if value = .ofString "(detached)" then none else some value } false
        rest := by
  have other : after "# branch.oid " (.ofString "# branch.head " ++ value) = none := by
    unfold after
    repeat rw [PyStr.ofString_ofList]
    rfl
  rw [readRecords, after_self, other]
  dsimp only
  rw [if_neg (by rw [PyStr.ofString_ofList]; exact List.cons_ne_nil _ _), if_neg (by decide)]

end Reading

namespace StatusOutput

variable (output : StatusOutput)

def laterHeaders : List (List Char) := output.upstreamHeaders ++ output.stashHeaders

theorem laterHeaders_nil :
    output.laterHeaders = [] ↔ output.upstream = none ∧ output.stash = none := by
  unfold laterHeaders upstreamHeaders stashHeaders
  rw [List.append_eq_nil_iff]
  constructor
  · rintro ⟨first, second⟩
    constructor
    · rcases upstream : output.upstream with _ | found
      · rfl
      · rw [upstream] at first
        cases first
    · rcases stash : output.stash with _ | found
      · rfl
      · rw [stash] at second
        cases second
  · rintro ⟨upstream, stash⟩
    rw [upstream, stash]
    exact ⟨rfl, rfl⟩

theorem readRecords_later (present : output.laterHeaders ≠ []) (reading : StatusReading)
    (rest : List PyStr) :
    readRecords reading false (output.laterHeaders.map points ++ rest) = .error
      (.git .gitFailed) := by
  have starts : ∃ mark name, mark ∈ ["# branch.upstream ", "# stash "] ∧
      (output.laterHeaders.map points).head? = some (.ofString mark ++ points name) := by
    revert present
    unfold laterHeaders upstreamHeaders stashHeaders
    rcases output.upstream with _ | upstream
    · rcases output.stash with _ | count
      · exact fun present => absurd rfl present
      · exact fun _ => ⟨"# stash ", decimal count, by simp, by simp [ofString_points]⟩
    · exact fun _ => ⟨"# branch.upstream ", upstream.name, by simp, by simp [ofString_points]⟩
  rcases starts with ⟨mark, name, named, starts⟩
  rcases found : output.laterHeaders.map points with _ | ⟨first, later⟩
  · rw [found] at starts
    cases starts
  rw [found] at starts
  cases starts
  simp only [List.mem_cons, List.not_mem_nil, or_false] at named
  rcases named with rfl | rfl
  · rw [PyStr.ofString_ofList]
    apply readRecords_header
    · unfold after
      rw [PyStr.ofString_ofList]
      rfl
    · unfold after
      rw [PyStr.ofString_ofList]
      rfl
  · rw [PyStr.ofString_ofList]
    apply readRecords_header
    · unfold after
      rw [PyStr.ofString_ofList]
      rfl
    · unfold after
      rw [PyStr.ofString_ofList]
      rfl

theorem entry_whole (entry : StatusEntry) : ∀ record ∈ entry.records, '\x00' ∉ record := by
  have states (state : PathState) : '\x00' ≠ state.char := by cases state <;> decide
  intro record among
  cases entry with
  | ordinary index worktree detail path =>
      rw [List.mem_singleton.mp among]
      simp [StatusEntry.changed, states, detail.whole, path.whole]
  | moved index worktree detail path source =>
      rcases List.mem_cons.mp among with rfl | later
      · simp [StatusEntry.changed, states, detail.whole, path.whole]
      · rw [List.mem_singleton.mp later]
        exact source.whole
  | unmerged index worktree detail path =>
      rw [List.mem_singleton.mp among]
      simp [StatusEntry.changed, states, detail.whole, path.whole]
  | untracked path =>
      rw [List.mem_singleton.mp among]
      simp [path.whole]
  | ignored path =>
      rw [List.mem_singleton.mp among]
      simp [path.whole]

theorem header_whole : ∀ record ∈ output.laterHeaders, '\x00' ∉ record := by
  intro record among
  rcases List.mem_append.mp among with inside | inside
  · unfold upstreamHeaders at inside
    split at inside
    · cases inside
    · rename_i upstream _
      rcases List.mem_cons.mp inside with rfl | later
      · simp [upstream.whole]
      · split at later
        · cases later
        · rw [List.mem_singleton.mp later]
          simp [nul_decimal]
  · unfold stashHeaders at inside
    split at inside
    · cases inside
    · rw [List.mem_singleton.mp inside]
      simp [nul_decimal]

theorem oid_whole : '\x00' ∉ output.oidHeader := by
  have without : '\x00' ∉ output.oid.getD "(initial)".toList := by
    rcases oid : output.oid with _ | sha
    · decide
    · intro among
      have every := (Bool.and_eq_true_iff.mp (output.oid_valid sha oid)).2
      exact absurd (List.all_eq_true.mp every _ (mem_points.mpr among)) (by decide)
  unfold oidHeader
  rw [List.mem_append, not_or]
  exact ⟨by decide, without⟩

theorem head_whole : '\x00' ∉ output.headHeader := by
  have without : '\x00' ∉ output.head.getD "(detached)".toList := by
    rcases head : output.head with _ | name
    · decide
    · exact (output.head_valid name head).2
  unfold headHeader
  rw [List.mem_append, not_or]
  exact ⟨by decide, without⟩

theorem records_whole : ∀ record ∈ output.records, '\x00' ∉ record := by
  intro record among
  rcases List.mem_cons.mp among with rfl | among
  · exact output.oid_whole
  rcases List.mem_cons.mp among with rfl | among
  · exact output.head_whole
  rcases List.mem_append.mp among with inside | inside
  · exact output.header_whole record inside
  · rcases List.mem_flatMap.mp inside with ⟨entry, _, inside⟩
    exact entry_whole entry record inside

def Readable : Prop :=
  output.upstream = none ∧ output.stash = none ∧ output.head ≠ some "(detached)".toList ∧
    (∀ name ∈ output.head, name.length ≤ 255) ∧ output.staged ≤ 100000 ∧ output.unstaged ≤ 100000 ∧
    output.untracked ≤ 100000 ∧ output.size ≤ 1048576

def readBranch : Option PyStr :=
  if points (output.head.getD "(detached)".toList) = .ofString "(detached)" then none
  else some (points (output.head.getD "(detached)".toList))

def reading : StatusReading :=
  ⟨output.readBranch, output.oid.map points, output.staged, output.unstaged, output.untracked⟩

theorem oid_read : (if points (output.oid.getD "(initial)".toList) = .ofString "(initial)" then none
    else some (points (output.oid.getD "(initial)".toList))) = output.oid.map points := by
  rcases oid : output.oid with _ | sha
  · exact if_pos rfl
  · have valid := output.oid_valid sha oid
    have named : points sha ≠ .ofString "(initial)" := by
      intro same
      rw [same] at valid
      exact absurd valid (by rw [PyStr.ofString_ofList]; decide)
    exact if_neg named

theorem readRecords_records :
    readRecords {} false (output.records.map points ++ [[]]) =
      if output.laterHeaders = [] then .ok output.reading else .error (.git .gitFailed) := by
  have start : output.records.map points ++ [[]] =
      (PyStr.ofString "# branch.oid " ++ points (output.oid.getD "(initial)".toList)) ::
        (PyStr.ofString "# branch.head " ++ points (output.head.getD "(detached)".toList)) ::
          (output.laterHeaders.map points ++
            ((output.entries.flatMap StatusEntry.records).map points ++ [[]])) := by
    unfold records oidHeader headHeader
    simp only [List.map_cons, List.map_append, points_append, List.cons_append, List.append_assoc,
      laterHeaders]
    rfl
  rw [start, readRecords_oidHeader, readRecords_headHeader, output.oid_read]
  by_cases none_ : output.laterHeaders = []
  · rw [if_pos none_, none_, List.map_nil, List.nil_append, readRecords_entries, fold_count]
    simp only [Nat.zero_add]
    rfl
  · rw [if_neg none_]
    exact output.readRecords_later none_ _ _

/-- What `_parse_status` makes of a status. -/
theorem parseStatus_printed (marks : OperationMarks) :
    parseStatus marks ⟨printed output.text, output.size, false⟩ =
      if output.laterHeaders = [] then
        if (output.reading.report marks output.size).check = true then
          .ok (output.reading.report marks output.size)
        else .error .invalid
      else .error (.git .gitFailed) := by
  have read := output.readRecords_records
  rw [← terminated_split output.records_whole] at read
  by_cases none_ : output.laterHeaders = []
  · rw [if_pos none_] at read ⊢
    exact parseStatus_read marks ⟨printed output.text, output.size, false⟩
      (decode_printed output.text) read
  · rw [if_neg none_] at read ⊢
    unfold parseStatus
    rw [decode_printed]
    show (readRecords {} false _ >>= _) = _
    rw [text, read]
    rfl

theorem readBranch_iff :
    output.readBranch = output.head.map points ↔ output.head ≠ some "(detached)".toList := by
  unfold readBranch
  rcases head : output.head with _ | name
  · exact ⟨fun _ => by simp, fun _ => if_pos rfl⟩
  · constructor
    · intro read same
      rw [Option.some.inj same] at read
      exact absurd (read.symm.trans (if_pos rfl)) (by simp)
    · intro named
      have other : points name ≠ .ofString "(detached)" := by
        intro same
        exact named (congrArg some (points_injective same))
      exact if_neg other

theorem report_check (marks : OperationMarks) :
    (output.report marks).check = true ↔
      (∀ name ∈ output.head, name.length ≤ 255) ∧ output.staged ≤ 100000 ∧
      output.unstaged ≤ 100000 ∧
        output.untracked ≤ 100000 ∧ output.size ≤ 1048576 := by
  have sha : (output.oid.map points).all shaText = true := by
    rcases oid : output.oid with _ | sha
    · rfl
    · exact output.oid_valid sha oid
  have branch : (output.head.map points).all branchText = true ↔
      ∀ name ∈ output.head, name.length ≤ 255 := by
    rcases head : output.head with _ | name
    · simp
    · have some_ : 1 ≤ name.length := List.length_pos_iff.mpr (output.head_valid name head).1
      simp [branchText, points, some_]
  unfold GitRepositoryStatus.check report
  rw [Bool.and_eq_true, Bool.and_eq_true, branch, sha, decide_eq_true_eq]
  simp

end StatusOutput

/-- A status is accepted and reported as it is exactly when it has no header after the branch's, the
branch has another name than a detached head and the bounds of the report hold. -/
theorem status_exact (marks : OperationMarks) (output : StatusOutput) :
    parseStatus marks ⟨printed output.text, output.size, false⟩ = .ok (output.report marks) ↔
    output.Readable := by
  have reported (named : output.readBranch = output.head.map points) :
      output.reading.report marks output.size = output.report marks := by
    unfold StatusReading.report StatusOutput.reading StatusOutput.report
    rw [named, Option.isNone_map]
  rw [output.parseStatus_printed]
  constructor
  · intro accepted
    split at accepted
    · rename_i none_
      split at accepted
      · rename_i checked
        have same := Except.ok.inj accepted
        have named : output.readBranch = output.head.map points :=
          congrArg GitRepositoryStatus.branch same
        rw [same, output.report_check] at checked
        have headers := output.laterHeaders_nil.mp none_
        exact ⟨headers.1, headers.2, output.readBranch_iff.mp named, checked⟩
      · cases accepted
    · cases accepted
  · intro readable
    rcases readable with ⟨upstream, stash, named, bounds⟩
    rw [if_pos (output.laterHeaders_nil.mpr ⟨upstream, stash⟩),
      reported (output.readBranch_iff.mpr named), if_pos ((output.report_check marks).mpr bounds)]

def freshClone : StatusOutput where
  oid := some (List.replicate 40 'a')
  head := some "main".toList
  upstream := some ⟨"origin/main".toList, some (0, 0), by decide⟩
  stash := none
  entries := []
  oid_valid := by
    intro sha same
    cases same
    decide
  head_valid := by
    intro name same
    cases same
    decide

/-- The status of a fresh clone is refused. -/
theorem fresh_clone_refused :
    parseStatus {} ⟨printed freshClone.text, freshClone.size, false⟩ = .error
      (.git .gitFailed) := by
  have followed : freshClone.laterHeaders ≠ [] := by
    intro none_
    exact absurd (freshClone.laterHeaders_nil.mp none_).1 (by simp [freshClone])
  rw [freshClone.parseStatus_printed, if_neg followed]

end SynapseOS.LocalGit
