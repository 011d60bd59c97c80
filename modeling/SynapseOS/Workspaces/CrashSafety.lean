import SynapseOS.Lib.Utf8
import SynapseOS.Workspaces.Separation

/-! A separation of the git metadata that fails or stops at any call, and the call after it. -/

namespace SynapseOS.Workspaces

open Execution Program Tools

section Text

theorem universalNewlines_plain {text : PyStr}
    (plain : 0x0D ∉ text) : universalNewlines text = text := by
  induction text with
  | nil => rfl
  | cons point rest ih =>
      have other : point ≠ 0x0D := fun same => plain (by simp [same])
      have below : 0x0D ∉ rest := fun among => plain (List.mem_cons_of_mem _ among)
      rw [universalNewlines, if_neg other, ih below]
      intro tail same
      exact absurd same other

variable {paths : ManagedPaths} {disk : Files} {project : UUID} {inode : Nat}

theorem strip_line {head last : Nat} (middle : PyStr) (opens : space head = false)
    (ends : space last = false) : strip (head :: middle ++ [last] ++ [0x0A]) = head ::
      middle ++ [last] := by
  have front : (head :: middle ++ [last] ++ [0x0A]).dropWhile space = head :: middle ++
      [last] ++ [0x0A] := by
    simp [opens]
  have feed : space 0x0A = true := rfl
  rw [strip, front, List.rdropWhile_concat, if_pos feed, List.rdropWhile_concat,
    if_neg (by simp [ends])]

theorem decoded_text (text : String) : String.fromUTF8? text.toUTF8 = some text := by
  have decoded := Utf8.fromUTF8_encode text.toList
  rw [← Utf8.toByteArray_ofList, String.ofList_toList] at decoded
  exact decoded

theorem pointer_text (paths : ManagedPaths) (project : UUID) :
    PyStr.ofString (paths.pointer project) =
    PyStr.ofString "gitdir: " ++ PyStr.ofString (paths.location project) := by
  simp [PyStr.ofString, ManagedPaths.pointer]

theorem payload_points (plain : 0x0D ∉ PyStr.ofString (paths.location project))
    (content : (disk.inodes inode).content = (paths.pointer project ++ "\n").toUTF8) :
    pointsAt paths project disk inode = true := by
  rcases paths.solid project with ⟨front, last, location, ends⟩
  have opening : PyStr.ofString "gitdir: " = [0x67, 0x69, 0x74, 0x64, 0x69, 0x72, 0x3A, 0x20] := rfl
  have read : PyStr.ofString (paths.pointer project ++ "\n") =
      PyStr.ofString (paths.pointer project) ++ [0x0A] := by
    simp [PyStr.ofString]
  have text : PyStr.ofString (paths.pointer project) =
      0x67 :: ([0x69, 0x74, 0x64, 0x69, 0x72, 0x3A, 0x20] ++ front) ++ [last] := by
    rw [pointer_text, opening, location]
    simp
  have whole : 0x0D ∉ PyStr.ofString (paths.pointer project ++ "\n") := by
    rw [read, pointer_text, opening]
    simp [plain]
  have named : strip (universalNewlines (PyStr.ofString (paths.pointer project ++ "\n"))) =
      PyStr.ofString (paths.pointer project) := by
    rw [universalNewlines_plain whole, read, text]
    exact strip_line _ rfl ends
  rw [pointsAt, content, decoded_text]
  exact decide_eq_true named

end Text

section Places

def Stands (disk : Files) (here there : Place Slot Name) (entries : Entries Name) : Prop :=
  disk.find here = .ok (.directory entries) ∧ ∀ other, disk.find there ≠ .ok (.directory other)

/-- The git directory stands in the worktree or among the metadata, and not in both. -/
def Placed (disk : Files) (project : UUID) (entries : Entries Name) : Prop :=
  Stands disk (gitMarker project) (projectChild .gitMetadata project) entries ∨
    Stands disk (projectChild .gitMetadata project) (gitMarker project) entries

def SameContents (entries : Entries Name) (origin disk : Files) : Prop :=
  ∀ inode < Entries.bound entries, (disk.inodes inode).content = (origin.inodes inode).content

def Separated (paths : ManagedPaths) (disk : Files) (project : UUID) (entries : Entries Name) :
    Prop :=
  disk.find (projectChild .gitMetadata project) = .ok (.directory entries) ∧
    ∃ inode, disk.find (gitMarker project) = .ok (.file inode) ∧
    pointsAt paths project disk inode = true

/-- A worktree whose marker is the git directory, its pointer, or gone. -/
def Recoverable (paths : ManagedPaths) (disk : Files) (project : UUID) (entries : Entries Name) :
    Prop :=
  (∃ inner, Worktree disk project inner) ∧
    (disk.find (gitMarker project) = .ok (.directory entries) ∧
        disk.find (projectChild .gitMetadata project) = .error .missing ∨
      disk.find (projectChild .gitMetadata project) = .ok (.directory entries) ∧
        disk.find (gitMarker project) = .error .missing ∨
      Separated paths disk project entries)

def worktreePlace (project : UUID) (name : Name) : Place Slot Name :=
  ⟨.projects, [.project project], name⟩

variable {disk after : Files} {project : UUID} {entries : Entries Name}
    {here there : Place Slot Name}

theorem find_aside {name : Name} {f : Entries Name → Entries Name} (disk : Files) (project : UUID)
    (aside : ∀ entries, Assoc.get name (f entries) = Assoc.get name entries) :
    (disk.alter .projects [.project project] f).find (worktreePlace project name) =
      disk.find (worktreePlace project name) := by
  show Entries.find [.project project] name
    ((disk.alter .projects [.project project] f).top .projects) =
    Entries.find [.project project] name (disk.top .projects)
  rw [Disk.alter_top_self]
  unfold Entries.find
  rw [Entries.enter_alter]
  cases Entries.enter [.project project] (disk.top .projects) with
  | error error => rfl
  | ok inner => simp only [Except.map, bind, Except.bind, aside]

theorem worktree_of_find {name : Name} {node : Node Name}
    (found : disk.find (worktreePlace project name) = .ok node) :
    ∃ inner, Worktree disk project inner := by
  rcases (Disk.find_eq _ _ _).mp found with ⟨inner, entered, _⟩
  exact ⟨inner, worktree_entered entered⟩

theorem givesWay_directory {node : Node Name} {done : Unit}
    (gives : Disk.givesWay node (some (.directory entries)) = .ok done) : ∃ below, node =
      .directory below := by
  cases node with
  | directory below => exact ⟨below, rfl⟩
  | file | link | special => cases entries <;> cases gives

theorem stands_missing (held : disk.find here = .ok (.directory entries))
    (gone : disk.find there = .error .missing) : Stands disk here there entries := by
  refine ⟨held, ?_⟩
  intro other impossible
  rw [gone] at impossible
  cases impossible

/-- Between the two places only the directory moves. -/
theorem rename_swaps (apart : here.slot ≠ there.slot) (run : disk.rename here there = .ok after)
    (stands : Stands disk here there entries ∨ Stands disk there here entries) :
    disk.find here = .ok (.directory entries) ∧ after.find there = .ok (.directory entries) ∧
      after.find here = .error .missing ∧
      after = (disk.unbind here).bind there (.directory entries) ∧
      ∃ inner, Entries.enter there.path (disk.top there.slot) = .ok inner := by
  unfold Disk.rename at run
  rcases bind_ok run with ⟨node, found, run⟩
  rcases bind_ok run with ⟨inner, entered, run⟩
  dsimp only at run
  rcases bind_ok run with ⟨_, gives, run⟩
  rw [if_neg (fun inside => apart inside.1)] at run
  rcases stands with ⟨held, free⟩ | ⟨held, free⟩
  · rw [found] at held
    cases held
    have absent : Assoc.get there.name inner = none := by
      cases taken : Assoc.get there.name inner with
      | none => rfl
      | some other =>
          rw [taken] at gives
          cases other with
          | directory below =>
              exact absurd ((Disk.find_eq _ _ _).mpr ⟨inner, entered, taken⟩) (free below)
          | file | link | special => cases gives
    rw [absent] at run
    cases run
    have moved : ((disk.unbind here).bind there (.directory entries)).find there =
        .ok (.directory entries) := by
      have still : Entries.enter there.path ((disk.unbind here).top there.slot) = .ok inner := by
        rw [Disk.unbind, Disk.alter_top_other _ _ _ (Ne.symm apart)]
        exact entered
      rw [Disk.bind, Disk.find_alter _ _ _ still, Assoc.get_set, if_pos rfl]
    have left : ((disk.unbind here).bind there (.directory entries)).find here =
        .error .missing := by
      rcases (Disk.find_eq _ _ _).mp found with ⟨old, reached, _⟩
      rw [Disk.find_bind_other _ _ _ apart, Disk.unbind, Disk.find_alter _ _ _ reached,
        Assoc.get_erase, if_pos rfl]
    exact ⟨found, moved, left, rfl, inner, entered⟩
  · rcases (Disk.find_eq _ _ _).mp held with ⟨_, same, taken⟩
    rw [entered] at same
    cases same
    rw [taken] at gives
    rcases givesWay_directory gives with ⟨below, rfl⟩
    exact absurd found (free below)

theorem rename_moves {inode : Nat} (found : disk.find here = .ok (.file inode))
    (covered : disk.find there ≠ .ok (.file inode)) (run : disk.rename here there = .ok after) :
    (∀ other, disk.find there ≠ .ok (.directory other)) ∧
      ∃ held, after = ((disk.unbind here).bind there (.file inode)).unlinked held := by
  unfold Disk.rename at run
  rcases bind_ok run with ⟨node, same, run⟩
  rw [found] at same
  cases same
  rcases bind_ok run with ⟨inner, entered, run⟩
  dsimp only at run
  rcases bind_ok run with ⟨_, gives, run⟩
  split at run
  · cases run
  constructor
  · intro other held
    rcases (Disk.find_eq _ _ _).mp held with ⟨_, same, taken⟩
    rw [entered] at same
    cases same
    rw [taken] at gives
    rcases givesWay_directory gives with ⟨below, impossible⟩
    cases impossible
  · cases taken : Assoc.get there.name inner with
    | none =>
        rw [taken] at run
        cases run
        exact ⟨_, rfl⟩
    | some node =>
        rw [taken] at run
        cases node with
        | directory | link | special =>
            cases run
            exact ⟨_, rfl⟩
        | file other =>
            have distinct : inode ≠ other := by
              rintro rfl
              exact covered ((Disk.find_eq _ _ _).mpr ⟨inner, entered, taken⟩)
            dsimp only at run
            rw [if_neg distinct] at run
            cases run
            exact ⟨_, rfl⟩

theorem bound_directory {place : Place Slot Name}
    (found : disk.find place = .ok (.directory entries)) :
    Entries.bound entries ≤ disk.fresh := by
  rcases (Disk.find_eq _ _ _).mp found with ⟨inner, entered, held⟩
  calc
    Entries.bound entries ≤ Entries.bound inner := Entries.bound_get held
    _ ≤ Entries.bound (disk.top place.slot) := Entries.bound_enter entered
    _ ≤ disk.fresh := disk.bound_le_fresh place.slot

theorem unlinked_content (disk : Files) (held : Option (Node Name)) (inode : Nat) :
    ((disk.unlinked held).inodes inode).content = (disk.inodes inode).content := by
  unfold Disk.unlinked
  split
  · next other =>
      by_cases same : inode = other
      · rw [same, Disk.touch_inodes_self]
      · rw [Disk.touch_inodes_other _ _ same]
  · rfl

end Places

section Steps

/-- What a separation leaves at each of its calls of the disk that it found. -/
structure Kept (paths : ManagedPaths) (project : UUID) (token : PyStr) (entries : Entries Name)
    (origin disk : Files) : Prop where
  placed : Placed disk project entries
  recovers : 0x0D ∉ PyStr.ofString (paths.location project) →
    Recoverable paths origin project entries →
    Recoverable paths disk project entries
  contents : SameContents entries origin disk
  others : ∀ name, name ≠ (gitMarker project).name → name ≠ (pointerPlace project token).name →
    disk.find (worktreePlace project name) = origin.find (worktreePlace project name)

structure Draft (paths : ManagedPaths) (project : UUID) (token : PyStr) (entries : Entries Name)
    (filled : Bool) (origin disk : Files) : Prop where
  kept : Kept paths project token entries origin disk
  held : ∃ inode, disk.find (pointerPlace project token) = .ok (.file inode) ∧
    Entries.bound entries ≤ inode ∧ disk.find (gitMarker project) ≠ .ok (.file inode) ∧
    (filled = true → (disk.inodes inode).content = (paths.pointer project ++ "\n").toUTF8)

structure Cleared (paths : ManagedPaths) (project : UUID) (token : PyStr) (entries : Entries Name)
    (origin disk : Files) : Prop where
  kept : Kept paths project token entries origin disk
  gone : disk.find (pointerPlace project token) = .error .missing
  separated : 0x0D ∉ PyStr.ofString (paths.location project) → Separated paths disk project entries

variable {paths : ManagedPaths} {project : UUID} {token : PyStr} {entries : Entries Name}
  {origin disk after : Files}

theorem pointsAt_content {inode : Nat}
    (same : (after.inodes inode).content = (disk.inodes inode).content) :
    pointsAt paths project after inode = pointsAt paths project disk inode := by
  unfold pointsAt
  rw [same]

theorem Kept.step (kept : Kept paths project token entries origin disk)
    (worktree : (∃ inner, Worktree disk project inner) → ∃ inner, Worktree after project inner)
    (metadata : after.top .gitMetadata = disk.top .gitMetadata)
    (beside : ∀ name, name ≠ (pointerPlace project token).name →
      after.find (worktreePlace project name) = disk.find (worktreePlace project name))
    (contents : ∀ inode, inode < Entries.bound entries ∨
      disk.find (gitMarker project) = .ok (.file inode) →
      (after.inodes inode).content = (disk.inodes inode).content) :
    Kept paths project token entries origin after := by
  have marked : after.find (gitMarker project) = disk.find (gitMarker project) :=
    beside (gitMarker project).name pointer_apart.symm
  have stored : after.find (projectChild .gitMetadata project) = disk.find
      (projectChild .gitMetadata project) :=
    Disk.find_congr metadata
  constructor
  · have placed := kept.placed
    unfold Placed Stands at placed ⊢
    rw [marked, stored]
    exact placed
  · intro plain start
    rcases kept.recovers plain start with ⟨tree, there⟩
    refine ⟨worktree tree, ?_⟩
    unfold Separated
    rw [marked, stored]
    rcases there with whole | bare | ⟨managed, inode, pointer, points⟩
    · exact .inl whole
    · exact .inr (.inl bare)
    · exact .inr
        (.inr ⟨managed, inode, pointer,
          (pointsAt_content (contents inode (.inr pointer))).trans points⟩)
  · intro inode below
    exact (contents inode (.inl below)).trans (kept.contents inode below)
  · intro name unmarked apart
    exact (beside name apart).trans (kept.others name unmarked apart)

theorem kept_refl (placed : Placed disk project entries) :
    Kept paths project token entries disk disk :=
  ⟨placed, fun _ start => start, fun _ _ => rfl, fun _ _ _ => rfl⟩

theorem create_disk {place : Place Slot Name} {mode : Nat}
    (run : disk.create place mode = .ok after) : disk.vacant place = .ok () ∧
      after = (disk.bind place (.file disk.fresh)).touch disk.fresh fun _ => ⟨.empty, mode, 1⟩ := by
  unfold Disk.create at run
  rcases bind_ok run with ⟨_, free, run⟩
  cases run
  exact ⟨free, rfl⟩

theorem placed_bound (placed : Placed disk project entries) :
    Entries.bound entries ≤ disk.fresh := by
  rcases placed with stands | stands
  · exact bound_directory stands.1
  · exact bound_directory stands.1

theorem kept_created {mode : Nat} (kept : Kept paths project token entries origin disk)
    (run : disk.create (pointerPlace project token) mode = .ok after) :
    Draft paths project token entries false origin after := by
  rcases create_disk run with ⟨free, rfl⟩
  have metadata : (Slot.gitMetadata : Slot) ≠ .projects := Slot.noConfusion
  rcases (Disk.vacant_ok _ _).mp free with ⟨inner, entered, _⟩
  have beside : ∀ name, name ≠ (pointerPlace project token).name →
      ((disk.bind (pointerPlace project token) (.file disk.fresh)).touch disk.fresh
        fun _ => ⟨.empty, mode, 1⟩).find (worktreePlace project name) =
      disk.find (worktreePlace project name) := by
    intro name apart
    apply find_aside disk project
    intro inside
    rw [Assoc.get_set, if_neg (Ne.symm apart)]
  have untouched : ∀ inode, inode < Entries.bound entries ∨
      disk.find (gitMarker project) = .ok (.file inode) →
      inode ≠ disk.fresh := by
    intro inode known
    rcases known with below | marked
    · exact Nat.ne_of_lt (lt_of_lt_of_le below (placed_bound kept.placed))
    · exact Nat.ne_of_lt (Disk.find_below_fresh _ _ marked)
  constructor
  · apply kept.step
    · rintro ⟨below, tree⟩
      exact ⟨_,
        worktree_alter tree (Assoc.set (pointerPlace project token).name (.file disk.fresh))⟩
    · show (disk.bind (pointerPlace project token) (.file disk.fresh)).top .gitMetadata = _
      exact Disk.alter_top_other _ _ _ metadata
    · exact beside
    · intro inode known
      rw [Disk.touch_inodes_other _ _ (untouched inode known)]
      rfl
  · refine ⟨disk.fresh, ?_, placed_bound kept.placed, ?_, nofun⟩
    · show (disk.bind (pointerPlace project token) (.file disk.fresh)).find
        (pointerPlace project token) = _
      rw [Disk.bind, Disk.find_alter _ _ _ entered, Assoc.get_set, if_pos rfl]
    · intro marked
      have before := beside (gitMarker project).name pointer_apart.symm
      exact untouched disk.fresh (.inr (before.symm.trans marked)) rfl

theorem Draft.filled (draft : Draft paths project token entries false origin disk)
    (run : disk.write (pointerPlace project token) (paths.pointer project ++ "\n").toUTF8 =
      .ok after) :
    Draft paths project token entries true origin after := by
  rcases draft.held with ⟨inode, found, above, apart, _⟩
  unfold Disk.write Disk.change at run
  rw [found] at run
  cases run
  constructor
  · apply draft.kept.step
    · exact id
    · rfl
    · exact fun _ _ => rfl
    intro other known
    have distinct : other ≠ inode := by
      rintro rfl
      rcases known with below | marked
      · omega
      · exact apart marked
    rw [Disk.touch_inodes_other _ _ distinct]
  · refine ⟨inode, found, above, apart, fun _ => ?_⟩
    rw [Disk.touch_inodes_self]

theorem Draft.renamed (draft : Draft paths project token entries true origin disk)
    (run : disk.rename (pointerPlace project token) (gitMarker project) = .ok after) :
    Cleared paths project token entries origin after := by
  rcases draft.held with ⟨inode, found, _, apart, full⟩
  rcases rename_moves found apart run with ⟨open_, held, rfl⟩
  have stored : disk.find (projectChild .gitMetadata project) = .ok (.directory entries) := by
    rcases draft.kept.placed with stands | stands
    · exact absurd stands.1 (open_ entries)
    · exact stands.1
  have metadata : (Slot.gitMetadata : Slot) ≠ .projects := Slot.noConfusion
  rcases worktree_of_find found with ⟨inner, tree⟩
  have moved : Worktree (((disk.unbind (pointerPlace project token)).bind (gitMarker project)
      (.file inode)).unlinked held) project (Assoc.set (gitMarker project).name (.file inode)
        (Assoc.erase (pointerPlace project token).name inner)) := by
    apply worktree_top
      (worktree_alter (worktree_alter tree (Assoc.erase (pointerPlace project token).name))
      (Assoc.set (gitMarker project).name (.file inode)))
    rw [Disk.unlinked_top]
    rfl
  have marked : (((disk.unbind (pointerPlace project token)).bind (gitMarker project)
      (.file inode)).unlinked held).find (gitMarker project) = .ok (.file inode) := by
    apply (worktree_find moved _ _).mpr
    rw [Assoc.get_set]
    exact if_pos rfl
  have still : (((disk.unbind (pointerPlace project token)).bind (gitMarker project)
      (.file inode)).unlinked held).find (projectChild .gitMetadata project) =
        .ok (.directory entries) := by
    rw [← stored]
    apply Disk.find_congr
    rw [Disk.unlinked_top]
    exact (Disk.alter_top_other _ _ _ metadata).trans (Disk.alter_top_other _ _ _ metadata)
  have same : ∀ number, ((((disk.unbind (pointerPlace project token)).bind (gitMarker project)
      (.file inode)).unlinked held).inodes number).content = (disk.inodes number).content :=
    fun number => unlinked_content _ held number
  have separated : 0x0D ∉ PyStr.ofString (paths.location project) →
      Separated paths (((disk.unbind (pointerPlace project token)).bind (gitMarker project)
        (.file inode)).unlinked held) project entries :=
    fun plain => ⟨still, inode, marked, payload_points plain ((same inode).trans (full rfl))⟩
  constructor
  · constructor
    · refine .inr ⟨still, ?_⟩
      intro other impossible
      rw [marked] at impossible
      cases impossible
    · exact fun plain _ => ⟨⟨_, moved⟩, .inr (.inr (separated plain))⟩
    · exact fun number below => (same number).trans (draft.kept.contents number below)
    · intro name unmarked apart
      rw [← draft.kept.others name unmarked apart,
        Disk.find_congr (congrFun (Disk.unlinked_top _ held) _)]
      calc
        _ = (disk.unbind (pointerPlace project token)).find (worktreePlace project name) := by
          apply find_aside _ project
          intro inside
          rw [Assoc.get_set, if_neg (Ne.symm unmarked)]
        _ = disk.find (worktreePlace project name) := by
          apply find_aside _ project
          intro inside
          rw [Assoc.get_erase, if_neg (Ne.symm apart)]
  · have gone :
      Assoc.get (pointerPlace project token).name (Assoc.set (gitMarker project).name (.file inode)
        (Assoc.erase (pointerPlace project token).name inner)) = (none : Option (Node Name)) := by
      rw [Assoc.get_set, if_neg pointer_apart.symm, Assoc.get_erase, if_pos rfl]
    exact worktree_missing moved gone
  · exact separated

theorem kept_unlinked (kept : Kept paths project token entries origin disk)
    (run : disk.unlink (pointerPlace project token) = .ok after) :
    Kept paths project token entries origin after := by
  rcases Disk.unlink_returned run with ⟨node, _, rfl⟩
  have metadata : (Slot.gitMetadata : Slot) ≠ .projects := Slot.noConfusion
  apply kept.step
  · rintro ⟨inner, tree⟩
    refine ⟨_,
      worktree_top (worktree_alter tree (Assoc.erase (pointerPlace project token).name)) ?_⟩
    rw [Disk.unlinked_top]
    rfl
  · rw [Disk.unlinked_top]
    exact Disk.alter_top_other _ _ _ metadata
  · intro name apart
    rw [Disk.find_congr (congrFun (Disk.unlinked_top _ (some node)) _)]
    apply find_aside disk project
    intro inside
    rw [Assoc.get_erase, if_neg (Ne.symm apart)]
  · exact fun inode _ => unlinked_content _ (some node) inode

theorem kept_moved (kept : Kept paths project token entries origin disk)
    (run : disk.rename (gitMarker project) (projectChild .gitMetadata project) = .ok after) :
    Kept paths project token entries origin after := by
  have apart : (gitMarker project).slot ≠ (projectChild .gitMetadata project).slot :=
    Slot.noConfusion
  rcases rename_swaps apart run kept.placed with ⟨found, stored, gone, rfl, _⟩
  rcases worktree_of_find found with ⟨inner, tree⟩
  constructor
  · exact .inr (stands_missing stored gone)
  · intro _ _
    have left := worktree_alter tree (Assoc.erase (gitMarker project).name)
    exact ⟨⟨_, worktree_top left (Disk.alter_top_other _ _ _ apart)⟩, .inr (.inl ⟨stored, gone⟩)⟩
  · exact kept.contents
  · intro name unmarked aside
    rw [← kept.others name unmarked aside]
    calc
      _ = (disk.unbind (gitMarker project)).find (worktreePlace project name) :=
        Disk.find_bind_other _ _ _ apart
      _ = disk.find (worktreePlace project name) := by
        apply find_aside disk project
        intro inside
        rw [Assoc.get_erase, if_neg (Ne.symm unmarked)]

theorem kept_returned (kept : Kept paths project token entries origin disk)
    (run : disk.rename (projectChild .gitMetadata project) (gitMarker project) = .ok after) :
    Kept paths project token entries origin after := by
  have apart : (projectChild .gitMetadata project).slot ≠ (gitMarker project).slot :=
    Slot.noConfusion
  rcases rename_swaps apart run kept.placed.symm with ⟨_, marked, gone, rfl, inner, entered⟩
  have tree : Worktree (disk.unbind (projectChild .gitMetadata project)) project inner :=
    worktree_top (worktree_entered entered) (Disk.alter_top_other _ _ _ apart.symm)
  constructor
  · exact .inl (stands_missing marked gone)
  · intro _ _
    exact ⟨⟨_, worktree_alter tree (Assoc.set (gitMarker project).name (.directory entries))⟩,
      .inl ⟨marked, gone⟩⟩
  · exact kept.contents
  · intro name unmarked aside
    rw [← kept.others name unmarked aside]
    calc
      _ = (disk.unbind (projectChild .gitMetadata project)).find (worktreePlace project name) := by
        apply find_aside _ project
        intro inside
        rw [Assoc.get_set, if_neg (Ne.symm unmarked)]
      _ = disk.find (worktreePlace project name) := Disk.find_unbind_other _ _ apart.symm

end Steps

section Runs

theorem triple_still {α : Type} {pre : Files → Prop} {body : Program Files Raised α}
    (still : Still body) : Triple pre body (fun _ => pre) fun _ => pre := by
  intro disk start
  rcases run : body disk with ⟨raised | a, after⟩
  · rw [still_end still run]
    exact start
  · rw [still_end still run]
    exact start

theorem triple_change {pre post : Files → Prop} {effect : Files → Except OSError Files}
    (fails : Bool) (moves : ∀ disk after, pre disk → effect disk = .ok after → post after) :
    Triple pre (change fails effect) (fun _ => post) fun _ => pre := by
  intro disk start
  rcases change_cases fails effect disk with ⟨error, refused⟩ | ⟨after, done, passed⟩
  · rw [refused]
    exact start
  · rw [passed]
    exact moves disk after start done

theorem triple_unlink {held : Files → Prop} (fails : Bool) (place : Place Slot Name)
    (moves : ∀ disk after, held disk → disk.unlink place = .ok after → held after) :
    Triple held (unlinkSuppressed fails place) (fun _ => held) fun _ => held := by
  intro disk start
  rcases change_cases fails (fun disk => disk.unlink place) disk
    with ⟨error, refused⟩ | ⟨after, done, passed⟩
  · unfold unlinkSuppressed
    rw [run_attempt refused]
    cases error <;> exact start
  · unfold unlinkSuppressed
    rw [run_attempt passed]
    exact moves disk after start done

theorem still_closeLeft (fails : Bool) (opened written closed : Except Raised Unit) :
    Still (closeLeft fails opened written closed) := by
  unfold closeLeft
  split
  · exact still_ask _ _
  · exact still_raise _
  · exact still_pure _

theorem triple_unsafe {α : Type} {post : α → Files → Prop} {fails : Files → Prop}
    (outcome : Except Raised α) :
    Triple (Outcome post (fun _ => fails) outcome) (resume (unsafeOutcome outcome)) post fun _ =>
      fails := by
  rcases outcome with raised | a
  · cases raised <;> exact triple_raise _ fun _ held => held
  · exact triple_give a fun _ held => held

variable (paths : ManagedPaths) (faults : GitCalls) (project : UUID) (token : PyStr)
    (entries : Entries Name)
  (origin : Files)

theorem cleared_unlinked (disk after : Files)
    (cleared : Cleared paths project token entries origin disk)
    (run : disk.unlink (pointerPlace project token) = .ok after) :
    Cleared paths project token entries origin after := by
  rcases Disk.unlink_returned run with ⟨node, found, _⟩
  rw [cleared.gone] at found
  cases found

/-- The pointer is written, and no temporary file is left, or the separation goes on from what is
kept. -/
theorem triple_pointer : Triple (Kept paths project token entries origin)
    (writeGitPointer paths faults project token)
    (fun _ => Cleared paths project token entries origin)
    fun _ => Kept paths project token entries origin := by
  apply triple_bind (m := Outcome (fun _ => Draft paths project token entries false origin)
    fun _ => Kept paths project token entries origin)
  · apply triple_attempt
    exact triple_change _ fun _ _ kept created => kept_created kept created
  intro opened
  apply triple_bind (m := Outcome (fun _ => Draft paths project token entries true origin)
    fun _ => Kept paths project token entries origin)
  · apply triple_attempt
    apply triple_bind (triple_resume opened fun _ _ _ kept => kept)
    intro _
    apply triple_bind (m := fun _ => Draft paths project token entries true origin)
    · exact triple_weaken (triple_change _ fun _ _ draft run => draft.filled run)
        (fun _ draft => draft) (fun _ _ draft => draft) (fun _ _ draft => draft.kept)
    · exact fun _ => triple_weaken (triple_still (still_ask _ _)) (fun _ draft => draft)
        (fun _ _ draft => draft) (fun _ _ draft => draft.kept)
  intro written
  apply triple_bind (m := Outcome (fun _ => Draft paths project token entries true origin)
    fun _ => Kept paths project token entries origin)
  · apply triple_attempt
    apply triple_bind (triple_resume written fun _ _ _ kept => kept)
    exact fun _ => triple_weaken (triple_still (still_ask _ _)) (fun _ draft => draft)
      (fun _ _ draft => draft) (fun _ _ draft => draft.kept)
  intro closed
  apply triple_bind (m := Outcome (fun _ => Cleared paths project token entries origin)
    fun _ => Kept paths project token entries origin)
  · apply triple_attempt
    apply triple_bind (triple_resume closed fun _ _ _ kept => kept)
    exact fun _ => triple_weaken (triple_change _ fun _ _ draft run => draft.renamed run)
      (fun _ draft => draft) (fun _ _ cleared => cleared) (fun _ _ draft => draft.kept)
  intro replaced
  -- A pointer that was written stays written whatever the last calls do.
  apply triple_bind (m := fun _ => Outcome (fun _ => Cleared paths project token entries origin)
    (fun _ => Kept paths project token entries origin) replaced)
  · apply triple_weaken (triple_still (still_closeLeft _ opened written closed))
      (fun _ held => held) (fun _ _ held => held)
    intro _ disk held
    cases replaced with
    | error raised => exact held
    | ok done => exact held.kept
  intro _
  apply triple_bind (m := fun _ => Outcome (fun _ => Cleared paths project token entries origin)
    (fun _ => Kept paths project token entries origin) replaced)
  · cases replaced with
    | error raised => exact triple_unlink _ _ fun _ _ kept run => kept_unlinked kept run
    | ok done =>
        exact triple_weaken
          (triple_unlink _ _ (cleared_unlinked paths project token entries origin))
          (fun _ cleared => cleared) (fun _ _ cleared => cleared) fun _ _ cleared => cleared.kept
  exact fun _ => triple_unsafe replaced

structure Finished (found : Place Slot Name) (disk : Files) : Prop where
  managed : found = projectChild .gitMetadata project
  kept : Kept paths project token entries origin disk
  clear : origin.find (pointerPlace project token) = .error .missing →
    disk.find (pointerPlace project token) = .error .missing
  separated : 0x0D ∉ PyStr.ofString (paths.location project) → Separated paths disk project entries

theorem triple_owned (owned : Faults) : Triple (Cleared paths project token entries origin)
    (requireDirectDirectory owned (projectChild .gitMetadata project) .gitMetadata)
    (Finished paths project token entries origin) fun _ =>
      Kept paths project token entries origin := by
  intro disk cleared
  rcases run : requireDirectDirectory owned (projectChild .gitMetadata project) .gitMetadata disk
    with ⟨raised | found, after⟩
  · rw [still_end (still_requireDirectDirectory _ _ _) run]
    exact cleared.kept
  · rcases requireDirectDirectory_returned run with ⟨rfl, named, _⟩
    exact ⟨named, cleared.kept, fun _ => cleared.gone, cleared.separated⟩

/-- However it ends, a move of the metadata keeps the git directory. -/
theorem triple_separate : Triple (Kept paths project token entries origin)
    (separate paths faults project token) (Finished paths project token entries origin)
    fun _ => Kept paths project token entries origin := by
  apply triple_bind (m := Outcome (fun _ => Cleared paths project token entries origin)
    fun _ => Kept paths project token entries origin)
  · apply triple_attempt
    apply triple_bind (triple_change _ fun _ _ kept run => kept_moved kept run)
    exact fun _ => triple_pointer paths faults project token entries origin
  intro outcome
  cases outcome with
  | ok done => exact triple_owned paths project token entries origin _
  | error raised =>
      apply triple_bind (m := fun _ => Kept paths project token entries origin)
      · apply triple_bind (triple_still (still_pathExists _ _))
        intro stands
        apply triple_ite
        · exact fun _ => triple_give _ fun _ kept => kept
        · intro _
          apply triple_bind (triple_still (still_pathExists _ _))
          intro away
          apply triple_ite
          · exact fun _ => triple_change _ fun _ _ kept run => kept_returned kept run
          · exact fun _ => triple_give _ fun _ kept => kept
      · intro _
        cases raised <;> exact triple_raise _ fun _ kept => kept

theorem triple_follow {inode : Nat} (placed : Placed origin project entries)
    (marked : origin.find (gitMarker project) = .ok (.file inode)) :
    Triple (fun disk => disk = origin)
    (followPointer paths faults project inode) (Finished paths project token entries origin)
    fun _ => Kept paths project token entries origin := by
  rintro disk rfl
  rcases run : followPointer paths faults project inode disk with ⟨raised | found, after⟩
  · rw [still_end (still_followPointer paths faults inode) run]
    exact kept_refl placed
  · obtain rfl := still_end (still_followPointer paths faults inode) run
    rcases run_returned run with ⟨canonical, middle, owned, rest⟩
    rcases requireDirectDirectory_returned owned with ⟨rfl, named, _, _, below, held⟩
    rcases run_returned rest with ⟨points, last, read, rest⟩
    rcases ask_returned (orRaise_returned read) with ⟨_, same, rfl⟩
    cases same
    split at rest
    · next points =>
        cases rest
        refine ⟨named, kept_refl placed, id, fun _ => ?_⟩
        rcases placed with stands | stands
        · exact absurd held (stands.2 below)
        · exact ⟨stands.1, inode, marked, points⟩
    · cases rest

theorem triple_ensure (root : RootPath) (placed : Placed origin project entries) :
    Triple (fun disk => disk = origin) (ensureManagedGitDirectory paths faults project token root)
      (Finished paths project token entries origin) fun _ =>
        Kept paths project token entries origin := by
  have start : ∀ disk, disk = origin → Kept paths project token entries origin disk := by
    rintro disk rfl
    exact kept_refl placed
  have still {α : Type} {body : Program Files Raised α} (quiet : Still body) :
      Triple (fun disk => disk = origin)
      body (fun _ disk => disk = origin) fun _ => Kept paths project token entries origin :=
    triple_weaken (triple_still quiet) (fun _ same => same) (fun _ _ same => same) fun _ => start
  apply triple_bind (still (still_validateProjectRoot _))
  intro _
  apply triple_bind (m := fun outcome disk => disk = origin ∧
    ∀ node, outcome = .ok node → origin.find (gitMarker project) = .ok node)
  · rintro disk rfl
    rcases run : ask (faults .seen .lstat) (fun disk => disk.find (gitMarker project)) disk with
      ⟨outcome, after⟩
    obtain rfl := still_end (still_ask _ _) run
    unfold attempt
    rw [run]
    refine ⟨rfl, ?_⟩
    rintro node rfl
    exact (ask_returned run).2.1
  intro outcome
  rcases outcome with raised | node
  · apply triple_weaken ?_ (fun _ held => held.1) (fun _ _ held => held)
      fun _ _ held => held
    cases raised with
    | os error =>
        cases error with
        | missing =>
            apply triple_bind (still (still_pathExists _ _))
            intro away
            apply triple_ite
            · intro _
              apply triple_bind (m := fun _ => Cleared paths project token entries origin)
              · exact triple_weaken (triple_pointer paths faults project token entries origin) start
                  (fun _ _ cleared => cleared) fun _ _ held => held
              · exact fun _ => triple_owned paths project token entries origin _
            · exact fun _ => triple_raise _ start
        | fault | exists_ | notDirectory | isDirectory | notEmpty | invalid =>
            exact triple_raise _ start
    | workspace | tool | valueError | otherError | cancelled | fatal => exact triple_raise _ start
  · cases node with
    | directory below =>
        apply triple_weaken ?_ (fun _ held => held.1) (fun _ _ held => held)
          fun _ _ held => held
        apply triple_bind (still (still_attempt (still_ask _ _)))
        intro outcome
        rcases outcome with raised | node
        · cases raised with
          | os error =>
              cases error with
              | missing =>
                  exact triple_weaken
                    (triple_separate paths faults project token entries origin) start
                    (fun _ _ held => held) fun _ _ held => held
              | fault | exists_ | notDirectory | isDirectory | notEmpty | invalid =>
                  exact triple_raise _ start
          | workspace | tool | valueError | otherError | cancelled | fatal =>
              exact triple_raise _ start
        · exact triple_raise _ start
    | file inode =>
        intro disk held
        exact triple_follow paths faults project token entries origin placed
          (held.2 _ rfl) disk held.1
    | link | special => exact triple_raise _ fun disk held => start disk held.1

end Runs

section Recovery

variable {paths : ManagedPaths} {faults : GitCalls} {disk : Files} {project : UUID} {token : PyStr}
  {entries : Entries Name} {inner : Entries Name}

theorem worktree_free (tree : Worktree disk project inner) {name : Name}
    (absent : disk.find (worktreePlace project name) = .error .missing) : Assoc.get name inner =
      none := by
  cases held : Assoc.get name inner with
  | none => rfl
  | some node =>
      have found := (worktree_find tree name node).mpr held
      change disk.find (worktreePlace project name) = _ at found
      rw [absent] at found
      cases found

theorem metadata_held
    (found : disk.find (projectChild .gitMetadata project) = .ok (.directory entries)) :
    Assoc.get (.project project) (disk.top .gitMetadata) = some (.directory entries) := by
  rcases (Disk.find_eq _ _ _).mp found with ⟨top, entered, held⟩
  cases entered
  exact held

theorem metadata_free (absent : disk.find (projectChild .gitMetadata project) = .error .missing) :
    Assoc.get (.project project) (disk.top .gitMetadata) = none := by
  cases held : Assoc.get (.project project) (disk.top .gitMetadata) with
  | none => rfl
  | some node =>
      have found : disk.find (projectChild .gitMetadata project) = .ok node :=
        (Disk.find_eq _ _ _).mpr ⟨_, rfl, held⟩
      rw [absent] at found
      cases found

theorem bare_works (calm : Calm faults) (tree : Worktree disk project inner)
    (fresh : disk.find (pointerPlace project token) = .error .missing)
    (unmarked : disk.find (gitMarker project) = .error .missing)
    (stored : disk.find (projectChild .gitMetadata project) = .ok (.directory entries)) :
    ∃ found after,
      ensureManagedGitDirectory paths faults project token (.project project) disk =
        (.ok found, after) := by
  have valid : validateProjectRoot (faults .root) project (.project project) disk =
      (.ok (projectChild .projects project), disk) := by
    unfold validateProjectRoot
    rw [if_neg (not_not.mpr rfl)]
    exact direct_passes ⟨calm _ _, calm _ _⟩ tree
  have away : pathExists (faults .left .isDir) (projectChild .gitMetadata project) disk =
      (.ok true, disk) := by
    unfold pathExists
    rw [calm, run_attempt (ask_ok stored)]
    rfl
  have written : ∃ after, writeGitPointer paths faults project token disk = (.ok (), after) ∧
      after.top .gitMetadata = disk.top .gitMetadata :=
    pointer_works calm tree (worktree_free tree fresh) (worktree_free tree unmarked)
  rcases written with ⟨after, writes, metadata⟩
  have kept : Assoc.get (.project project) (after.top .gitMetadata) =
      some (.directory entries) := by
    rw [metadata]
    exact metadata_held stored
  refine ⟨projectChild .gitMetadata project, after, ?_⟩
  unfold ensureManagedGitDirectory
  rw [run_ok valid, calm, run_attempt (ask_error unmarked)]
  dsimp only
  rw [run_ok away, if_pos rfl, run_ok writes]
  exact direct_passes ⟨calm _ _, calm _ _⟩ kept

theorem recoverable_works (calm : Calm faults)
    (recoverable : Recoverable paths disk project entries)
    (fresh : disk.find (pointerPlace project token) = .error .missing) :
    ∃ found after,
      ensureManagedGitDirectory paths faults project token (.project project) disk =
        (.ok found, after) := by
  rcases recoverable
    with ⟨⟨inner, tree⟩, ⟨held, free⟩ | ⟨stored, unmarked⟩ | ⟨stored, inode, marked, points⟩⟩
  · exact ensure_works calm (.whole inner entries tree ((worktree_find tree _ _).mp held)
      (worktree_free tree fresh) (metadata_free free))
  · exact bare_works calm tree fresh unmarked stored
  · exact ensure_works calm
      (.separated inner entries inode tree ((worktree_find tree _ _).mp marked) points
      (metadata_held stored))

/-- What a later call without failures does to what an earlier one has left. -/
theorem later_call {origin : Files} {earlier : PyStr} (calm : Calm faults)
    (kept : Kept paths project earlier entries origin disk)
    (plain : 0x0D ∉ PyStr.ofString (paths.location project))
    (recoverable : Recoverable paths origin project entries)
    (fresh : disk.find (pointerPlace project token) = .error .missing) :
    ∃ after, ensureManagedGitDirectory paths faults project token (.project project) disk =
        (.ok (projectChild .gitMetadata project), after) ∧
      Separated paths after project entries ∧ SameContents entries origin after ∧
      ∀ name, name ≠ (gitMarker project).name →
        after.find (worktreePlace project name) = disk.find (worktreePlace project name) := by
  rcases recoverable_works calm (kept.recovers plain recoverable) fresh with ⟨found, after, run⟩
  have finished := triple_ensure paths faults project token entries disk
    (.project project) kept.placed disk rfl
  rw [run] at finished
  rcases finished with ⟨rfl, again, clear, separated⟩
  refine ⟨after, run, separated plain, ?_, ?_⟩
  · exact fun inode below => (again.contents inode below).trans (kept.contents inode below)
  · intro name unmarked
    by_cases own : name = (pointerPlace project token).name
    · rw [own]
      exact (clear fresh).trans fresh.symm
    · exact again.others name unmarked own

/-- The calls of a process that stops: one that is not made changes nothing. -/
def stoppedAfter (made : GitSite → SystemCall → Bool) (faults : GitCalls) : GitCalls :=
  fun site call => faults site call || !made site call

/-- However a call fails or stops, it keeps what the separation needs. -/
theorem stopped_keeps (placed : Placed disk project entries) (made : GitSite → SystemCall → Bool)
    (root : RootPath) : Kept paths project token entries disk
      (ensureManagedGitDirectory paths (stoppedAfter made faults) project token root disk).2 := by
  have outcome :=
    triple_outcome (triple_ensure paths (stoppedAfter made faults) project token entries disk root
    placed) (s := disk) rfl
  revert outcome
  rcases ensureManagedGitDirectory paths (stoppedAfter made faults) project token root disk with
    ⟨raised | found, after⟩
  · exact id
  · exact fun finished => finished.kept

/-- The marker is a link, a special file, or a file that does not name the metadata of the
project. -/
def Foreign (paths : ManagedPaths) (disk : Files) (project : UUID) : Prop :=
  disk.find (gitMarker project) = .ok .link ∨ disk.find (gitMarker project) = .ok .special ∨
    ∃ inode, disk.find (gitMarker project) = .ok (.file inode) ∧
    pointsAt paths project disk inode = false

theorem followPointer_refuses {inode : Nat} (apart : pointsAt paths project disk inode = false) :
    ∃ raised, followPointer paths faults project inode disk = (.error raised, disk) := by
  rcases owned :
    requireDirectDirectory (faults .owned) (projectChild .gitMetadata project) .gitMetadata disk
      with
    ⟨raised | canonical, after⟩
  · obtain rfl := still_end (still_requireDirectDirectory _ _ _) owned
    exact ⟨raised, run_error owned⟩
  · obtain rfl := still_end (still_requireDirectDirectory _ _ _) owned
    unfold followPointer
    rw [run_ok owned]
    cases faults .text .read with
    | true => exact ⟨_, rfl⟩
    | false =>
        have named : ask false (fun disk => .ok (pointsAt paths project disk inode)) after =
            (.ok false, after) :=
          ask_ok (by rw [apart])
        rw [run_ok (orRaise_ok named)]
        exact ⟨_, rfl⟩

theorem foreign_refused (foreign : Foreign paths disk project) (root : RootPath) :
    ∃ raised, ensureManagedGitDirectory paths faults project token root disk =
      (.error raised, disk) := by
  unfold ensureManagedGitDirectory
  rcases valid : validateProjectRoot (faults .root) project root disk
    with ⟨raised | workspace, after⟩
  · obtain rfl := still_end (still_validateProjectRoot _) valid
    exact ⟨raised, run_error valid⟩
  · obtain rfl := still_end (still_validateProjectRoot _) valid
    rw [run_ok valid]
    cases faults .seen .lstat with
    | true => exact ⟨_, rfl⟩
    | false =>
        rcases foreign with link | special | ⟨inode, marked, apart⟩
        · rw [run_attempt (ask_ok link)]
          exact ⟨_, rfl⟩
        · rw [run_attempt (ask_ok special)]
          exact ⟨_, rfl⟩
        · rw [run_attempt (ask_ok marked)]
          exact followPointer_refuses apart

/-- The git directory survives every failure and every stop, and a later call without failures
separates it, adding nothing to the worktree but the pointer. A marker that is none of its own is
refused. -/
theorem separation_recovers (placed : Placed disk project entries)
    (made : GitSite → SystemCall → Bool) (root : RootPath) {left : Files}
    (stops : (ensureManagedGitDirectory paths (stoppedAfter made faults) project token root
      disk).2 = left) :
    Placed left project entries ∧ SameContents entries disk left ∧
      (Foreign paths disk project → left = disk ∧ ∀ calls later place, ∃ raised,
        ensureManagedGitDirectory paths calls project later place left = (.error raised, left)) ∧
      ∀ calm later, Calm calm → 0x0D ∉ PyStr.ofString (paths.location project) →
        Recoverable paths disk project entries →
        left.find (pointerPlace project later) = .error .missing →
        ∃ after, ensureManagedGitDirectory paths calm project later (.project project) left =
            (.ok (projectChild .gitMetadata project), after) ∧
          Separated paths after project entries ∧ SameContents entries disk after ∧
          ∀ name, name ≠ (gitMarker project).name →
            after.find (worktreePlace project name) = left.find (worktreePlace project name) := by
  have kept : Kept paths project token entries disk left := stops ▸ stopped_keeps placed made root
  refine ⟨kept.placed, kept.contents, fun foreign => ?_, fun calm later quiet plain start fresh =>
    later_call quiet kept plain start fresh⟩
  obtain ⟨raised, refused⟩ : ∃ raised, ensureManagedGitDirectory paths (stoppedAfter made faults)
      project token root disk = (.error raised, disk) := foreign_refused foreign root
  rw [refused] at stops
  subst stops
  exact ⟨rfl, fun calls later place => foreign_refused foreign place⟩

end Recovery

section Stopped

theorem base_solid (_ : UUID) : ∃ front last, PyStr.ofString "/base/.git-metadata/1" =
    front ++ [last] ∧
    space last = false :=
  ⟨PyStr.ofString "/base/.git-metadata/", 0x31, by decide, by decide⟩

def basePaths : ManagedPaths where
  location := fun _ => "/base/.git-metadata/1"
  solid := base_solid

def wholeDisk : Files where
  top := fun slot =>
    if slot = .projects then [(.project 1, .directory [(.entry (.ofString ".git"), .directory [])])]
    else []
  inodes := fun _ => ⟨.empty, 0, 0⟩

def noFaults : GitCalls := fun _ _ => false

def untilOpened : GitSite → SystemCall → Bool
  | .root, _ | .seen, _ | .metadata, _ | .moved, _ => true
  | .pointer, call => call = .open_
  | _, _ => false

def interrupted : Files :=
  (ensureManagedGitDirectory basePaths (stoppedAfter untilOpened noFaults) 1 [0x61]
    (.project 1) wholeDisk).2

theorem whole_placed : Placed wholeDisk 1 [] := .inl ⟨rfl, nofun⟩

theorem whole_recoverable : Recoverable basePaths wholeDisk 1 [] := ⟨⟨_, rfl⟩, .inl ⟨rfl, rfl⟩⟩

theorem interrupted_free : interrupted.find (pointerPlace 1 [0x62]) = .error .missing := rfl

theorem interrupted_left : interrupted.find (pointerPlace 1 [0x61]) = .ok (.file 0) := rfl

theorem calm_none : Calm noFaults := fun _ _ => rfl

theorem plain_base : 0x0D ∉ PyStr.ofString (basePaths.location 1) := by decide

/-- The call after a stop that has left the metadata away and the marker missing. -/
theorem separation_recovers_sample :
    ∃ after, ensureManagedGitDirectory basePaths noFaults 1 [0x62] (.project 1) interrupted =
      (.ok (projectChild .gitMetadata 1), after) ∧ Separated basePaths after 1 [] := by
  rcases separation_recovers whole_placed untilOpened (.project 1) rfl with
    ⟨_, _, _, later⟩
  rcases later noFaults [0x62] calm_none plain_base whole_recoverable interrupted_free with
    ⟨after, run, separated, _⟩
  exact ⟨after, run, separated⟩

/-- The temporary file of a process that was stopped stays in the worktree. -/
theorem stale_pointer_stays : ¬ ∀ (paths : ManagedPaths) (disk : Files) (project : UUID)
    (entries : Entries Name)
    (made : GitSite → SystemCall → Bool) (faults calm : GitCalls) (token later : PyStr),
    Placed disk project entries → Recoverable paths disk project entries → Calm calm →
    0x0D ∉ PyStr.ofString (paths.location project) →
    (ensureManagedGitDirectory paths (stoppedAfter made faults) project token
      (.project project) disk).2.find (pointerPlace project later) = .error .missing →
    ∃ after, ensureManagedGitDirectory paths calm project later (.project project)
        (ensureManagedGitDirectory paths (stoppedAfter made faults) project token
          (.project project) disk).2 = (.ok (projectChild .gitMetadata project), after) ∧
      Separated paths after project entries ∧
      ∀ any, after.find (pointerPlace project any) = .error .missing := by
  intro claimed
  rcases claimed basePaths wholeDisk 1 [] untilOpened noFaults noFaults [0x61] [0x62] whole_placed
    whole_recoverable calm_none plain_base interrupted_free with ⟨after, run, _, clear⟩
  have kept : Kept basePaths 1 [0x61] [] wholeDisk interrupted :=
    stopped_keeps whole_placed untilOpened _
  rcases later_call calm_none kept plain_base whole_recoverable interrupted_free with
    ⟨other, again, _, _, others⟩
  change ensureManagedGitDirectory basePaths noFaults 1 [0x62] (.project 1) interrupted = _ at run
  rw [run] at again
  cases again
  have stale : after.find (worktreePlace 1 (pointerPlace 1 [0x61]).name) = .ok (.file 0) :=
    (others _ pointer_apart).trans interrupted_left
  have gone : after.find (worktreePlace 1 (pointerPlace 1 [0x61]).name) = .error .missing :=
    clear [0x61]
  rw [stale] at gone
  cases gone

end Stopped

end SynapseOS.Workspaces
