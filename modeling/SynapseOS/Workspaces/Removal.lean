import SynapseOS.Workspaces.Calls
import SynapseOS.Workspaces.Trees

/-! When a recursive removal removes the whole tree, and when it raises before it has removed
anything of it. -/

namespace SynapseOS.Workspaces

open Tools Execution Program

mutual

def removable (faults : TreeFaults) (limit depth : Nat) (path : List Name) : Node Name → Bool
  | .directory entries =>
      decide (depth ≤ limit) && !faults path .scandir &&
        removableEntries faults limit depth path entries && !faults path .rmdir
  | .file _ | .link | .special => !faults path .unlink

def removableEntries (faults : TreeFaults) (limit depth : Nat) (path : List Name) :
    List (Name × Node Name) → Bool
  | [] => true
  | (name, node) :: rest =>
      !faults (path ++ [name]) .lstat &&
        removable faults limit (depth + 1) (path ++ [name]) node &&
          removableEntries faults limit depth path rest

end

mutual

def untouched (faults : TreeFaults) (limit depth : Nat) (path : List Name) : Node Name → Bool
  | .directory entries =>
      decide (limit < depth) || faults path .scandir ||
        untouchedEntries faults limit depth path entries
  | .file _ | .link | .special => faults path .unlink

def untouchedEntries (faults : TreeFaults) (limit depth : Nat) (path : List Name) :
    List (Name × Node Name) → Bool
  | [] => faults path .rmdir
  | (name, node) :: _ =>
      faults (path ++ [name]) .lstat || untouched faults limit (depth + 1) (path ++ [name]) node

end

def nodes (entries : Entries Name) : Nat := Entries.total (fun _ => 1) entries

def fileSize (disk : Files) : Node Name → Nat
  | .file inode => (disk.inodes inode).content.size
  | .link | .special | .directory _ => 0

def Within (limits : WorkspaceLimits) (usage : WorkspaceResourceUsage) : Prop :=
  usage.entryCount ≤ limits.maxEntries ∧ usage.totalBytes ≤ limits.maxTotalBytes

section Usage

variable {limits : WorkspaceLimits} {faults : TreeFaults} {disk : Files}

theorem usage_visits {usage counted : WorkspaceResourceUsage} {frame : Frame Name} {name : Name}
    {node : Node Name}
    (visited : (usageVisitor limits faults disk).visits usage frame name node = .ok counted) :
    counted.entryCount = usage.entryCount + 1 ∧
      counted.totalBytes = usage.totalBytes + fileSize disk node ∧
      counted.entryCount ≤ limits.maxEntries ∧
      (usage.totalBytes ≤ limits.maxTotalBytes → counted.totalBytes ≤ limits.maxTotalBytes) := by
  unfold usageVisitor at visited
  dsimp only at visited
  split at visited
  · cases visited
  · next within =>
      simp only [not_or, not_lt] at within
      split at visited
      · cases visited
      · cases node with
        | special => cases visited
        | link | directory =>
            cases visited
            exact ⟨rfl, rfl, within.1, id⟩
        | file inode =>
            dsimp only at visited
            split at visited
            · cases visited
            · next fits =>
                cases visited
                exact ⟨rfl, rfl, within.1, fun _ => Nat.not_lt.mp fits⟩

theorem usage_opens {usage opened : WorkspaceResourceUsage} {frame : Frame Name}
    (entered : (usageVisitor limits faults disk).opens usage frame = .ok opened) :
    opened = usage := by
  unfold usageVisitor at entered
  dsimp only at entered
  split at entered
  · cases entered
  · cases entered
    rfl

/-- A scan that passes has counted every node and every byte, within the limits. -/
theorem usage_measures {entries : Entries Name} {usage : WorkspaceResourceUsage}
    (passed : (usageVisitor limits faults disk).run {} [⟨[], 0, entries⟩] = .ok usage) :
    usage.entryCount = nodes entries ∧ usage.totalBytes = Entries.total (fileSize disk) entries ∧
      usage.entryCount ≤ limits.maxEntries ∧ usage.totalBytes ≤ limits.maxTotalBytes := by
  have start : Within limits {} := ⟨Nat.zero_le _, Nat.zero_le _⟩
  have within : Within limits usage := by
    refine Visitor.run_keeps ?_ ?_ start passed
    · intro s frame t entered held
      rw [usage_opens entered]
      exact held
    · intro s frame name node t visited held
      obtain ⟨_, _, entries, bytes⟩ := usage_visits visited
      exact ⟨entries, bytes held.2⟩
  have counted : usage.entryCount = 0 + Visitor.pending (fun _ => 1) [⟨[], 0, entries⟩] :=
    Visitor.run_measures (fun _ _ _ _ _ visited => (usage_visits visited).1)
      (fun _ _ _ entered => by rw [usage_opens entered]) passed
  have weighed : usage.totalBytes = 0 + Visitor.pending (fileSize disk) [⟨[], 0, entries⟩] :=
    Visitor.run_measures (fun _ _ _ _ _ visited => (usage_visits visited).2.1)
      (fun _ _ _ entered => by rw [usage_opens entered]) passed
  rw [Visitor.pending_cons, Visitor.pending, List.map_nil, List.sum_nil, Nat.zero_add,
    Nat.add_zero] at counted weighed
  exact ⟨counted, weighed, within⟩

end Usage

theorem nodes_pos (entry : Name × Node Name) (rest : Entries Name) : nodes [] < nodes
    (entry :: rest) := by
  obtain ⟨name, node⟩ := entry
  cases node with
  | directory | file | link | special => simp [nodes, Entries.total, Node.total]

structure Leaves (whole stuck : Prop) (entries : Entries Name) (removal : Removal) : Prop where
  removed : whole → removal.raised = none ∧ removal.left = []
  refused : ¬ whole → removal.raised.isSome
  apart : stuck → ¬ whole
  kept : stuck → removal.left = entries ∧ removal.gone = []
  damaged : ¬ whole → ¬ stuck → nodes removal.left < nodes entries

theorem leaves_le {whole stuck : Prop} {entries : Entries Name} {removal : Removal}
    (leaves : Leaves whole stuck entries removal) : nodes removal.left ≤ nodes entries := by
  by_cases removed : whole
  · rw [(leaves.removed removed).2]
    exact Nat.zero_le _
  · by_cases kept : stuck
    · rw [(leaves.kept kept).1]
    · exact le_of_lt (leaves.damaged removed kept)

theorem leaves_unchanged {whole stuck : Prop} {entries : Entries Name} (e : Raised)
    (refused : ¬ whole) (kept : stuck) : Leaves whole stuck entries ⟨some e, entries, []⟩ where
  removed held := absurd held refused
  refused _ := rfl
  apart _ := refused
  kept _ := ⟨rfl, rfl⟩
  damaged _ missed := absurd kept missed

section Trees

variable {faults : TreeFaults} {limit : Nat}

/-- What is left of the entries of a directory is what is left of it, if its own removal fails. -/
theorem tree_leaves {depth : Nat} {path : List Name} {entries : Entries Name}
    (inside : Leaves (removableEntries faults limit depth path entries = true)
      (entries ≠ [] ∧ untouchedEntries faults limit depth path entries = true) entries
      (removeEntries faults limit depth path entries)) :
    Leaves (removable faults limit depth path (.directory entries) = true)
      (untouched faults limit depth path (.directory entries) = true) entries
      (removeTree faults limit depth path (.directory entries)) := by
  unfold removeTree
  split
  · next deep =>
      apply leaves_unchanged
      · simp [removable, Nat.not_le.mpr deep]
      · simp [untouched, deep]
  · next shallow =>
      split
      · next refused =>
          apply leaves_unchanged
          · simp [removable, refused]
          · simp [untouched, refused]
      · next listed =>
          have whole : removable faults limit depth path (.directory entries) =
              (removableEntries faults limit depth path entries && !faults path .rmdir) := by
            simp [removable, listed, Nat.not_lt.mp shallow]
          have stuck : untouched faults limit depth path (.directory entries) =
              untouchedEntries faults limit depth path entries := by
            simp [untouched, listed, shallow]
          rw [whole, stuck]
          dsimp only
          by_cases fine : removableEntries faults limit depth path entries = true
          · obtain ⟨passed, nothing⟩ := inside.removed fine
            have bare : untouchedEntries faults limit depth path entries = true → entries = [] := by
              intro first
              by_contra some_entry
              exact inside.apart ⟨some_entry, first⟩ fine
            rw [passed, fine]
            cases removes : faults path .rmdir with
            | false =>
                have touched : ¬ untouchedEntries faults limit depth path entries = true := by
                  intro first
                  rw [bare first, untouchedEntries, removes] at first
                  cases first
                rw [if_neg (by simp)]
                exact ⟨fun _ => ⟨passed, nothing⟩, fun refused => absurd rfl refused,
                  fun first => absurd first touched, fun first => absurd first touched,
                  fun refused => absurd rfl refused⟩
            | true =>
                rw [if_pos (by simp)]
                refine ⟨by simp, fun _ => rfl, by simp, fun first => ?_, fun _ touched => ?_⟩
                · rw [bare first]
                  exact ⟨rfl, rfl⟩
                · show nodes (removeEntries faults limit depth path entries).left < nodes entries
                  rw [nothing]
                  cases entries with
                  | nil =>
                      rw [untouchedEntries, removes] at touched
                      exact absurd rfl touched
                  | cons entry rest => exact nodes_pos entry rest
          · have refused := inside.refused fine
            have some_entry : entries ≠ [] := by
              intro bare
              rw [bare] at fine
              exact fine rfl
            have raised : (removeEntries faults limit depth path entries).raised.isNone =
                false := by
              rw [← Option.not_isSome, refused]
              rfl
            rw [raised, if_neg (by simp)]
            refine ⟨fun removed => ?_, fun _ => refused, fun _ removed => ?_, fun first => ?_,
              fun _ touched => ?_⟩
            · simp [fine] at removed
            · simp [fine] at removed
            · exact inside.kept ⟨some_entry, first⟩
            · exact inside.damaged fine fun first => touched first.2

theorem nodes_cons (name : Name) (node : Node Name) (rest : Entries Name) :
    nodes ((name, node) :: rest) = node.total (fun _ => 1) + nodes rest := rfl

theorem nodes_directory (inner : Entries Name) :
    (Node.directory inner).total (fun _ => 1) = 1 + nodes inner := rfl

theorem directory_leaves {depth : Nat} {path : List Name} {name : Name} {inner rest : Entries Name}
    (seen : faults (path ++ [name]) .lstat = false)
    (first : Leaves
      (removable faults limit (depth + 1) (path ++ [name]) (.directory inner) = true)
      (untouched faults limit (depth + 1) (path ++ [name]) (.directory inner) = true) inner
      (removeTree faults limit (depth + 1) (path ++ [name]) (.directory inner)))
    (others : Leaves (removableEntries faults limit depth path rest = true)
      (rest ≠ [] ∧ untouchedEntries faults limit depth path rest = true) rest
      (removeEntries faults limit depth path rest)) :
    Leaves (removableEntries faults limit depth path ((name, .directory inner) :: rest) = true)
      ((name, Node.directory inner) :: rest ≠ [] ∧
        untouchedEntries faults limit depth path ((name, .directory inner) :: rest) = true)
      ((name, .directory inner) :: rest)
      (removeEntries faults limit depth path ((name, .directory inner) :: rest)) := by
  have whole : removableEntries faults limit depth path ((name, .directory inner) :: rest) =
      (removable faults limit (depth + 1) (path ++ [name]) (.directory inner) &&
        removableEntries faults limit depth path rest) := by
    simp [removableEntries, seen]
  have stuck : untouchedEntries faults limit depth path ((name, .directory inner) :: rest) =
      untouched faults limit (depth + 1) (path ++ [name]) (.directory inner) := by
    simp [untouchedEntries, seen]
  rw [whole, stuck, removeEntries, if_neg (by simp [seen])]
  dsimp only
  by_cases fine : removable faults limit (depth + 1) (path ++ [name]) (.directory inner) = true
  · obtain ⟨passed, _⟩ := first.removed fine
    rw [passed, fine, if_neg (by simp), Bool.true_and]
    refine ⟨others.removed, others.refused, fun held => absurd fine (first.apart held.2),
      fun held => absurd fine (first.apart held.2), fun _ _ => ?_⟩
    have below := leaves_le others
    rw [nodes_cons, nodes_directory]
    show nodes (removeEntries faults limit depth path rest).left < _
    omega
  · have refused := first.refused fine
    rw [refused, if_pos rfl]
    refine ⟨fun removed => ?_, fun _ => refused, fun _ removed => ?_, fun held => ?_,
      fun _ touched => ?_⟩
    · simp [fine] at removed
    · simp [fine] at removed
    · obtain ⟨same, none_gone⟩ := first.kept held.2
      dsimp only
      rw [same]
      exact ⟨rfl, none_gone⟩
    · have fewer := first.damaged fine fun held => touched ⟨by simp, held⟩
      simp only [nodes_cons, nodes_directory]
      omega

theorem leaf_leaves {depth : Nat} {path : List Name} {name : Name} {node : Node Name}
    {rest : Entries Name} (seen : faults (path ++ [name]) .lstat = false)
    (leaf : ∀ inner, node ≠ .directory inner)
    (others : Leaves (removableEntries faults limit depth path rest = true)
      (rest ≠ [] ∧ untouchedEntries faults limit depth path rest = true) rest
      (removeEntries faults limit depth path rest)) :
    Leaves (removableEntries faults limit depth path ((name, node) :: rest) = true)
      ((name, node) :: rest ≠ [] ∧
        untouchedEntries faults limit depth path ((name, node) :: rest) = true)
      ((name, node) :: rest) (removeEntries faults limit depth path ((name, node) :: rest)) := by
  have stuck : untouchedEntries faults limit depth path ((name, node) :: rest) =
      faults (path ++ [name]) .unlink := by
    cases node with
    | directory inner => exact absurd rfl (leaf inner)
    | file | link | special => simp [untouchedEntries, untouched, seen]
  have whole : removableEntries faults limit depth path ((name, node) :: rest) =
      (!faults (path ++ [name]) .unlink && removableEntries faults limit depth path rest) := by
    cases node with
    | directory inner => exact absurd rfl (leaf inner)
    | file | link | special => simp [removableEntries, removable, seen]
  rw [whole, stuck]
  cases unlinks : faults (path ++ [name]) .unlink with
  | true =>
      have unchanged : removeEntries faults limit depth path ((name, node) :: rest) =
          ⟨some (.os .fault), (name, node) :: rest, []⟩ := by
        cases node with
        | directory inner => exact absurd rfl (leaf inner)
        | file | link | special => simp [removeEntries, seen, unlinks]
      rw [unchanged]
      exact leaves_unchanged _ (by simp) (by simp)
  | false =>
      have parts : (removeEntries faults limit depth path ((name, node) :: rest)).raised =
            (removeEntries faults limit depth path rest).raised ∧
          (removeEntries faults limit depth path ((name, node) :: rest)).left =
            (removeEntries faults limit depth path rest).left := by
        cases node with
        | directory inner => exact absurd rfl (leaf inner)
        | file | link | special => simp [removeEntries, seen, unlinks]
      obtain ⟨raised, left⟩ := parts
      refine ⟨fun removed => ?_, fun refused => ?_, by simp, by simp, fun _ _ => ?_⟩
      · rw [raised, left]
        exact others.removed (by simpa using removed)
      · rw [raised]
        exact others.refused (by simpa using refused)
      · have below := leaves_le others
        have counted : node.total (fun _ => 1) = 1 := by
          cases node with
          | directory inner => exact absurd rfl (leaf inner)
          | file | link | special => rfl
        rw [left, nodes_cons, counted]
        omega

theorem entries_leaves (depth : Nat) (path : List Name) (entries : Entries Name) :
    Leaves (removableEntries faults limit depth path entries = true)
      (entries ≠ [] ∧ untouchedEntries faults limit depth path entries = true) entries
      (removeEntries faults limit depth path entries) := by
  cases entries with
  | nil =>
      exact ⟨fun _ => ⟨rfl, rfl⟩, fun refused => absurd rfl refused, fun held => absurd rfl held.1,
        fun held => absurd rfl held.1, fun refused => absurd rfl refused⟩
  | cons entry rest =>
      rcases entry with ⟨name, node⟩
      have others := entries_leaves depth path rest
      cases seen : faults (path ++ [name]) .lstat with
      | true =>
          have unchanged : removeEntries faults limit depth path ((name, node) :: rest) =
              ⟨some (.os .fault), (name, node) :: rest, []⟩ := by
            cases node with
            | directory | file | link | special => simp [removeEntries, seen]
          rw [unchanged]
          apply leaves_unchanged
          · simp [removableEntries, seen]
          · simp [untouchedEntries, seen]
      | false =>
          cases node with
          | directory inner =>
              exact directory_leaves seen
                (tree_leaves (entries_leaves (depth + 1) (path ++ [name]) inner)) others
          | file inode => exact leaf_leaves seen (by simp) others
          | link => exact leaf_leaves seen (by simp) others
          | special => exact leaf_leaves seen (by simp) others

end Trees

def SameFiles (before after : Files) : Prop :=
  ∀ inode, (after.inodes inode).content = (before.inodes inode).content ∧
    (after.inodes inode).mode = (before.inodes inode).mode

theorem sameFiles_refl (disk : Files) : SameFiles disk disk := fun _ => ⟨rfl, rfl⟩

theorem sameFiles_trans {before middle after : Files} (first : SameFiles before middle)
    (second : SameFiles middle after) : SameFiles before after := by
  intro inode
  exact ⟨(second inode).1.trans (first inode).1, (second inode).2.trans (first inode).2⟩

theorem sameFiles_unlinked (disk : Files) (node : Option (Node Name)) :
    SameFiles disk (disk.unlinked node) := by
  intro inode
  unfold Disk.unlinked
  split
  · next held =>
      by_cases hit : inode = held
      · subst hit
        rw [Disk.touch_inodes_self]
        exact ⟨rfl, rfl⟩
      · rw [Disk.touch_inodes_other _ _ hit]
        exact ⟨rfl, rfl⟩
  · exact ⟨rfl, rfl⟩

theorem sameFiles_counted (gone : List (Option (Node Name))) (disk : Files) :
    SameFiles disk (gone.foldl Disk.unlinked disk) := by
  induction gone generalizing disk with
  | nil => exact sameFiles_refl disk
  | cons node rest ih => exact sameFiles_trans (sameFiles_unlinked disk node) (ih _)

section Removals

variable {disk : Files} {slot : Slot} {name : Name} {entries : Entries Name} {faults : TreeFaults}
  {limit : Nat}

theorem bind_held {node : Node Name} (held : Assoc.get name (disk.top slot) = some node) :
    disk.bind ⟨slot, [], name⟩ node = disk := by
  have same : Entries.alter (Assoc.set name node) [] (disk.top slot) = disk.top slot :=
    Assoc.set_held name node _ held
  unfold Disk.bind Disk.alter
  rw [same, Function.update_eq_self]

theorem unbind_absent (free : Assoc.get name (disk.top slot) = none) :
    disk.unbind ⟨slot, [], name⟩ = disk := by
  have same : Entries.alter (Assoc.erase name) [] (disk.top slot) = disk.top slot :=
    Assoc.erase_fresh name _ free
  unfold Disk.unbind Disk.alter
  rw [same, Function.update_eq_self]

theorem unbind_bound {node : Node Name} (free : Assoc.get name (disk.top slot) = none) :
    (disk.bind ⟨slot, [], name⟩ node).unbind ⟨slot, [], name⟩ = disk := by
  have bound : (disk.bind ⟨slot, [], name⟩ node).top slot = disk.top slot ++ [(name, node)] :=
    bind_direct free
  have top := unbind_direct bound free
  unfold Disk.unbind Disk.bind at top ⊢
  rw [Disk.alter_top_self] at top
  unfold Disk.alter at top ⊢
  dsimp only at top ⊢
  rw [Function.update_idem, top, Function.update_eq_self]

variable (held : Assoc.get name (disk.top slot) = some (.directory entries))

include held

theorem removeAt_removes (fine : removable faults limit 0 [] (.directory entries) = true) :
    ∃ after, removeAt faults limit ⟨slot, [], name⟩ disk = (.ok (), after) ∧
      after.top = (disk.unbind ⟨slot, [], name⟩).top ∧ SameFiles disk after := by
  obtain ⟨passed, _⟩ := (tree_leaves (entries_leaves 0 [] entries)).removed fine
  unfold removeAt
  rw [find_direct held]
  dsimp only
  rw [passed]
  refine ⟨_, rfl, ?_, sameFiles_counted _ disk⟩
  unfold Disk.unbind Disk.alter
  rw [counted_top]

/-- A removal that stops before it has removed anything leaves the disk as it was. -/
theorem removeAt_untouched (stuck : untouched faults limit 0 [] (.directory entries) = true) :
    ∃ e, removeAt faults limit ⟨slot, [], name⟩ disk = (.error e, disk) := by
  have leaves : Leaves _ _ entries (removeTree faults limit 0 [] (.directory entries)) :=
    tree_leaves (entries_leaves 0 [] entries)
  obtain ⟨same, none_gone⟩ := leaves.kept stuck
  obtain ⟨e, raised⟩ := Option.isSome_iff_exists.mp (leaves.refused (leaves.apart stuck))
  unfold removeAt
  rw [find_direct held]
  dsimp only
  rw [raised, same, none_gone]
  exact ⟨e, Prod.ext rfl (bind_held held)⟩

theorem removeAt_damages (partly : ¬ removable faults limit 0 [] (.directory entries) = true)
    (touched : ¬ untouched faults limit 0 [] (.directory entries) = true) :
    ∃ e after left, removeAt faults limit ⟨slot, [], name⟩ disk = (.error e, after) ∧
      Assoc.get name (after.top slot) = some (.directory left) ∧ left ≠ entries := by
  have leaves : Leaves _ _ entries (removeTree faults limit 0 [] (.directory entries)) :=
    tree_leaves (entries_leaves 0 [] entries)
  obtain ⟨e, raised⟩ := Option.isSome_iff_exists.mp (leaves.refused partly)
  have fewer := leaves.damaged partly touched
  unfold removeAt
  rw [find_direct held]
  dsimp only
  rw [raised]
  refine ⟨e, _, (removeTree faults limit 0 [] (.directory entries)).left, rfl, ?_, fun same => ?_⟩
  · rw [Disk.bind, Disk.alter_top_self]
    exact (Assoc.get_set _ _ _ _).trans (if_pos rfl)
  · rw [same] at fewer
    exact lt_irrefl _ fewer

end Removals

end SynapseOS.Workspaces
