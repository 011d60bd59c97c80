import SynapseOS.Core.Fields
import SynapseOS.Workspaces.Cleanup

/-! The separation of the git metadata from a worktree
(`ensure_managed_git_directory` of `infrastructure/workspaces/filesystem.py`). -/

namespace SynapseOS.Workspaces

open Execution Program Tools

inductive GitSite
  | managed
  | marked
  | root
  | seen
  | metadata
  | moved
  | pointer
  | closing
  | left
  | back
  | owned
  | text
  deriving DecidableEq, Repr

abbrev GitCalls := GitSite → Faults

/-- `str(managed)`, which ends with the text of a UUID. -/
structure ManagedPaths where
  location : UUID → String
  solid : ∀ project, ∃ front last, PyStr.ofString (location project) = front ++ [last] ∧
    space last = false

def ManagedPaths.pointer (paths : ManagedPaths) (project : UUID) : String :=
  "gitdir: " ++ paths.location project

def gitMarker (project : UUID) : Place Slot Name :=
  ⟨.projects, [.project project], .entry (.ofString ".git")⟩

def pointerPlace (project : UUID) (token : PyStr) : Place Slot Name :=
  ⟨.projects, [.project project], .entry (PyStr.ofString ".git-pointer-" ++ token)⟩

section Boundary

variable (paths : ManagedPaths) (faults : GitCalls) (project : UUID) (token : PyStr)

def pathExists (fails : Bool) (place : Place Slot Name) : Program Files Raised Bool := do
  match ← attempt (ask fails fun disk => disk.find place) with
  | .ok _ => pure true
  | .error (.os .missing) => pure false
  | .error (.os .notDirectory) => pure false
  | .error e => raise e

/-- `except OSError: raise _unsafe()`. -/
def unsafeOutcome {α : Type} (outcome : Except Raised α) : Except Raised α :=
  match outcome with
  | .error (.os _) => .error unsafe_
  | other => other

/-- The descriptor is closed at the end if it is still held; one that could not be closed is
none. -/
def closeLeft (fails : Bool) (opened written closed : Except Raised Unit) :
    Program Files Raised Unit :=
  match opened, written, closed with
  | .ok _, .error _, _ => quiet fails
  | .ok _, .ok _, .error _ => raise (.os .invalid)
  | _, _, _ => pure ()

/-- `suppress(FileNotFoundError)` around the removal of the temporary file. -/
def unlinkSuppressed (fails : Bool) (place : Place Slot Name) : Program Files Raised Unit := do
  match ← attempt (change fails fun disk => disk.unlink place) with
  | .ok _ => pure ()
  | .error (.os .missing) => pure ()
  | .error e => raise e

def writeGitPointer : Program Files Raised Unit := do
  let temporary := pointerPlace project token
  let payload := (paths.pointer project ++ "\n").toUTF8
  let opened ← attempt (change (faults .pointer .open_) fun disk => disk.create temporary 0o600)
  let written ← attempt (do
    resume opened
    change (faults .pointer .write) fun disk => disk.write temporary payload
    quiet (faults .pointer .fsync))
  let closed ← attempt (do
    resume written
    quiet (faults .pointer .close))
  let replaced ← attempt (do
    resume closed
    change (faults .pointer .rename) fun disk => disk.rename temporary (gitMarker project))
  closeLeft (faults .closing .close) opened written closed
  unlinkSuppressed (faults .pointer .unlink) temporary
  resume (unsafeOutcome replaced)

def universalNewlines : PyStr → PyStr
  | [] => []
  | 0x0D :: 0x0A :: rest => 0x0A :: universalNewlines rest
  | point :: rest => (if point = 0x0D then 0x0A else point) :: universalNewlines rest

def pointsAt (disk : Files) (inode : Nat) : Bool :=
  match String.fromUTF8? (disk.inodes inode).content with
  | some text =>
      decide (strip (universalNewlines (PyStr.ofString text)) = PyStr.ofString
        (paths.pointer project))
  | none => false

def moveBack : Program Files Raised Unit := do
  if (← pathExists (faults .left .stat) (gitMarker project)) = true then pure ()
  else if (← pathExists (faults .left .isDir) (projectChild .gitMetadata project)) = true then
    change (faults .back .rename) fun disk =>
      disk.rename (projectChild .gitMetadata project) (gitMarker project)
  else pure ()

def separate : Program Files Raised (Place Slot Name) := do
  let managed := projectChild .gitMetadata project
  match ← attempt (do
    change (faults .moved .rename) fun disk => disk.rename (gitMarker project) managed
    writeGitPointer paths faults project token) with
  | .ok _ => requireDirectDirectory (faults .owned) managed .gitMetadata
  | .error raised => do
      moveBack faults project
      resume (unsafeOutcome (.error raised))

def followPointer (inode : Nat) : Program Files Raised (Place Slot Name) := do
  let canonical ← requireDirectDirectory (faults .owned)
    (projectChild .gitMetadata project) .gitMetadata
  let named ← orRaise (ask (faults .text .read) fun disk =>
    .ok (pointsAt paths project disk inode)) unsafe_
  if named = true then pure canonical else raise unsafe_

def ensureManagedGitDirectory (root : RootPath) : Program Files Raised (Place Slot Name) := do
  let _ ← validateProjectRoot (faults .root) project root
  let managed := projectChild .gitMetadata project
  match ← attempt (ask (faults .seen .lstat) fun disk => disk.find (gitMarker project)) with
  | .error (.os .missing) => do
      if (← pathExists (faults .left .isDir) managed) = true then do
        writeGitPointer paths faults project token
        requireDirectDirectory (faults .owned) managed .gitMetadata
      else raise unsafe_
  | .error _ => raise unsafe_
  | .ok (.directory _) => do
      match ← attempt (ask (faults .metadata .lstat) fun disk => disk.find managed) with
      | .error (.os .missing) => separate paths faults project token
      | .error _ => raise unsafe_
      | .ok _ => raise unsafe_
  | .ok (.file inode) => followPointer paths faults project inode
  | .ok _ => raise unsafe_

end Boundary

section Worktree

variable {disk : Files} {project : UUID} {inner : Entries Name}

def Worktree (disk : Files) (project : UUID) (inner : Entries Name) : Prop :=
  Assoc.get (.project project) (disk.top .projects) = some (.directory inner)

theorem worktree_enter (tree : Worktree disk project inner) :
    Entries.enter [.project project] (disk.top .projects) = .ok inner := by
  unfold Entries.enter
  rw [tree]
  rfl

theorem worktree_entered
    (entered : Entries.enter [.project project] (disk.top .projects) = .ok inner) :
    Worktree disk project inner := by
  unfold Entries.enter at entered
  unfold Worktree
  cases held : Assoc.get (.project project) (disk.top .projects) with
  | none =>
      rw [held] at entered
      cases entered
  | some node =>
      rw [held] at entered
      cases node <;> cases entered
      rfl

theorem worktree_find (tree : Worktree disk project inner) (name : Name) (node : Node Name) :
    disk.find ⟨.projects, [.project project], name⟩ = .ok node ↔
    Assoc.get name inner = some node := by
  rw [Disk.find_eq]
  constructor
  · rintro ⟨other, entered, held⟩
    rw [worktree_enter tree] at entered
    cases entered
    exact held
  · exact fun held => ⟨inner, worktree_enter tree, held⟩

theorem worktree_missing (tree : Worktree disk project inner) {name : Name}
    (absent : Assoc.get name inner = none) :
    disk.find ⟨.projects, [.project project], name⟩ = .error .missing := by
  unfold Disk.find Entries.find
  simp only [worktree_enter tree, bind, Except.bind, absent]

theorem worktree_alter (tree : Worktree disk project inner) (f : Entries Name → Entries Name) :
    Worktree (disk.alter .projects [.project project] f) project (f inner) := by
  unfold Worktree
  rw [Disk.alter_top_self, Entries.get_alter f [] tree]
  rfl

theorem worktree_top {after : Files} (tree : Worktree disk project inner)
    (same : after.top .projects = disk.top .projects) : Worktree after project inner := by
  unfold Worktree
  rw [same]
  exact tree


theorem rename_returned {place target : Place Slot Name} {after : Files}
    (run : disk.rename place target = .ok after) : ∃ node, disk.find place = .ok node ∧
      ((after = disk ∧ ∃ inode, disk.find target = .ok (.file inode)) ∨
        ∃ held, after = ((disk.unbind place).bind target node).unlinked held) := by
  unfold Disk.rename at run
  obtain ⟨node, found, run⟩ := bind_ok run
  obtain ⟨entries, entered, run⟩ := bind_ok run
  dsimp only at run
  obtain ⟨_, _, run⟩ := bind_ok run
  refine ⟨node, found, ?_⟩
  split at run
  · cases run
  cases node with
  | directory inner =>
      cases run
      exact .inr ⟨_, rfl⟩
  | link =>
      cases run
      exact .inr ⟨_, rfl⟩
  | special =>
      cases run
      exact .inr ⟨_, rfl⟩
  | file inode =>
      split at run
      · next other held =>
          split at run
          · cases run
            exact .inl ⟨rfl, _, (Disk.find_eq _ _ _).mpr ⟨entries, entered, by assumption⟩⟩
          · cases run
            exact .inr ⟨_, rfl⟩
      · cases run
        exact .inr ⟨_, rfl⟩

end Worktree

section Writing

variable {paths : ManagedPaths} {faults : GitCalls} {disk after : Files} {project : UUID}
    {token : PyStr}
  {inner : Entries Name}

theorem pointer_apart : (pointerPlace project token).name ≠ (gitMarker project).name := by
  intro same
  have sizes := congrArg List.length (Name.entry.inj same)
  rw [List.length_append] at sizes
  change 13 + token.length = 4 at sizes
  omega

theorem change_cases (fails : Bool) (effect : Files → Except OSError Files) (disk : Files) :
    (∃ error, change fails effect disk = (.error (.os error), disk)) ∨
      ∃ moved, effect disk = .ok moved ∧ change fails effect disk = (.ok (), moved) := by
  unfold change
  split
  · exact .inl ⟨_, rfl⟩
  · cases outcome : effect disk with
    | error error => exact .inl ⟨_, rfl⟩
    | ok moved => exact .inr ⟨moved, rfl, rfl⟩

theorem attempt_eq {α : Type} {body : Program Files Raised α} {outcome : Except Raised α}
    {moved : Files}
    (run : attempt body disk = (.ok outcome, moved)) : body disk = (outcome, moved) := by
  unfold attempt at run
  cases parts : body disk with
  | mk first second =>
      rw [parts] at run
      cases run
      rfl

theorem resume_eq {α : Type} {outcome : Except Raised α} {a : α} {moved : Files}
    (run : (resume outcome : Program Files Raised α) disk = (.ok a, moved)) :
    outcome = .ok a ∧ moved = disk := by
  cases outcome with
  | error raised => cases run
  | ok b =>
      cases run
      exact ⟨rfl, rfl⟩

theorem unsafeOutcome_ok {α : Type} {outcome : Except Raised α} {a : α}
    (ok : unsafeOutcome outcome = .ok a) : outcome = .ok a := by
  cases outcome with
  | error raised => cases raised <;> cases ok
  | ok b => exact ok

theorem unlinkSuppressed_cases {fails : Bool} {place : Place Slot Name}
    (run : unlinkSuppressed fails place disk = (.ok (), after)) :
    after = disk ∨ ∃ node, after = (disk.unbind place).unlinked (some node) := by
  unfold unlinkSuppressed at run
  rcases change_cases fails (fun disk => disk.unlink place) disk
    with ⟨error, refused⟩ | ⟨moved, gone, done⟩
  · rw [attempt_run, refused] at run
    cases error <;> cases run
    exact .inl rfl
  · rw [attempt_run, done] at run
    cases run
    obtain ⟨node, _, rfl⟩ := Disk.unlink_returned gone
    exact .inr ⟨node, rfl⟩

theorem create_returned {place : Place Slot Name} {mode : Nat}
    (run : disk.create place mode = .ok after) :
    after.top = (disk.bind place (.file disk.fresh)).top := by
  unfold Disk.create at run
  obtain ⟨_, _, run⟩ := bind_ok run
  cases run
  rfl

theorem write_returned {place : Place Slot Name} {content : ByteArray}
    (run : disk.write place content = .ok after) : after.top = disk.top := by
  unfold Disk.write Disk.change at run
  obtain ⟨node, _, run⟩ := bind_ok run
  cases node <;> cases run
  rfl

theorem rename_marks {temporary : Name} {inode : Nat} (tree : Worktree disk project inner)
    (held : Assoc.get temporary inner = some (.file inode))
    (run : disk.rename ⟨.projects, [.project project], temporary⟩ (gitMarker project) = .ok after) :
    ∃ inner inode, Worktree after project inner ∧
      Assoc.get (.entry (.ofString ".git")) inner = some (.file inode) := by
  obtain ⟨node, found, outcome⟩ := rename_returned run
  rw [(worktree_find tree _ _).mpr held] at found
  cases found
  rcases outcome with ⟨rfl, other, marked⟩ | ⟨node, rfl⟩
  · exact ⟨inner, other, tree, (worktree_find tree _ _).mp marked⟩
  · have moved := worktree_alter (worktree_alter tree (Assoc.erase temporary))
      (Assoc.set (.entry (.ofString ".git")) (.file inode))
    refine ⟨_, inode, worktree_top moved (by rw [Disk.unlinked_top]; rfl), ?_⟩
    rw [Assoc.get_set, if_pos rfl]

theorem pointer_written (tree : Worktree disk project inner)
    (run : writeGitPointer paths faults project token disk = (.ok (), after)) :
    ∃ inner inode, Worktree after project inner ∧
    after.find (gitMarker project) = .ok (.file inode) := by
  obtain ⟨opened, first, opens, rest⟩ := run_returned run
  obtain ⟨written, second, writes, rest⟩ := run_returned rest
  obtain ⟨closed, third, closes, rest⟩ := run_returned rest
  obtain ⟨replaced, fourth, replaces, rest⟩ := run_returned rest
  obtain ⟨_, fifth, finishes, rest⟩ := run_returned rest
  obtain ⟨_, sixth, unlinks, last⟩ := run_returned rest
  obtain ⟨ended, rfl⟩ := resume_eq last
  have succeeded := unsafeOutcome_ok ended
  subst succeeded
  obtain ⟨_, held, resumed, renames⟩ := run_returned (attempt_eq replaces)
  obtain ⟨rfl, rfl⟩ := resume_eq resumed
  obtain ⟨_, open_, resumed, calm⟩ := run_returned (attempt_eq closes)
  obtain ⟨rfl, rfl⟩ := resume_eq resumed
  obtain ⟨_, _, rfl⟩ := ask_returned calm
  obtain ⟨_, made, resumed, fills⟩ := run_returned (attempt_eq writes)
  obtain ⟨rfl, rfl⟩ := resume_eq resumed
  obtain ⟨_, filled, puts, calm⟩ := run_returned fills
  obtain ⟨_, _, rfl⟩ := ask_returned calm
  cases finishes
  obtain ⟨_, creates⟩ := change_returned (attempt_eq opens)
  obtain ⟨_, puts⟩ := change_returned puts
  obtain ⟨_, renames⟩ := change_returned renames
  have born := worktree_top (worktree_alter tree (Assoc.set _ (.file disk.fresh)))
    (congrFun (create_returned creates) .projects)
  have filled := worktree_top born (congrFun (write_returned puts) .projects)
  obtain ⟨moved, inode, marked, held⟩ := rename_marks filled
    (by rw [Assoc.get_set]; exact if_pos rfl) renames
  rcases unlinkSuppressed_cases unlinks with rfl | ⟨node, rfl⟩
  · exact ⟨moved, inode, marked, (worktree_find marked _ _).mpr held⟩
  · have left :=
      worktree_top (worktree_alter marked (Assoc.erase (pointerPlace project token).name))
      (congrFun (Disk.unlinked_top _ (some node)) Slot.projects)
    refine ⟨_, inode, left, (worktree_find left _ _).mpr ?_⟩
    rw [Assoc.get_erase]
    exact (if_neg pointer_apart).trans held

end Writing

section Elsewhere

variable {project : UUID}

def Elsewhere (project : UUID) (disk after : Files) : Prop :=
  ∀ other ≠ project,
    Assoc.get (.project other) (after.top .projects) = Assoc.get (.project other)
    (disk.top .projects)

theorem elsewhere_refl (disk : Files) : Elsewhere project disk disk := fun _ _ => rfl

theorem elsewhere_trans (first second third : Files) (before : Elsewhere project first second)
    (after : Elsewhere project second third) : Elsewhere project first third :=
  fun other apart => (after other apart).trans (before other apart)

theorem elsewhere_top {disk after : Files}
    (same : after.top = disk.top) : Elsewhere project disk after := by
  intro other _
  rw [same]

def Own (project : UUID) (place : Place Slot Name) : Prop :=
  place.slot = .projects ∧ place.path = [.project project] ∨ place.slot = .gitMetadata

theorem elsewhere_alter {place : Place Slot Name} (own : Own project place) (disk : Files)
    (f : Entries Name → Entries Name) : Elsewhere project disk
      (disk.alter place.slot place.path f) := by
  intro other apart
  rcases own with ⟨slot, path⟩ | slot
  · have distinct : Name.project project ≠ .project other := fun same =>
      apart (Name.project.inj same).symm
    rw [slot, path, Disk.alter_top_self, Entries.alter, Assoc.get_adjust, if_neg distinct]
  · rw [Disk.alter_top_other _ _ _ (by rw [slot]; exact Slot.noConfusion)]

theorem elsewhere_rename {place target : Place Slot Name} (own : Own project place)
    (into : Own project target) {disk after : Files} (run : disk.rename place target = .ok after) :
    Elsewhere project disk after := by
  obtain ⟨node, _, ⟨rfl, _⟩ | ⟨held, rfl⟩⟩ := rename_returned run
  · exact elsewhere_refl _
  · exact elsewhere_trans _ _ _ (elsewhere_alter own disk _)
      (elsewhere_trans _ _ _ (elsewhere_alter into _ _) (elsewhere_top (Disk.unlinked_top _ _)))

theorem keeps_change {related : Files → Files → Prop} (reflexive : ∀ disk, related disk disk)
    (fails : Bool)
    {effect : Files → Except OSError Files}
    (moves : ∀ disk after, effect disk = .ok after → related disk after) :
    Keeps related (change fails effect) := by
  intro disk
  rcases change_cases fails effect disk with ⟨error, refused⟩ | ⟨moved, done, passed⟩
  · rw [refused]
    exact reflexive disk
  · rw [passed]
    exact moves disk moved done

variable (paths : ManagedPaths) (faults : GitCalls) (token : PyStr)

theorem still_pathExists (fails : Bool) (place : Place Slot Name) : Still
    (pathExists fails place) := by
  apply still_bind (still_attempt (still_ask _ _))
  intro outcome
  rcases outcome with raised | node
  · cases raised with
    | os error => cases error <;> first | exact still_pure _ | exact still_raise _
    | workspace | tool | valueError | otherError | cancelled | fatal => exact still_raise _
  · exact still_pure _

theorem elsewhere_unlink (fails : Bool) {place : Place Slot Name} (own : Own project place) :
    Keeps (Elsewhere project) (unlinkSuppressed fails place) := by
  apply keeps_bind elsewhere_trans
  · apply keeps_attempt
    apply keeps_change elsewhere_refl
    intro disk after gone
    obtain ⟨node, _, rfl⟩ := Disk.unlink_returned gone
    exact elsewhere_trans _ _ _ (elsewhere_alter own disk _) (elsewhere_top (Disk.unlinked_top _ _))
  · intro outcome
    apply keeps_still elsewhere_refl
    rcases outcome with raised | done
    · cases raised with
      | os error => cases error <;> first | exact still_pure _ | exact still_raise _
      | workspace | tool | valueError | otherError | cancelled | fatal => exact still_raise _
    · exact still_pure _

theorem elsewhere_pointer : Keeps (Elsewhere project)
    (writeGitPointer paths faults project token) := by
  have temporary : Own project (pointerPlace project token) := .inl ⟨rfl, rfl⟩
  apply keeps_bind elsewhere_trans
  · apply keeps_attempt
    apply keeps_change elsewhere_refl
    intro disk after creates
    exact elsewhere_trans _ _ _ (elsewhere_alter temporary disk _)
      (elsewhere_top (create_returned creates))
  intro opened
  apply keeps_bind elsewhere_trans
  · apply keeps_attempt
    apply keeps_bind elsewhere_trans (keeps_still elsewhere_refl (still_resume _))
    intro _
    apply keeps_bind elsewhere_trans
    · apply keeps_change elsewhere_refl
      intro disk after writes
      exact elsewhere_top (write_returned writes)
    · exact fun _ => keeps_still elsewhere_refl (still_ask _ _)
  intro written
  apply keeps_bind elsewhere_trans
  · apply keeps_attempt
    apply keeps_bind elsewhere_trans (keeps_still elsewhere_refl (still_resume _))
    exact fun _ => keeps_still elsewhere_refl (still_ask _ _)
  intro closed
  apply keeps_bind elsewhere_trans
  · apply keeps_attempt
    apply keeps_bind elsewhere_trans (keeps_still elsewhere_refl (still_resume _))
    intro _
    apply keeps_change elsewhere_refl
    intro disk after renames
    exact elsewhere_rename temporary (.inl ⟨rfl, rfl⟩) renames
  intro replaced
  apply keeps_bind elsewhere_trans
  · apply keeps_still elsewhere_refl
    unfold closeLeft
    split
    · exact still_ask _ _
    · exact still_raise _
    · exact still_pure _
  intro _
  apply keeps_bind elsewhere_trans (elsewhere_unlink _ temporary)
  exact fun _ => keeps_still elsewhere_refl (still_resume _)

theorem elsewhere_separate : Keeps (Elsewhere project) (separate paths faults project token) := by
  have marker : Own project (gitMarker project) := .inl ⟨rfl, rfl⟩
  have managed : Own project (projectChild .gitMetadata project) := .inr rfl
  apply keeps_bind elsewhere_trans
  · apply keeps_attempt
    apply keeps_bind elsewhere_trans
    · apply keeps_change elsewhere_refl
      exact fun disk after renames => elsewhere_rename marker managed renames
    · exact fun _ => elsewhere_pointer paths faults token
  intro outcome
  cases outcome with
  | ok done => exact keeps_still elsewhere_refl (still_requireDirectDirectory _ _ _)
  | error raised =>
      apply keeps_bind elsewhere_trans
      · apply keeps_bind elsewhere_trans (keeps_still elsewhere_refl (still_pathExists _ _))
        intro stands
        split
        · exact keeps_still elsewhere_refl (still_pure _)
        · apply keeps_bind elsewhere_trans (keeps_still elsewhere_refl (still_pathExists _ _))
          intro away
          split
          · apply keeps_change elsewhere_refl
            exact fun disk after renames => elsewhere_rename managed marker renames
          · exact keeps_still elsewhere_refl (still_pure _)
      · exact fun _ => keeps_still elsewhere_refl (still_resume _)

theorem still_followPointer (inode : Nat) : Still (followPointer paths faults project inode) := by
  apply still_bind (still_requireDirectDirectory _ _ _)
  intro canonical
  apply still_bind (still_orRaise (still_ask _ _) _)
  intro named
  exact still_ite (still_pure _) (still_raise _)

end Elsewhere

section Ensured

variable {paths : ManagedPaths} {faults : GitCalls} {disk after : Files} {project : UUID}
    {token : PyStr}
  {root : RootPath} {found : Place Slot Name}

def Marked (disk : Files) (project : UUID) : Prop := ∃ inode, disk.find (gitMarker project) =
    .ok (.file inode)

theorem validateProjectRoot_returned {faults : Faults}
    (run : validateProjectRoot faults project root disk = (.ok found, after)) :
    disk = after ∧ root = .project project ∧ ∃ inner, Worktree disk project inner := by
  unfold validateProjectRoot at run
  split at run
  · cases run
  · next own =>
      obtain ⟨rfl, _, _, _, inner, held⟩ := requireDirectDirectory_returned run
      obtain ⟨top, entered, direct⟩ := (Disk.find_eq _ _ _).mp held
      cases entered
      exact ⟨rfl, not_not.mp own, inner, direct⟩

theorem still_validateProjectRoot (faults : Faults) : Still
    (validateProjectRoot faults project root) := by
  unfold validateProjectRoot
  exact still_ite (still_raise _) (still_requireDirectDirectory _ _ _)

theorem separate_marks {inner : Entries Name} (tree : Worktree disk project inner)
    (run : separate paths faults project token disk = (.ok found, after)) :
    Marked after project := by
  obtain ⟨outcome, moved, attempted, rest⟩ := run_returned run
  cases outcome with
  | error raised =>
      obtain ⟨_, _, _, last⟩ := run_returned rest
      obtain ⟨ended, _⟩ := resume_eq last
      cases unsafeOutcome_ok ended
  | ok done =>
      obtain ⟨_, away, leaves, writes⟩ := run_returned (attempt_eq attempted)
      obtain ⟨_, renames⟩ := change_returned leaves
      obtain ⟨rfl, _⟩ := requireDirectDirectory_returned rest
      obtain ⟨node, _, ⟨rfl, _⟩ | ⟨held, rfl⟩⟩ := rename_returned renames
      · obtain ⟨_, inode, _, marked⟩ := pointer_written tree writes
        exact ⟨inode, marked⟩
      · have left :
          Worktree (((disk.unbind (gitMarker project)).bind (projectChild .gitMetadata project)
            node).unlinked held) project (Assoc.erase (gitMarker project).name inner) := by
          apply worktree_top (worktree_alter tree (Assoc.erase (gitMarker project).name))
          rw [Disk.unlinked_top]
          exact Disk.alter_top_other _ _ _ Slot.noConfusion
        obtain ⟨_, inode, _, marked⟩ := pointer_written left writes
        exact ⟨inode, marked⟩

theorem ensure_marks
    (run : ensureManagedGitDirectory paths faults project token root disk = (.ok found, after)) :
    root = .project project ∧ Marked after project := by
  obtain ⟨_, _, valid, rest⟩ := run_returned run
  obtain ⟨rfl, own, inner, tree⟩ := validateProjectRoot_returned valid
  refine ⟨own, ?_⟩
  obtain ⟨outcome, seen, attempted, rest⟩ := run_returned rest
  have sees := attempt_eq attempted
  obtain rfl := still_end (still_ask _ _) sees
  cases outcome with
  | error raised =>
      cases raised with
      | os error =>
          cases error with
          | missing =>
              obtain ⟨away, _, exists_, rest⟩ := run_returned rest
              obtain rfl := still_end (still_pathExists _ _) exists_
              cases away with
              | false => cases rest
              | true =>
                  obtain ⟨_, written, writes, last⟩ := run_returned rest
                  obtain ⟨rfl, _⟩ := requireDirectDirectory_returned last
                  obtain ⟨_, inode, _, marked⟩ := pointer_written tree writes
                  exact ⟨inode, marked⟩
          | fault | exists_ | notDirectory | isDirectory | notEmpty | invalid => cases rest
      | workspace | tool | valueError | otherError | cancelled | fatal => cases rest
  | ok node =>
      cases node with
      | directory entries =>
          obtain ⟨outcome, looked, attempted, rest⟩ := run_returned rest
          obtain rfl := still_end (still_ask _ _) (attempt_eq attempted)
          cases outcome with
          | error raised =>
              cases raised with
              | os error =>
                  cases error with
                  | missing => exact separate_marks tree rest
                  | fault | exists_ | notDirectory | isDirectory | notEmpty | invalid => cases rest
              | workspace | tool | valueError | otherError | cancelled | fatal => cases rest
          | ok node => cases rest
      | file inode =>
          obtain rfl := still_end (still_followPointer paths faults inode) rest
          obtain ⟨_, held, _⟩ := ask_returned sees
          exact ⟨inode, held⟩
      | link | special => cases rest

theorem ensure_marked (marked : Marked disk project) :
    (ensureManagedGitDirectory paths faults project token root disk).2 = disk := by
  obtain ⟨inode, held⟩ := marked
  unfold ensureManagedGitDirectory
  rcases valid : validateProjectRoot (faults .root) project root disk with ⟨raised | place, moved⟩
  · rw [run_error valid]
    exact still_end (still_validateProjectRoot _) valid ▸ rfl
  · obtain rfl := still_end (still_validateProjectRoot _) valid
    rw [run_ok valid, attempt_run]
    cases sees : faults .seen .lstat with
    | true => rfl
    | false =>
        rw [ask_ok held]
        exact still_followPointer paths faults inode _

theorem elsewhere_ensure : Keeps (Elsewhere project)
    (ensureManagedGitDirectory paths faults project token root) := by
  apply keeps_bind elsewhere_trans (keeps_still elsewhere_refl (still_validateProjectRoot _))
  intro _
  apply keeps_bind elsewhere_trans (keeps_still elsewhere_refl (still_attempt (still_ask _ _)))
  intro outcome
  cases outcome with
  | error raised =>
      cases raised with
      | os error =>
          cases error with
          | missing =>
              apply keeps_bind elsewhere_trans (keeps_still elsewhere_refl (still_pathExists _ _))
              intro away
              cases away with
              | true =>
                  apply keeps_bind elsewhere_trans (elsewhere_pointer paths faults token)
                  exact fun _ => keeps_still elsewhere_refl (still_requireDirectDirectory _ _ _)
              | false => exact keeps_still elsewhere_refl (still_raise _)
          | fault | exists_ | notDirectory | isDirectory | notEmpty | invalid =>
              exact keeps_still elsewhere_refl (still_raise _)
      | workspace | tool | valueError | otherError | cancelled | fatal =>
          exact keeps_still elsewhere_refl (still_raise _)
  | ok node =>
      cases node with
      | directory entries =>
          apply keeps_bind elsewhere_trans
            (keeps_still elsewhere_refl (still_attempt (still_ask _ _)))
          intro outcome
          cases outcome with
          | error raised =>
              cases raised with
              | os error =>
                  cases error with
                  | missing => exact elsewhere_separate paths faults token
                  | fault | exists_ | notDirectory | isDirectory | notEmpty | invalid =>
                      exact keeps_still elsewhere_refl (still_raise _)
              | workspace | tool | valueError | otherError | cancelled | fatal =>
                  exact keeps_still elsewhere_refl (still_raise _)
          | ok node => exact keeps_still elsewhere_refl (still_raise _)
      | file inode => exact keeps_still elsewhere_refl (still_followPointer paths faults inode)
      | link | special => exact keeps_still elsewhere_refl (still_raise _)

end Ensured

section Works

variable {paths : ManagedPaths} {faults : GitCalls} {disk : Files} {project : UUID} {token : PyStr}
  {inner : Entries Name}

def Calm (faults : GitCalls) : Prop := ∀ site call, faults site call = false

theorem create_works {place : Place Slot Name} (mode : Nat) (vacant : disk.vacant place = .ok ()) :
    ∃ after, disk.create place mode = .ok after ∧
    after.top = (disk.bind place (.file disk.fresh)).top := by
  refine ⟨(disk.bind place (.file disk.fresh)).touch disk.fresh fun _ => ⟨.empty, mode, 1⟩, ?_, rfl⟩
  unfold Disk.create
  rw [vacant]
  rfl

theorem write_works {place : Place Slot Name} {inode : Nat} (content : ByteArray)
    (found : disk.find place = .ok (.file inode)) :
    ∃ after, disk.write place content = .ok after ∧ after.top = disk.top := by
  refine ⟨disk.touch inode fun held => { held with content := content }, ?_, rfl⟩
  unfold Disk.write Disk.change
  rw [found]
  rfl

theorem rename_works {temporary target : Name} {inode : Nat} (tree : Worktree disk project inner)
    (held : Assoc.get temporary inner = some (.file inode)) (free : Assoc.get target inner = none) :
    disk.rename ⟨.projects, [.project project], temporary⟩ ⟨.projects, [.project project], target⟩ =
      .ok ((disk.unbind ⟨.projects, [.project project], temporary⟩).bind
        ⟨.projects, [.project project], target⟩ (.file inode)) := by
  simp [Disk.rename, (worktree_find tree _ _).mpr held, worktree_enter tree, free, Disk.givesWay,
    Disk.unlinked, Bind.bind, Except.bind]

theorem pointer_works (calm : Calm faults) (tree : Worktree disk project inner)
    (fresh : Assoc.get (pointerPlace project token).name inner = none)
    (unmarked : Assoc.get (gitMarker project).name inner = none) :
    ∃ after, writeGitPointer paths faults project token disk = (.ok (), after) ∧
      after.top .gitMetadata = disk.top .gitMetadata := by
  have vacant : disk.vacant (pointerPlace project token) = .ok () :=
    (Disk.vacant_ok _ _).mpr ⟨inner, worktree_enter tree, fresh⟩
  obtain ⟨made, creates, born⟩ := create_works 0o600 vacant
  have first :
      Worktree made project
        (Assoc.set (pointerPlace project token).name (.file disk.fresh) inner) :=
    worktree_top
      (worktree_alter tree (Assoc.set (pointerPlace project token).name (.file disk.fresh)))
      (congrFun born Slot.projects)
  have held : Assoc.get (pointerPlace project token).name
      (Assoc.set (pointerPlace project token).name (.file disk.fresh) inner) =
        some (.file disk.fresh : Node Name) := by
    rw [Assoc.get_set, if_pos rfl]
  obtain ⟨filled, puts, kept⟩ := write_works (paths.pointer project ++ "\n").toUTF8
    ((worktree_find first _ _).mpr held)
  have second := worktree_top first (congrFun kept Slot.projects)
  have open_ : Assoc.get (gitMarker project).name
      (Assoc.set (pointerPlace project token).name (.file disk.fresh) inner) = none := by
    rw [Assoc.get_set]
    exact (if_neg pointer_apart).trans unmarked
  have renames := rename_works second held open_
  have third :=
    worktree_alter (worktree_alter second (Assoc.erase (pointerPlace project token).name))
    (Assoc.set (gitMarker project).name (.file disk.fresh))
  have gone : Assoc.get (pointerPlace project token).name
      (Assoc.set (gitMarker project).name (.file disk.fresh)
        (Assoc.erase (pointerPlace project token).name
          (Assoc.set (pointerPlace project token).name (.file disk.fresh) inner))) =
        (none : Option (Node Name)) := by
    rw [Assoc.get_set, if_neg pointer_apart.symm, Assoc.get_erase, if_pos rfl]
  have unlinks : ((filled.unbind (pointerPlace project token)).bind (gitMarker project)
      (.file disk.fresh)).unlink (pointerPlace project token) = .error .missing := by
    have absent : ((filled.unbind (pointerPlace project token)).bind (gitMarker project)
        (.file disk.fresh)).find (pointerPlace project token) = .error .missing :=
      worktree_missing third gone
    unfold Disk.unlink
    rw [absent]
    rfl
  refine ⟨(filled.unbind (pointerPlace project token)).bind (gitMarker project) (.file disk.fresh),
    ?_, ?_⟩
  · unfold writeGitPointer
    simp only [calm _ _]
    rw [attempt_run, change_ok creates, attempt_run, resume_ok_run,
      run_ok (change_ok puts), quiet_ok,
      attempt_run, resume_ok_run, quiet_ok, attempt_run, resume_ok_run, change_ok renames]
    have suppressed : unlinkSuppressed false (pointerPlace project token)
        ((filled.unbind (pointerPlace project token)).bind (gitMarker project) (.file disk.fresh)) =
          (.ok (), (filled.unbind (pointerPlace project token)).bind (gitMarker project)
            (.file disk.fresh)) := by
      unfold unlinkSuppressed
      rw [run_attempt (change_error unlinks)]
      rfl
    exact (run_ok (a := ()) rfl).trans ((run_ok suppressed).trans rfl)
  · have metadata : (Slot.gitMetadata : Slot) ≠ .projects := Slot.noConfusion
    calc
      _ = (filled.unbind (pointerPlace project token)).top .gitMetadata :=
        Disk.alter_top_other _ _ _ metadata
      _ = filled.top .gitMetadata := Disk.alter_top_other _ _ _ metadata
      _ = made.top .gitMetadata := congrFun kept Slot.gitMetadata
      _ = _ := congrFun born Slot.gitMetadata
      _ = disk.top .gitMetadata := Disk.alter_top_other _ _ _ metadata

/-- A worktree whose metadata can be ensured: it is separated, or can be. -/
inductive Separable (paths : ManagedPaths) (disk : Files) (project : UUID) (token : PyStr) : Prop
  | whole (inner entries : Entries Name) (tree : Worktree disk project inner)
      (held : Assoc.get (gitMarker project).name inner = some (.directory entries))
      (fresh : Assoc.get (pointerPlace project token).name inner = none)
      (free : Assoc.get (.project project) (disk.top .gitMetadata) = none)
  | separated (inner entries : Entries Name) (inode : Nat) (tree : Worktree disk project inner)
      (held : Assoc.get (gitMarker project).name inner = some (.file inode))
      (points : pointsAt paths project disk inode = true)
      (stored : Assoc.get (.project project) (disk.top .gitMetadata) = some (.directory entries))

theorem separate_works (calm : Calm faults) {entries : Entries Name}
    (tree : Worktree disk project inner)
    (held : Assoc.get (gitMarker project).name inner = some (.directory entries))
    (fresh : Assoc.get (pointerPlace project token).name inner = none)
    (free : Assoc.get (.project project) (disk.top .gitMetadata) = none) :
    ∃ found after, separate paths faults project token disk = (.ok found, after) := by
  have moves : disk.rename (gitMarker project) (projectChild .gitMetadata project) =
      .ok ((disk.unbind (gitMarker project)).bind (projectChild .gitMetadata project)
        (.directory entries)) :=
    Disk.rename_directory ((worktree_find tree _ _).mpr held) rfl (.inl free) Slot.noConfusion
  have away : Worktree ((disk.unbind (gitMarker project)).bind (projectChild .gitMetadata project)
      (.directory entries)) project (Assoc.erase (gitMarker project).name inner) :=
    worktree_top (worktree_alter tree (Assoc.erase (gitMarker project).name))
      (Disk.alter_top_other _ _ _ Slot.noConfusion)
  have unmarked : Assoc.get (gitMarker project).name (Assoc.erase (gitMarker project).name inner) =
      none := by
    rw [Assoc.get_erase, if_pos rfl]
  have still_fresh : Assoc.get (pointerPlace project token).name
      (Assoc.erase (gitMarker project).name inner) = none := by
    rw [Assoc.get_erase, if_neg pointer_apart.symm]
    exact fresh
  obtain ⟨after, writes, metadata⟩ : ∃ after, writeGitPointer paths faults project token
      ((disk.unbind (gitMarker project)).bind (projectChild .gitMetadata project)
        (.directory entries)) =
        (.ok (), after) ∧ after.top .gitMetadata = _ := pointer_works calm away still_fresh unmarked
  have stored : Assoc.get (.project project) (after.top .gitMetadata) =
      some (.directory entries) := by
    rw [metadata, Disk.bind]
    show Assoc.get _ ((Disk.alter _ Slot.gitMetadata [] _).top .gitMetadata) = _
    rw [Disk.alter_top_self]
    exact (Assoc.get_set _ _ _ _).trans (if_pos rfl)
  refine ⟨projectChild .gitMetadata project, after, ?_⟩
  unfold separate
  have both : (do
      change (faults .moved .rename) fun disk => disk.rename (gitMarker project)
        (projectChild .gitMetadata project)
      writeGitPointer paths faults project token) disk = (.ok (), after) := by
    rw [calm]
    exact (run_ok (change_ok moves)).trans writes
  rw [run_attempt both]
  exact direct_passes ⟨calm _ _, calm _ _⟩ stored

theorem followPointer_works (calm : Calm faults) {entries : Entries Name} {inode : Nat}
    (points : pointsAt paths project disk inode = true)
    (stored : Assoc.get (.project project) (disk.top .gitMetadata) = some (.directory entries)) :
    followPointer paths faults project inode disk = (.ok (projectChild .gitMetadata project),
      disk) := by
  have owned :
    requireDirectDirectory (faults .owned) (projectChild .gitMetadata project) .gitMetadata disk =
      (.ok (projectChild .gitMetadata project), disk) := direct_passes ⟨calm _ _, calm _ _⟩ stored
  unfold followPointer
  rw [run_ok owned, calm]
  have named : ask false (fun disk => .ok (pointsAt paths project disk inode)) disk =
      (.ok true, disk) :=
    ask_ok (by rw [points])
  rw [run_ok (orRaise_ok named)]
  rfl

/-- The metadata of such a worktree is ensured. -/
theorem ensure_works (calm : Calm faults) (separable : Separable paths disk project token) :
    ∃ found after,
      ensureManagedGitDirectory paths faults project token (.project project) disk =
        (.ok found, after) := by
  have valid {inner : Entries Name} (tree : Worktree disk project inner) :
      validateProjectRoot (faults .root) project (.project project) disk =
        (.ok (projectChild .projects project), disk) := by
    unfold validateProjectRoot
    rw [if_neg (not_not.mpr rfl)]
    exact direct_passes ⟨calm _ _, calm _ _⟩ tree
  unfold ensureManagedGitDirectory
  cases separable with
  | whole inner entries tree held fresh free =>
      rw [run_ok (valid tree), calm, run_attempt (ask_ok ((worktree_find tree _ _).mpr held))]
      dsimp only
      rw [calm, run_attempt (ask_error (find_fresh free))]
      exact separate_works calm tree held fresh free
  | separated inner entries inode tree held points stored =>
      rw [run_ok (valid tree), calm, run_attempt (ask_ok ((worktree_find tree _ _).mpr held))]
      exact ⟨_, _, followPointer_works calm points stored⟩

end Works

end SynapseOS.Workspaces
