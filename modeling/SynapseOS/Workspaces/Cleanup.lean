import SynapseOS.Workspaces.Manager
import SynapseOS.Workspaces.Removal

/-! A cleanup either removes the whole workspace, or leaves it in place, unless a call fails after
it has removed something. -/

namespace SynapseOS.Workspaces

open Tools Execution Program

def Reaches (faults : Faults) : Prop := faults .lstat = false ∧ faults .resolve = false

structure Gone (disk : Files) (project : UUID) : Prop where
  root : disk.find (projectChild .projects project) = .error .missing
  metadata : disk.find (projectChild .gitMetadata project) = .error .missing
  trash : ∀ token, disk.find (operationDirectory .trash project token) = .error .missing

structure Intact (before after : Files) (project : UUID) : Prop where
  root : after.find (projectChild .projects project) = before.find (projectChild .projects project)
  metadata : after.find (projectChild .gitMetadata project) =
    before.find (projectChild .gitMetadata project)
  lock : after.find (projectChild .locks project) = before.find (projectChild .locks project)
  files : SameFiles before after

section Conditions

variable (limits : WorkspaceLimits) (faults : TreeCalls) (disk : Files) (project : UUID)

def Loads : Prop :=
  Reaches (faults .root) ∧ faults .resolved .resolve = false ∧ faults .workspace .resolve = false ∧
    faults .workspace .isDir = false ∧
      ∃ entries, Assoc.get (.project project) (disk.top .projects) = some (.directory entries)

def Surveyed (entries : Entries Name) : Prop :=
  ∃ count, (compensationVisitor fun path => faults (.measured path)).run 0 [⟨[], 0, entries⟩] =
    .ok count

def MetadataCleared : Prop :=
  faults .present .lstat = false ∧
    match Assoc.get (.project project) (disk.top .gitMetadata) with
    | none => True
    | some (.directory entries) =>
        Reaches (faults .owned) ∧ Surveyed faults entries ∧
          removable (fun path => faults (.removed path)) maxCompensationDepth 0 []
            (.directory entries) = true
    | some _ => False

def MetadataKept : Prop :=
  faults .present .lstat = true ∨
    match Assoc.get (.project project) (disk.top .gitMetadata) with
    | none => False
    | some (.directory entries) =>
        ¬ Reaches (faults .owned) ∨ ¬ Surveyed faults entries ∨
          untouched (fun path => faults (.removed path)) maxCompensationDepth 0 []
            (.directory entries) = true
    | some _ => True

def Hides (token : String) : Prop :=
  Reaches (faults .source) ∧ faults .moved .rename = false ∧
    (Assoc.get (.operation project token) (disk.top .trash) = none ∨
      Assoc.get (.operation project token) (disk.top .trash) = some (.directory []))

def Empties (entries : Entries Name) : Prop :=
  Reaches (faults .owned) ∧ Reaches (faults (.measured [])) ∧
    (∃ usage, (usageVisitor limits (fun path => faults (.measured path)) disk).run {}
      [⟨[], 0, entries⟩] = .ok usage) ∧
    removable (fun path => faults (.removed path)) limits.maxDepth 0 [] (.directory entries) = true

end Conditions

section Directories

variable {disk : Files} {slot : Slot} {name : Name} {faults : Faults}

theorem strictly_found {place : Place Slot Name} {node : Node Name}
    (found : disk.find place = .ok node) : strictly place disk = .ok () := by
  unfold strictly
  rw [found]
  rfl

theorem find_fresh (free : Assoc.get name (disk.top slot) = none) :
    disk.find ⟨slot, [], name⟩ = .error .missing := by
  simp [Disk.find, Entries.find, Entries.enter, bind, Except.bind, free]

theorem direct_passes (reaches : Reaches faults) {entries : Entries Name}
    (held : Assoc.get name (disk.top slot) = some (.directory entries)) :
    requireDirectDirectory faults ⟨slot, [], name⟩ slot disk = (.ok ⟨slot, [], name⟩, disk) :=
  requireDirectDirectory_ok rfl (find_direct held) reaches.1 reaches.2

theorem direct_refused (refused : ¬ (Reaches faults ∧
    ∃ entries, Assoc.get name (disk.top slot) = some (.directory entries))) :
    requireDirectDirectory faults ⟨slot, [], name⟩ slot disk = (.error unsafe_, disk) := by
  by_cases reaches : Reaches faults
  · unfold requireDirectDirectory
    rw [if_neg (by simp), reaches.1, reaches.2]
    cases held : Assoc.get name (disk.top slot) with
    | none => rw [run_error (orRaise_error (ask_error (find_fresh held)))]
    | some node =>
        have found := find_direct held
        rw [run_ok (orRaise_ok (ask_ok found)), run_ok (orRaise_ok (ask_ok (strictly_found found)))]
        cases node with
        | directory entries => exact absurd ⟨reaches, entries, held⟩ refused
        | file | link | special => rfl
  · apply requireDirectDirectory_fault
    by_contra working
    simp only [not_or, Bool.not_eq_true] at working
    exact reaches working

end Directories

section Loading

variable {faults : TreeCalls} {disk : Files} {project : UUID} {provenance : WorkspaceProvenance}
  {entries : Entries Name}

theorem newWorkspace_passes {faults : Faults} (resolved : faults .resolve = false)
    (seen : faults .isDir = false)
    (held : Assoc.get (.project project) (disk.top .projects) = some (.directory entries)) :
    newWorkspace faults project (projectChild .projects project) provenance disk =
      (.ok ⟨project, projectChild .projects project, provenance⟩, disk) := by
  have found : disk.find (projectChild .projects project) = .ok (.directory entries) :=
    find_direct held
  unfold newWorkspace
  rw [resolved, seen]
  apply orRaise_ok
  rw [run_ok (ask_ok (strictly_found found)), run_ok (ask_ok found)]
  rfl

theorem newWorkspace_refused {faults : Faults}
    (failing : ¬ (faults .resolve = false ∧ faults .isDir = false))
    (held : Assoc.get (.project project) (disk.top .projects) = some (.directory entries)) :
    newWorkspace faults project (projectChild .projects project) provenance disk =
      (.error .valueError, disk) := by
  have found : disk.find (projectChild .projects project) = .ok (.directory entries) :=
    find_direct held
  unfold newWorkspace
  cases resolved : faults .resolve with
  | true => exact orRaise_error (run_error (ask_fault _))
  | false =>
      have seen : faults .isDir = true := by
        by_contra working
        exact failing ⟨resolved, Bool.eq_false_iff.mpr working⟩
      rw [seen]
      apply orRaise_error
      rw [run_ok (ask_ok (strictly_found found)), run_error (ask_fault _)]

theorem loadWorkspace_passes (loads : Loads faults disk project) :
    ∃ workspace, loadWorkspace faults project provenance disk = (.ok workspace, disk) := by
  obtain ⟨reaches, resolved, again, seen, entries, held⟩ := loads
  have found : disk.find (projectChild .projects project) = .ok (.directory entries) :=
    find_direct held
  have direct : requireDirectDirectory (faults .root) (projectChild .projects project) .projects
      disk = (.ok (projectChild .projects project), disk) := direct_passes reaches held
  unfold loadWorkspace
  rw [run_attempt direct, resolved]
  dsimp only
  rw [run_ok (ask_ok (strictly_found found))]
  exact ⟨_, newWorkspace_passes again seen held⟩

theorem loadWorkspace_refused (refused : ¬ Loads faults disk project) :
    ∃ e, loadWorkspace faults project provenance disk = (.error e, disk) := by
  unfold loadWorkspace
  by_cases direct : Reaches (faults .root) ∧
      ∃ entries, Assoc.get (.project project) (disk.top .projects) = some (.directory entries)
  · obtain ⟨reaches, entries, held⟩ := direct
    have found : disk.find (projectChild .projects project) = .ok (.directory entries) :=
      find_direct held
    have there : requireDirectDirectory (faults .root) (projectChild .projects project) .projects
        disk = (.ok (projectChild .projects project), disk) := direct_passes reaches held
    rw [run_attempt there]
    dsimp only
    cases resolved : faults .resolved .resolve with
    | true =>
        rw [run_error (ask_fault _)]
        exact ⟨_, rfl⟩
    | false =>
        rw [run_ok (ask_ok (strictly_found found))]
        refine ⟨_, newWorkspace_refused ?_ held⟩
        intro working
        exact refused ⟨reaches, resolved, working.1, working.2, entries, held⟩
  · have nowhere : requireDirectDirectory (faults .root) (projectChild .projects project) .projects
        disk = (.error unsafe_, disk) := direct_refused direct
    rw [run_attempt nowhere]
    exact ⟨_, rfl⟩

end Loading

section Walks

variable {faults : TreeCalls} {disk : Files} {slot : Slot} {name : Name} {entries : Entries Name}
  {σ : Type} {visitor : Files → Visitor σ Raised Name} {state : σ}

theorem walk_directory (held : Assoc.get name (disk.top slot) = some (.directory entries)) :
    walk visitor state ⟨slot, [], name⟩ disk =
      ((visitor disk).run state [⟨[], 0, entries⟩], disk) := by
  unfold walk
  rw [find_direct held]

variable (held : Assoc.get name (disk.top slot) = some (.directory entries))

include held

theorem validate_passes (surveyed : Surveyed faults entries) :
    validateCompensationTree (fun path => faults (.measured path)) ⟨slot, [], name⟩ disk =
      (.ok (), disk) := by
  obtain ⟨count, passed⟩ := surveyed
  have walked : walk (fun _ => compensationVisitor fun path => faults (.measured path)) 0
      ⟨slot, [], name⟩ disk = (.ok count, disk) := by
    rw [walk_directory held, passed]
  exact run_ok walked

theorem validate_refused (refused : ¬ Surveyed faults entries) :
    ∃ e, validateCompensationTree (fun path => faults (.measured path)) ⟨slot, [], name⟩ disk =
      (.error e, disk) := by
  cases outcome : (compensationVisitor fun path => faults (.measured path)).run 0
      [⟨[], 0, entries⟩] with
  | ok count => exact absurd ⟨count, outcome⟩ refused
  | error e =>
      have walked : walk (fun _ => compensationVisitor fun path => faults (.measured path)) 0
          ⟨slot, [], name⟩ disk = (.error e, disk) := by
        rw [walk_directory held, outcome]
      exact ⟨e, run_error walked⟩

end Walks

section Metadata

variable {faults : TreeCalls} {disk : Files} {project : UUID} {entries : Entries Name}

theorem metadata_absent (seen : faults .present .lstat = false)
    (absent : Assoc.get (.project project) (disk.top .gitMetadata) = none) :
    removeManagedGitDirectory faults project disk = (.ok (), disk) := by
  have missing : disk.find (projectChild .gitMetadata project) = .error .missing :=
    find_fresh absent
  unfold removeManagedGitDirectory
  rw [seen, run_attempt (ask_error missing)]
  rfl

theorem metadata_cleared (cleared : MetadataCleared faults disk project) :
    ∃ after, removeManagedGitDirectory faults project disk = (.ok (), after) ∧
      after.top = (disk.unbind (projectChild .gitMetadata project)).top ∧ SameFiles disk after := by
  obtain ⟨seen, cleared⟩ := cleared
  cases held : Assoc.get (.project project) (disk.top .gitMetadata) with
  | none =>
      rw [projectChild, unbind_absent held]
      exact ⟨disk, metadata_absent seen held, rfl, sameFiles_refl disk⟩
  | some node =>
      have found : disk.find (projectChild .gitMetadata project) = .ok node := find_direct held
      unfold removeManagedGitDirectory
      rw [seen, run_attempt (ask_ok found)]
      rw [held] at cleared
      cases node with
      | file | link | special => exact cleared.elim
      | directory entries =>
          obtain ⟨reaches, surveyed, fine⟩ := cleared
          have owned : requireDirectDirectory (faults .owned) (projectChild .gitMetadata project)
              .gitMetadata disk = (.ok (projectChild .gitMetadata project), disk) :=
            direct_passes reaches held
          obtain ⟨after, removes, top, same⟩ := removeAt_removes held fine
          dsimp only
          rw [run_ok owned]
          refine ⟨after, orRaise_ok ?_, top, same⟩
          exact (run_ok (validate_passes held surveyed)).trans removes

theorem metadata_kept (kept : MetadataKept faults disk project) :
    ∃ e, removeManagedGitDirectory faults project disk = (.error e, disk) := by
  unfold removeManagedGitDirectory
  cases seen : faults .present .lstat with
  | true =>
      rw [run_attempt (ask_fault _)]
      exact ⟨_, rfl⟩
  | false =>
      unfold MetadataKept at kept
      rw [seen] at kept
      simp only [Bool.false_eq_true, false_or] at kept
      cases held : Assoc.get (.project project) (disk.top .gitMetadata) with
      | none =>
          rw [held] at kept
          exact kept.elim
      | some node =>
          have found : disk.find (projectChild .gitMetadata project) = .ok node := find_direct held
          rw [run_attempt (ask_ok found)]
          dsimp only
          by_cases direct : Reaches (faults .owned) ∧ ∃ entries,
              Assoc.get (.project project) (disk.top .gitMetadata) = some (.directory entries)
          · obtain ⟨reaches, entries, there⟩ := direct
            rw [held] at there
            cases there
            rw [held] at kept
            have owned : requireDirectDirectory (faults .owned) (projectChild .gitMetadata project)
                .gitMetadata disk = (.ok (projectChild .gitMetadata project), disk) :=
              direct_passes reaches held
            rw [run_ok owned]
            by_cases surveyed : Surveyed faults entries
            · have stuck : untouched (fun path => faults (.removed path)) maxCompensationDepth 0 []
                  (.directory entries) = true := by
                rcases kept with lost | lost | stuck
                · exact absurd reaches lost
                · exact absurd surveyed lost
                · exact stuck
              obtain ⟨e, stays⟩ := removeAt_untouched held stuck
              exact orRaise_raised ((run_ok (validate_passes held surveyed)).trans stays) _
            · obtain ⟨e, refused⟩ := validate_refused held surveyed
              exact orRaise_raised (run_error refused) _
          · have nowhere :
              requireDirectDirectory (faults .owned) (projectChild .gitMetadata project)
                .gitMetadata disk = (.error unsafe_, disk) := direct_refused direct
            rw [run_error nowhere]
            exact ⟨_, rfl⟩

theorem metadata_damaged (partly : ¬ MetadataCleared faults disk project)
    (touched : ¬ MetadataKept faults disk project) :
    ∃ e after, removeManagedGitDirectory faults project disk = (.error e, after) ∧
      after.find (projectChild .gitMetadata project) ≠
        disk.find (projectChild .gitMetadata project) := by
  unfold MetadataCleared at partly
  unfold MetadataKept at touched
  simp only [not_or, Bool.not_eq_true] at touched
  obtain ⟨seen, touched⟩ := touched
  rw [seen] at partly
  simp only [true_and] at partly
  unfold removeManagedGitDirectory
  rw [seen]
  cases held : Assoc.get (.project project) (disk.top .gitMetadata) with
  | none =>
      rw [held] at partly
      exact absurd trivial partly
  | some node =>
      have found : disk.find (projectChild .gitMetadata project) = .ok node := find_direct held
      rw [run_attempt (ask_ok found)]
      rw [held] at partly touched
      cases node with
      | file | link | special => exact absurd trivial touched
      | directory entries =>
          simp only [not_or, not_not] at touched
          obtain ⟨reaches, surveyed, touched⟩ := touched
          have owned : requireDirectDirectory (faults .owned) (projectChild .gitMetadata project)
              .gitMetadata disk = (.ok (projectChild .gitMetadata project), disk) :=
            direct_passes reaches held
          obtain ⟨e, after, left, removes, there, different⟩ :=
            removeAt_damages held (fun fine => partly ⟨reaches, surveyed, fine⟩) touched
          obtain ⟨other, raises⟩ : ∃ other, removeWithinCeilings faults
              (projectChild .gitMetadata project) disk = (.error other, after) :=
            orRaise_raised ((run_ok (validate_passes held surveyed)).trans removes) _
          dsimp only
          rw [run_ok owned]
          refine ⟨other, after, raises, ?_⟩
          have later : after.find (projectChild .gitMetadata project) = .ok (.directory left) :=
            find_direct there
          rw [later, found]
          intro same
          cases same
          exact different rfl

end Metadata

section Trash

variable {limits : WorkspaceLimits} {faults : TreeCalls} {disk : Files} {project : UUID}
  {token : String} {entries : Entries Name}

def hidden (disk : Files) (project : UUID) (token : String) (entries : Entries Name) : Files :=
  (disk.unbind (projectChild .projects project)).bind (operationDirectory .trash project token)
    (.directory entries)

theorem hidden_other {slot : Slot} (projects : slot ≠ .projects) (trash : slot ≠ .trash) :
    (hidden disk project token entries).top slot = disk.top slot := by
  rw [hidden, Disk.bind, operationDirectory, Disk.alter_top_other _ _ _ trash, Disk.unbind,
    projectChild, Disk.alter_top_other _ _ _ projects]

theorem hidden_root :
    (hidden disk project token entries).top .projects =
      Assoc.erase (.project project) (disk.top .projects) := by
  have other : Slot.projects ≠ Slot.trash := by decide
  rw [hidden, Disk.bind, operationDirectory, Disk.alter_top_other _ _ _ other, Disk.unbind,
    projectChild, Disk.alter_top_self]
  rfl

theorem hidden_trash :
    (hidden disk project token entries).top .trash =
      Assoc.set (.operation project token) (.directory entries) (disk.top .trash) := by
  have other : Slot.trash ≠ Slot.projects := by decide
  rw [hidden, Disk.bind, operationDirectory, Disk.alter_top_self, Disk.unbind, projectChild,
    Disk.alter_top_other _ _ _ other]
  rfl

section Moving

variable (held : Assoc.get (.project project) (disk.top .projects) = some (.directory entries))

include held

theorem moveToTrash_hides (hides : Hides faults disk project token) :
    moveToTrash faults project token disk =
      (if faults .moved .resolve = true then .error cleanupFailed
        else .ok (operationDirectory .trash project token), hidden disk project token entries) := by
  obtain ⟨reaches, works, free⟩ := hides
  have other : Slot.projects ≠ Slot.trash := by decide
  have direct : requireDirectDirectory (faults .source) (projectChild .projects project) .projects
      disk = (.ok (projectChild .projects project), disk) := direct_passes reaches held
  have found : disk.find (projectChild .projects project) = .ok (.directory entries) :=
    find_direct held
  have moved :
    disk.rename (projectChild .projects project) (operationDirectory .trash project token) =
      .ok (hidden disk project token entries) :=
    Disk.rename_directory found rfl free other
  have there :
    Assoc.get (.operation project token) ((hidden disk project token entries).top .trash) =
      some (.directory entries) := by
    rw [hidden_trash, Assoc.get_set, if_pos rfl]
  have shown : (hidden disk project token entries).find (operationDirectory .trash project token) =
      .ok (.directory entries) := find_direct there
  unfold moveToTrash
  rw [run_ok direct, works]
  cases resolved : faults .moved .resolve with
  | true =>
      rw [if_pos rfl]
      exact orRaise_error ((run_ok (change_ok moved)).trans (run_error (ask_fault _)))
  | false =>
      rw [if_neg Bool.false_ne_true]
      apply orRaise_ok
      rw [run_ok (change_ok moved), run_ok (ask_ok (strictly_found shown))]
      rfl

theorem moveToTrash_refused (refused : ¬ Hides faults disk project token) :
    ∃ e, moveToTrash faults project token disk = (.error e, disk) := by
  have found : disk.find (projectChild .projects project) = .ok (.directory entries) :=
    find_direct held
  unfold moveToTrash
  by_cases reaches : Reaches (faults .source)
  · have direct : requireDirectDirectory (faults .source) (projectChild .projects project) .projects
        disk = (.ok (projectChild .projects project), disk) := direct_passes reaches held
    rw [run_ok direct]
    cases works : faults .moved .rename with
    | true => exact ⟨_, orRaise_error (run_error (change_fault _))⟩
    | false =>
        cases taken : Assoc.get (.operation project token) (disk.top .trash) with
        | none => exact absurd ⟨reaches, works, .inl taken⟩ refused
        | some node =>
            have full : node ≠ .directory [] := by
              intro bare
              rw [bare] at taken
              exact refused ⟨reaches, works, .inr taken⟩
            obtain ⟨error, blocked⟩ : ∃ error, disk.rename (projectChild .projects project)
                (operationDirectory .trash project token) = .error error :=
              Disk.rename_blocked found rfl taken full
            exact ⟨_, orRaise_error (run_error (change_error blocked))⟩
  · have nowhere : requireDirectDirectory (faults .source) (projectChild .projects project)
        .projects disk = (.error unsafe_, disk) := direct_refused fun direct => reaches direct.1
    rw [run_error nowhere]
    exact ⟨_, rfl⟩

end Moving

section Scanning

variable {calls : TreeFaults} {slot : Slot}
  (held : Assoc.get (.operation project token) (disk.top slot) = some (.directory entries))
  (listed : slot ∈ [Slot.staging, .trash, .projects])

include held listed

theorem scanUsage_passes {usage : WorkspaceResourceUsage} (reaches : Reaches (calls []))
    (passed : (usageVisitor limits calls disk).run {} [⟨[], 0, entries⟩] = .ok usage) :
    scanUsage limits calls (operationDirectory slot project token) disk = (.ok usage, disk) := by
  have canonical :
    requireAnyOwnedDirectory (calls []) (operationDirectory slot project token) disk =
      (.ok (operationDirectory slot project token), disk) := by
    unfold requireAnyOwnedDirectory
    rw [if_pos ⟨listed, rfl⟩]
    exact direct_passes reaches held
  have walked : walk (usageVisitor limits calls) {} (operationDirectory slot project token) disk =
      (.ok usage, disk) := by
    rw [← passed]
    exact walk_directory held
  exact (run_ok canonical).trans (orRaise_ok walked)

theorem scanUsage_refused (refused : ¬ (Reaches (calls []) ∧
    ∃ usage, (usageVisitor limits calls disk).run {} [⟨[], 0, entries⟩] = .ok usage)) :
    ∃ e, scanUsage limits calls (operationDirectory slot project token) disk =
      (.error e, disk) := by
  by_cases reaches : Reaches (calls [])
  · have canonical : requireAnyOwnedDirectory (calls []) (operationDirectory slot project token)
        disk = (.ok (operationDirectory slot project token), disk) := by
      unfold requireAnyOwnedDirectory
      rw [if_pos ⟨listed, rfl⟩]
      exact direct_passes reaches held
    have walked : walk (usageVisitor limits calls) {} (operationDirectory slot project token) disk =
        ((usageVisitor limits calls disk).run {} [⟨[], 0, entries⟩], disk) := walk_directory held
    unfold scanUsage
    rw [run_ok canonical]
    cases outcome : (usageVisitor limits calls disk).run {} [⟨[], 0, entries⟩] with
    | ok usage => exact absurd ⟨reaches, usage, outcome⟩ refused
    | error e =>
        rw [outcome] at walked
        exact orRaise_raised walked _
  · have nowhere :
      requireAnyOwnedDirectory (calls []) (operationDirectory slot project token) disk =
        (.error unsafe_, disk) := by
      unfold requireAnyOwnedDirectory
      rw [if_pos ⟨listed, rfl⟩]
      exact direct_refused fun direct => reaches direct.1
    exact ⟨_, run_error nowhere⟩

end Scanning

section Removing

variable (held : Assoc.get (.operation project token) (disk.top .trash) = some (.directory entries))

theorem requireRemovable_eq (slots : List Slot) {slot : Slot} (listed : slot ∈ slots) :
    requireRemovableTree faults slots (operationDirectory slot project token) =
      requireDirectDirectory (faults .owned) (operationDirectory slot project token) slot := by
  unfold requireRemovableTree
  exact if_pos ⟨listed, rfl, rfl⟩

include held

theorem removeOwnedTree_empties (empties : Empties limits faults disk entries) :
    ∃ after, removeOwnedTree limits faults (operationDirectory .trash project token) disk =
        (.ok (), after) ∧
      after.top = (disk.unbind (operationDirectory .trash project token)).top ∧
        SameFiles disk after := by
  obtain ⟨reaches, again, ⟨usage, passed⟩, fine⟩ := empties
  obtain ⟨after, removes, top, same⟩ := removeAt_removes held fine
  have owned : requireDirectDirectory (faults .owned) (operationDirectory .trash project token)
      .trash disk = (.ok (operationDirectory .trash project token), disk) :=
    direct_passes reaches held
  have scanned : scanUsage limits (fun path => faults (.measured path))
      (operationDirectory .trash project token) disk = (.ok usage, disk) :=
    scanUsage_passes held (by decide) again passed
  unfold removeOwnedTree
  rw [requireRemovable_eq _ (by decide), run_ok owned]
  exact ⟨after, orRaise_ok ((run_ok scanned).trans removes), top, same⟩

theorem removeOwnedTree_refused (refused : ¬ Empties limits faults disk entries) :
    ∃ e after, removeOwnedTree limits faults (operationDirectory .trash project token) disk =
        (.error e, after) ∧ ∀ slot, slot ≠ .trash → after.top slot = disk.top slot := by
  unfold removeOwnedTree
  rw [requireRemovable_eq _ (by decide)]
  by_cases reaches : Reaches (faults .owned)
  · have owned : requireDirectDirectory (faults .owned) (operationDirectory .trash project token)
        .trash disk = (.ok (operationDirectory .trash project token), disk) :=
      direct_passes reaches held
    rw [run_ok owned]
    by_cases scans : Reaches (faults (.measured [])) ∧
        ∃ usage, (usageVisitor limits (fun path => faults (.measured path)) disk).run {}
          [⟨[], 0, entries⟩] = .ok usage
    · obtain ⟨again, usage, passed⟩ := scans
      have scanned : scanUsage limits (fun path => faults (.measured path))
          (operationDirectory .trash project token) disk = (.ok usage, disk) :=
        scanUsage_passes held (by decide) again passed
      have partly : ¬ removable (fun path => faults (.removed path)) limits.maxDepth 0 []
          (.directory entries) = true :=
        fun fine => refused ⟨reaches, again, ⟨usage, passed⟩, fine⟩
      have confined := confined_removeAt (fun path => faults (.removed path)) limits.maxDepth
        (operationDirectory .trash project token) disk
      obtain ⟨e, after, removes⟩ : ∃ e after, removeAt (fun path => faults (.removed path))
          limits.maxDepth (operationDirectory .trash project token) disk = (.error e, after) := by
        by_cases stuck : untouched (fun path => faults (.removed path)) limits.maxDepth 0 []
            (.directory entries) = true
        · obtain ⟨e, stays⟩ := removeAt_untouched held stuck
          exact ⟨e, disk, stays⟩
        · obtain ⟨e, after, _, removes, _⟩ := removeAt_damages held partly stuck
          exact ⟨e, after, removes⟩
      rw [removes] at confined
      have raised : (scanUsage limits (fun path => faults (.measured path))
          (operationDirectory .trash project token) >>= fun _ =>
            removeAt (fun path => faults (.removed path)) limits.maxDepth
              (operationDirectory .trash project token)) disk = (.error e, after) :=
        (run_ok scanned).trans removes
      obtain ⟨last, raises⟩ := orRaise_raised raised cleanupFailed
      exact ⟨last, after, raises, confined⟩
    · obtain ⟨e, scanned⟩ : ∃ e, scanUsage limits (fun path => faults (.measured path))
          (operationDirectory .trash project token) disk = (.error e, disk) :=
        scanUsage_refused held (by decide) scans
      obtain ⟨last, raises⟩ := orRaise_raised (run_error scanned) cleanupFailed
      exact ⟨last, disk, raises, fun _ _ => rfl⟩
  · have nowhere : requireDirectDirectory (faults .owned) (operationDirectory .trash project token)
        .trash disk = (.error unsafe_, disk) := direct_refused fun direct => reaches direct.1
    rw [run_error nowhere]
    exact ⟨_, disk, rfl, fun _ _ => rfl⟩

end Removing

theorem usageVisitor_congr {other : Files} (faults : TreeFaults) (same : SameFiles disk other) :
    usageVisitor limits faults other = usageVisitor limits faults disk := by
  have sizes : ∀ inode, (other.inodes inode).content = (disk.inodes inode).content :=
    fun inode => (same inode).1
  unfold usageVisitor
  simp only [sizes]

theorem empties_congr {other : Files} (same : SameFiles disk other) :
    Empties limits faults other entries ↔ Empties limits faults disk entries := by
  unfold Empties
  rw [usageVisitor_congr _ same]

end Trash

section Desk

variable {host : ManagerHost} {disk after : Files} {records : List WorkspaceAuditRecord} {α : Type}

theorem atBase_run {body : Program Files Raised α} {outcome : Except Raised α}
    (run : body disk = (outcome, after)) :
    atBase body ⟨disk, records⟩ = (outcome, ⟨after, records⟩) := by
  unfold atBase within
  simp [run]

theorem submit_run (record : WorkspaceAuditRecord) :
    submit host record ⟨disk, records⟩ = (host.record record, ⟨disk, records ++ [record]⟩) := by
  unfold submit
  rw [update_run]
  cases host.record record with
  | ok a => rfl
  | error e => rfl

end Desk

section Body

variable (host : ManagerHost) (disk : Files) (project : UUID) (audit : WorkspaceAuditContext)

def cleanupRecord : WorkspaceAuditRecord :=
  { context := audit
    projectId := project
    operation := .cleanup
    result := .succeeded
    data := { durationMs := durationMs host, cleaned := some true } }

def Whole : Prop :=
  Loads (fun site => host.faults (.load site)) disk project ∧
    MetadataCleared (fun site => host.faults (.gitMetadata site)) disk project ∧
    Hides (fun site => host.faults (.trash site)) disk project host.trashToken ∧
    host.faults (.trash .moved) .resolve = false ∧
    (∀ entries, Assoc.get (.project project) (disk.top .projects) = some (.directory entries) →
      Empties host.limits (fun site => host.faults (.remove site)) disk entries) ∧
    host.record (cleanupRecord host project audit) = .ok ()

def Stopped : Prop :=
  ¬ Loads (fun site => host.faults (.load site)) disk project ∨
    MetadataKept (fun site => host.faults (.gitMetadata site)) disk project ∨
      Assoc.get (.project project) (disk.top .gitMetadata) = none ∧
        ¬ Hides (fun site => host.faults (.trash site)) disk project host.trashToken

variable {host disk project audit} {records : List WorkspaceAuditRecord}

theorem hides_congr {other : Files} {faults : TreeCalls} {token : String}
    (same : other.top .trash = disk.top .trash) :
    Hides faults other project token ↔ Hides faults disk project token := by
  unfold Hides
  rw [same]

theorem loads_held {faults : TreeCalls} (loads : Loads faults disk project) :
    ∃ entries, Assoc.get (.project project) (disk.top .projects) = some (.directory entries) :=
  loads.2.2.2.2

theorem removeWorkspace_whole (whole : Whole host disk project audit) :
    ∃ after later, removeWorkspace host project audit ⟨disk, records⟩ = (.ok (), ⟨after, later⟩) ∧
      after.top .projects = Assoc.erase (.project project) (disk.top .projects) ∧
      after.top .gitMetadata = Assoc.erase (.project project) (disk.top .gitMetadata) ∧
      after.top .trash = Assoc.erase (.operation project host.trashToken) (disk.top .trash) ∧
      after.top .locks = disk.top .locks := by
  obtain ⟨loads, cleared, hides, resolved, empties, accepted⟩ := whole
  obtain ⟨entries, held⟩ := loads_held loads
  obtain ⟨workspace, loaded⟩ : ∃ workspace, loadWorkspace (fun site => host.faults (.load site))
      project .empty disk = (.ok workspace, disk) := loadWorkspace_passes loads
  obtain ⟨middle, removes, top, same⟩ := metadata_cleared cleared
  have others : ∀ slot, slot ≠ .gitMetadata → middle.top slot = disk.top slot := by
    intro slot different
    rw [top, Disk.unbind, projectChild, Disk.alter_top_other _ _ _ different]
  have there : Assoc.get (.project project) (middle.top .projects) = some (.directory entries) := by
    rw [others .projects (by decide), held]
  have moves := moveToTrash_hides there
    ((hides_congr (others .trash (by decide))).mpr hides)
  rw [resolved, if_neg Bool.false_ne_true] at moves
  have inTrash : Assoc.get (.operation project host.trashToken)
      ((hidden middle project host.trashToken entries).top .trash) = some (.directory entries) := by
    rw [hidden_trash, Assoc.get_set, if_pos rfl]
  have later : SameFiles disk (hidden middle project host.trashToken entries) := same
  obtain ⟨after, empty, last, _⟩ := removeOwnedTree_empties inTrash
    ((empties_congr later).mpr (empties entries held))
  have kept : ∀ slot, slot ≠ .trash → after.top slot =
      (hidden middle project host.trashToken entries).top slot := by
    intro slot different
    rw [last, Disk.unbind, operationDirectory, Disk.alter_top_other _ _ _ different]
  refine ⟨after, records ++ [cleanupRecord host project audit], ?_, ?_, ?_, ?_, ?_⟩
  · unfold removeWorkspace
    rw [run_ok (atBase_run loaded), run_ok (atBase_run removes), run_ok (atBase_run moves),
      run_ok (atBase_run empty)]
    exact (submit_run _).trans (Prod.ext accepted rfl)
  · rw [kept .projects (by decide), hidden_root, others .projects (by decide)]
  · rw [kept .gitMetadata (by decide), hidden_other (by decide) (by decide), top, Disk.unbind,
      projectChild, Disk.alter_top_self]
    rfl
  · rw [last, Disk.unbind, operationDirectory, Disk.alter_top_self]
    show Assoc.erase _ ((hidden middle project host.trashToken entries).top .trash) = _
    rw [hidden_trash, Assoc.erase_set, others .trash (by decide)]
  · rw [kept .locks (by decide), hidden_other (by decide) (by decide), others .locks (by decide)]

theorem removeWorkspace_stopped (stopped : Stopped host disk project) :
    ∃ e, removeWorkspace host project audit ⟨disk, records⟩ = (.error e, ⟨disk, records⟩) := by
  unfold removeWorkspace
  by_cases loads : Loads (fun site => host.faults (.load site)) disk project
  · obtain ⟨workspace, loaded⟩ : ∃ workspace, loadWorkspace (fun site => host.faults (.load site))
        project .empty disk = (.ok workspace, disk) := loadWorkspace_passes loads
    rw [run_ok (atBase_run loaded)]
    by_cases kept : MetadataKept (fun site => host.faults (.gitMetadata site)) disk project
    · obtain ⟨e, stays⟩ := metadata_kept kept
      rw [run_error (atBase_run stays)]
      exact ⟨e, rfl⟩
    · obtain ⟨absent, refused⟩ := (stopped.resolve_left (not_not.mpr loads)).resolve_left kept
      obtain ⟨entries, held⟩ := loads_held loads
      have seen : host.faults (.gitMetadata .present) .lstat = false := by
        by_contra failing
        exact kept (.inl (Bool.not_eq_false _ ▸ failing))
      have passes : removeManagedGitDirectory (fun site => host.faults (.gitMetadata site)) project
          disk = (.ok (), disk) := metadata_absent seen absent
      obtain ⟨e, stays⟩ := moveToTrash_refused held refused
      rw [run_ok (atBase_run passes), run_error (atBase_run stays)]
      exact ⟨e, rfl⟩
  · obtain ⟨e, refused⟩ : ∃ e, loadWorkspace (fun site => host.faults (.load site)) project .empty
        disk = (.error e, disk) := loadWorkspace_refused loads
    rw [run_error (atBase_run refused)]
    exact ⟨e, rfl⟩

def Ruined (before after : Files) (project : UUID) : Prop :=
  after.find (projectChild .projects project) ≠ before.find (projectChild .projects project) ∨
    after.find (projectChild .gitMetadata project) ≠
      before.find (projectChild .gitMetadata project)

theorem ruined_root {after : Files} {entries : Entries Name}
    (held : Assoc.get (.project project) (disk.top .projects) = some (.directory entries))
    (gone : Assoc.get (.project project) (after.top .projects) = none) :
    Ruined disk after project := by
  have missing : after.find (projectChild .projects project) = .error .missing := find_fresh gone
  have found : disk.find (projectChild .projects project) = .ok (.directory entries) :=
    find_direct held
  left
  rw [missing, found]
  intro same
  cases same

theorem removeWorkspace_ruined (partly : ¬ Whole host disk project audit)
    (started : ¬ Stopped host disk project) :
    ∃ e after later, removeWorkspace host project audit ⟨disk, records⟩ =
      (.error e, ⟨after, later⟩) ∧ Ruined disk after project := by
  unfold Stopped at started
  simp only [not_or, not_not, not_and] at started
  obtain ⟨loads, touched, hides⟩ := started
  obtain ⟨entries, held⟩ := loads_held loads
  obtain ⟨workspace, loaded⟩ : ∃ workspace, loadWorkspace (fun site => host.faults (.load site))
      project .empty disk = (.ok workspace, disk) := loadWorkspace_passes loads
  unfold removeWorkspace
  rw [run_ok (atBase_run loaded)]
  by_cases cleared : MetadataCleared (fun site => host.faults (.gitMetadata site)) disk project
  · obtain ⟨middle, removes, top, same⟩ := metadata_cleared cleared
    have others : ∀ slot, slot ≠ .gitMetadata → middle.top slot = disk.top slot := by
      intro slot different
      rw [top, Disk.unbind, projectChild, Disk.alter_top_other _ _ _ different]
    have there : Assoc.get (.project project) (middle.top .projects) =
        some (.directory entries) := by
      rw [others .projects (by decide), held]
    rw [run_ok (atBase_run removes)]
    by_cases hidden_ : Hides (fun site => host.faults (.trash site)) middle project host.trashToken
    · have gone : Assoc.get (.project project)
          ((hidden middle project host.trashToken entries).top .projects) = none := by
        rw [hidden_root, Assoc.get_erase, if_pos rfl]
      have moves := moveToTrash_hides there hidden_
      cases resolved : host.faults (.trash .moved) .resolve with
      | true =>
          rw [resolved, if_pos rfl] at moves
          rw [run_error (atBase_run moves)]
          exact ⟨_, _, records, rfl, ruined_root held gone⟩
      | false =>
          rw [resolved, if_neg Bool.false_ne_true] at moves
          rw [run_ok (atBase_run moves)]
          have inTrash : Assoc.get (.operation project host.trashToken)
              ((hidden middle project host.trashToken entries).top .trash) =
                some (.directory entries) := by
            rw [hidden_trash, Assoc.get_set, if_pos rfl]
          by_cases empties : Empties host.limits (fun site => host.faults (.remove site))
              (hidden middle project host.trashToken entries) entries
          · obtain ⟨after, empty, last, _⟩ := removeOwnedTree_empties inTrash empties
            rw [run_ok (atBase_run empty)]
            have lost : Assoc.get (.project project) (after.top .projects) = none := by
              have other : Slot.projects ≠ Slot.trash := by decide
              rw [last, Disk.unbind, operationDirectory, Disk.alter_top_other _ _ _ other, gone]
            cases accepted : host.record (cleanupRecord host project audit) with
            | error e =>
                exact ⟨e, after, _, (submit_run _).trans (Prod.ext accepted rfl),
                  ruined_root held lost⟩
            | ok answer =>
                refine absurd ⟨loads, cleared, ?_, resolved, ?_, accepted⟩ partly
                · exact (hides_congr (others .trash (by decide))).mp hidden_
                · intro inner again
                  rw [held] at again
                  cases again
                  have later : SameFiles disk (hidden middle project host.trashToken entries) :=
                    same
                  exact (empties_congr later).mp empties
          · obtain ⟨e, after, fails, kept⟩ := removeOwnedTree_refused inTrash empties
            rw [run_error (atBase_run fails)]
            refine ⟨e, after, records, rfl, ruined_root held ?_⟩
            rw [kept .projects (by decide), gone]
    · obtain ⟨e, stays⟩ := moveToTrash_refused there hidden_
      rw [run_error (atBase_run stays)]
      refine ⟨e, middle, records, rfl, .inr ?_⟩
      have refused := mt (hides_congr (others .trash (by decide))).mpr hidden_
      cases metadata : Assoc.get (.project project) (disk.top .gitMetadata) with
      | none => exact absurd (hides metadata) refused
      | some node =>
          have gone : Assoc.get (.project project) (middle.top .gitMetadata) = none := by
            rw [top, Disk.unbind, projectChild, Disk.alter_top_self]
            show Assoc.get _ (Assoc.erase _ (disk.top .gitMetadata)) = none
            rw [Assoc.get_erase, if_pos rfl]
          have missing : middle.find (projectChild .gitMetadata project) = .error .missing :=
            find_fresh gone
          have found : disk.find (projectChild .gitMetadata project) = .ok node :=
            find_direct metadata
          rw [missing, found]
          intro same
          cases same
  · obtain ⟨e, after, removes, different⟩ := metadata_damaged cleared touched
    rw [run_error (atBase_run removes)]
    exact ⟨e, after, records, rfl, .inr different⟩

end Body

section Lock

variable {host : ManagerHost} {disk : Files} {project : UUID} {records : List WorkspaceAuditRecord}
  {α : Type} {refused : Raised → Program Desk Raised α} {body : Program Desk Raised α}

theorem underLock_refused
    (busy : host.faults .acquireLock .mkdir = true ∨ ¬ LockFree disk project) :
    ∃ e, underLock host project refused body ⟨disk, records⟩ = refused e ⟨disk, records⟩ := by
  obtain ⟨code, message, busy⟩ := acquireLock_refused busy
  unfold underLock
  rw [run_attempt (atBase_run busy)]
  exact ⟨_, rfl⟩

variable (working : host.faults .acquireLock .mkdir = false) (free : LockFree disk project)

include working free

/-- A body that raises makes the whole raise, and the release changes the locks only. -/
theorem underLock_raised {e : Raised} {left : Desk}
    (run : body ⟨lockTaken disk project, records⟩ = (.error e, left)) :
    ∃ other last, underLock host project refused body ⟨disk, records⟩ = (.error other, last) ∧
      last.records = left.records ∧
        ∀ slot, slot ≠ .locks → last.disk.top slot = left.disk.top slot := by
  obtain ⟨left, later⟩ := left
  have confined := confined_releaseLock (host.faults .releaseLock) project left
  unfold underLock
  rw [run_attempt (atBase_run (acquireLock_ok working free))]
  dsimp only
  rw [run_attempt run]
  rcases released : releaseLock (host.faults .releaseLock) project left with ⟨raised | done, last⟩
  · rw [released] at confined
    rw [run_error (atBase_run released)]
    exact ⟨_, _, rfl, rfl, confined⟩
  · rw [released] at confined
    rw [run_ok (atBase_run released)]
    exact ⟨_, _, rfl, rfl, confined⟩

variable {outcome : Except Raised α} {left : Files} {later : List WorkspaceAuditRecord}
  (run : body ⟨lockTaken disk project, records⟩ = (outcome, ⟨left, later⟩))
  (held : Assoc.get (.project project) (left.top .locks) = some (.directory []))

include run held

theorem underLock_released (releases : Releases (host.faults .releaseLock)) :
    underLock host project refused body ⟨disk, records⟩ =
      (outcome, ⟨left.unbind (projectChild .locks project), later⟩) := by
  unfold underLock
  rw [run_attempt (atBase_run (acquireLock_ok working free))]
  dsimp only
  rw [run_attempt run, run_ok (atBase_run (releaseLock_ok held releases))]
  cases outcome with
  | ok a => rfl
  | error e => rfl

theorem underLock_kept (failing : ¬ Releases (host.faults .releaseLock)) :
    underLock host project refused body ⟨disk, records⟩ = (.error unsafe_, ⟨left, later⟩) := by
  unfold underLock
  rw [run_attempt (atBase_run (acquireLock_ok working free))]
  dsimp only
  rw [run_attempt run, run_error (atBase_run (releaseLock_fault held failing))]

end Lock

section Theorem

variable (host : ManagerHost) (desk : Desk) (project : UUID) (audit : WorkspaceAuditContext)

def CleansTo (before after : Files) (project : UUID) : Except Raised Unit → Prop
  | .ok _ => Gone after project
  | .error _ => Intact before after project

/-- A cleanup that returns has removed the workspace, and one that raises leaves it in place. -/
def Cleans : Prop :=
  ∀ outcome after, cleanupWorkspace host project audit desk = (outcome, after) →
    CleansTo desk.disk after.disk project outcome

/-- The request or its lock is refused; or the lock can be released, and the cleanup stops before
it has removed anything, or removes everything there is. -/
def Cleanable : Prop :=
  audit.projectId ≠ project ∨ host.faults .acquireLock .mkdir = true ∨
    ¬ LockFree desk.disk project ∨
      Releases (host.faults .releaseLock) ∧
        (Stopped host desk.disk project ∨
          Whole host desk.disk project audit ∧
            ∀ token, token ≠ host.trashToken →
              Assoc.get (.operation project token) (desk.disk.top .trash) = none)

variable {host project audit} {disk : Files} {records : List WorkspaceAuditRecord}

theorem intact_refl (disk : Files) (project : UUID) : Intact disk disk project :=
  ⟨rfl, rfl, rfl, sameFiles_refl disk⟩

theorem lockTaken_other {slot : Slot} (different : slot ≠ .locks) :
    (lockTaken disk project).top slot = disk.top slot :=
  Disk.alter_top_other _ _ _ different

theorem stopped_lockTaken :
    Stopped host (lockTaken disk project) project ↔ Stopped host disk project := by
  have projects : (lockTaken disk project).top .projects = disk.top .projects :=
    lockTaken_other (by decide)
  have metadata : (lockTaken disk project).top .gitMetadata = disk.top .gitMetadata :=
    lockTaken_other (by decide)
  have trash : (lockTaken disk project).top .trash = disk.top .trash :=
    lockTaken_other (by decide)
  unfold Stopped Loads MetadataKept Hides
  rw [projects, metadata, trash]

theorem whole_lockTaken :
    Whole host (lockTaken disk project) project audit ↔ Whole host disk project audit := by
  have projects : (lockTaken disk project).top .projects = disk.top .projects :=
    lockTaken_other (by decide)
  have metadata : (lockTaken disk project).top .gitMetadata = disk.top .gitMetadata :=
    lockTaken_other (by decide)
  have trash : (lockTaken disk project).top .trash = disk.top .trash :=
    lockTaken_other (by decide)
  have same : ∀ entries, Empties host.limits (fun site => host.faults (.remove site))
      (lockTaken disk project) entries ↔
        Empties host.limits (fun site => host.faults (.remove site)) disk entries :=
    fun entries => empties_congr (sameFiles_refl disk)
  unfold Whole Loads MetadataCleared Hides
  simp only [projects, metadata, trash, same]

theorem cleanupFailure_run (e : Raised) : ∃ other later,
    cleanupFailure host project audit e ⟨disk, records⟩ = (.error other, ⟨disk, later⟩) := by
  cases e with
  | workspace code message =>
      unfold cleanupFailure
      dsimp only
      split
      · exact ⟨_, records, rfl⟩
      · obtain ⟨answer, later, submitted⟩ : ∃ answer later,
            recordFailure host project audit .cleanup code false ⟨disk, records⟩ =
              (answer, ⟨disk, later⟩) := ⟨_, _, submit_run _⟩
        cases answer with
        | error e => exact ⟨e, later, run_error submitted⟩
        | ok accepted => exact ⟨_, later, run_ok submitted⟩
  | os | tool | valueError | otherError | cancelled | fatal => exact ⟨_, records, rfl⟩

theorem handled_ok {σ α : Type} {body : Program σ Raised α} {handler : Raised → Program σ Raised α}
    {s t : σ} {a : α} (run : body s = (.ok a, t)) : handled body handler s = (.ok a, t) :=
  run_attempt run

theorem handled_error {σ α : Type} {body : Program σ Raised α}
    {handler : Raised → Program σ Raised α} {s t : σ} {e : Raised} (run : body s = (.error e, t)) :
    handled body handler s = handler e t :=
  run_attempt run

theorem cleans_run {desk after : Desk} {outcome : Except Raised Unit}
    (run : cleanupWorkspace host project audit desk = (outcome, after)) :
    Cleans host desk project audit ↔ CleansTo desk.disk after.disk project outcome := by
  constructor
  · intro cleans
    exact cleans outcome after run
  · intro holds other left again
    rw [run] at again
    cases again
    exact holds

theorem cleanup_invalid (mismatch : audit.projectId ≠ project) (desk : Desk) :
    cleanupWorkspace host project audit desk = (.error invalidRequest, desk) := by
  unfold cleanupWorkspace validateRequest
  rw [if_pos mismatch]
  rfl

theorem cleanup_valid (matching : audit.projectId = project) (desk : Desk) :
    cleanupWorkspace host project audit desk =
      underLock host project (cleanupFailure host project audit)
        (handled (removeWorkspace host project audit) (cleanupFailure host project audit))
          desk := by
  unfold cleanupWorkspace validateRequest
  rw [if_neg (not_not.mpr matching)]
  rfl

theorem whole_gone {left : Files}
    (root : left.top .projects = Assoc.erase (.project project) (disk.top .projects))
    (metadata : left.top .gitMetadata = Assoc.erase (.project project) (disk.top .gitMetadata))
    (trash : left.top .trash = Assoc.erase (.operation project host.trashToken) (disk.top .trash)) :
    Gone left project ↔ ∀ token, token ≠ host.trashToken →
      Assoc.get (.operation project token) (disk.top .trash) = none := by
  constructor
  · intro gone token different
    have missing := gone.trash token
    cases there : Assoc.get (.operation project token) (left.top .trash) with
    | some node =>
        rw [operationDirectory, find_direct there] at missing
        cases missing
    | none =>
        rw [trash, Assoc.get_erase, if_neg] at there
        · exact there
        · intro same
          cases same
          exact different rfl
  · intro older
    refine ⟨find_fresh ?_, find_fresh ?_, fun token => find_fresh ?_⟩
    · rw [root, Assoc.get_erase, if_pos rfl]
    · rw [metadata, Assoc.get_erase, if_pos rfl]
    · rw [trash, Assoc.get_erase]
      split
      · rfl
      · next different =>
          apply older
          intro same
          rw [same] at different
          exact different rfl

theorem gone_unbind {left : Files} :
    Gone (left.unbind (projectChild .locks project)) project ↔ Gone left project := by
  have apart : ∀ {slot : Slot} {name : Name}, slot ≠ .locks →
      (left.unbind (projectChild .locks project)).find ⟨slot, [], name⟩ =
        left.find ⟨slot, [], name⟩ :=
    fun different => Disk.find_unbind_other _ _ different
  have projects : Slot.projects ≠ Slot.locks := by decide
  have metadata : Slot.gitMetadata ≠ Slot.locks := by decide
  have trash : Slot.trash ≠ Slot.locks := by decide
  constructor
  · intro gone
    exact ⟨(apart projects).symm.trans gone.root, (apart metadata).symm.trans gone.metadata,
      fun token => (apart trash).symm.trans (gone.trash token)⟩
  · intro gone
    exact ⟨(apart projects).trans gone.root, (apart metadata).trans gone.metadata,
      fun token => (apart trash).trans (gone.trash token)⟩

theorem cleanup_busy (matching : audit.projectId = project)
    (busy : host.faults .acquireLock .mkdir = true ∨ ¬ LockFree disk project) :
    ∃ e later, cleanupWorkspace host project audit ⟨disk, records⟩ = (.error e, ⟨disk, later⟩) := by
  obtain ⟨e, refused⟩ : ∃ e, underLock host project (cleanupFailure host project audit)
      (handled (removeWorkspace host project audit) (cleanupFailure host project audit))
        ⟨disk, records⟩ = cleanupFailure host project audit e ⟨disk, records⟩ :=
    underLock_refused busy
  rw [cleanup_valid matching, refused]
  exact cleanupFailure_run e

theorem lockTaken_held (free : LockFree disk project) :
    Assoc.get (.project project) ((lockTaken disk project).top .locks) = some (.directory []) := by
  have top : (lockTaken disk project).top .locks =
      disk.top .locks ++ [(.project project, .directory [])] := bind_direct free
  rw [top, Assoc.get_concat _ _ _ _ free, if_pos rfl]

theorem ruined_unlocked {left last : Files} (ruined : Ruined (lockTaken disk project) left project)
    (same : ∀ slot, slot ≠ .locks → last.top slot = left.top slot) :
    ¬ Intact disk last project := by
  have before : ∀ {slot : Slot} {name : Name}, slot ≠ .locks →
      (lockTaken disk project).find ⟨slot, [], name⟩ = disk.find ⟨slot, [], name⟩ :=
    fun different => Disk.find_bind_other _ _ _ different
  have after : ∀ {slot : Slot} {name : Name}, slot ≠ .locks →
      last.find ⟨slot, [], name⟩ = left.find ⟨slot, [], name⟩ :=
    fun different => Disk.find_congr (same _ different)
  have projects : Slot.projects ≠ Slot.locks := by decide
  have metadata : Slot.gitMetadata ≠ Slot.locks := by decide
  intro intact
  rcases ruined with lost | lost
  · exact lost ((after projects).symm.trans (intact.root.trans (before projects).symm))
  · exact lost ((after metadata).symm.trans (intact.metadata.trans (before metadata).symm))

section Locked

variable (matching : audit.projectId = project) (working : host.faults .acquireLock .mkdir = false)
  (free : LockFree disk project)

include matching working free

theorem cleanup_stopped (stopped : Stopped host (lockTaken disk project) project) :
    ∃ e after later, cleanupWorkspace host project audit ⟨disk, records⟩ =
        (.error e, ⟨after, later⟩) ∧
      (Intact disk after project ↔ Releases (host.faults .releaseLock)) := by
  obtain ⟨e, stops⟩ : ∃ e, removeWorkspace host project audit ⟨lockTaken disk project, records⟩ =
      (.error e, ⟨lockTaken disk project, records⟩) := removeWorkspace_stopped stopped
  obtain ⟨other, later, fails⟩ : ∃ other later, cleanupFailure host project audit e
      ⟨lockTaken disk project, records⟩ = (.error other, ⟨lockTaken disk project, later⟩) :=
    cleanupFailure_run e
  have run := (handled_error stops).trans fails
  rw [cleanup_valid matching]
  by_cases releases : Releases (host.faults .releaseLock)
  · rw [underLock_released working free run (lockTaken_held free) releases]
    refine ⟨_, _, _, rfl, fun _ => releases, fun _ => ?_⟩
    have back : (lockTaken disk project).unbind (projectChild .locks project) = disk :=
      unbind_bound free
    rw [back]
    exact intact_refl disk project
  · rw [underLock_kept working free run (lockTaken_held free) releases]
    refine ⟨_, _, _, rfl, fun intact => ?_, fun held => absurd held releases⟩
    have there : (lockTaken disk project).find (projectChild .locks project) =
        .ok (.directory []) :=
      find_direct (lockTaken_held free)
    have missing : disk.find (projectChild .locks project) = .error .missing := find_fresh free
    have same := intact.lock
    rw [there, missing] at same
    cases same

theorem cleanup_whole (whole : Whole host (lockTaken disk project) project audit) :
    ∃ outcome after later, cleanupWorkspace host project audit ⟨disk, records⟩ =
        (outcome, ⟨after, later⟩) ∧
      (CleansTo disk after project outcome ↔
        Releases (host.faults .releaseLock) ∧ ∀ token, token ≠ host.trashToken →
          Assoc.get (.operation project token) (disk.top .trash) = none) := by
  obtain ⟨left, later, removes, root, metadata, trash, locks⟩ :
      ∃ left later, removeWorkspace host project audit ⟨lockTaken disk project, records⟩ =
        (.ok (), ⟨left, later⟩) ∧ _ := removeWorkspace_whole whole
  have held : Assoc.get (.project project) (left.top .locks) = some (.directory []) := by
    rw [locks, lockTaken_held free]
  have gone := whole_gone root metadata trash
  have same : (lockTaken disk project).top .trash = disk.top .trash := lockTaken_other (by decide)
  rw [same] at gone
  have run : handled (removeWorkspace host project audit) (cleanupFailure host project audit)
      ⟨lockTaken disk project, records⟩ = (.ok (), ⟨left, later⟩) := handled_ok removes
  rw [cleanup_valid matching]
  by_cases releases : Releases (host.faults .releaseLock)
  · rw [underLock_released working free run held releases]
    refine ⟨_, _, _, rfl, ?_⟩
    show Gone _ project ↔ _
    rw [gone_unbind, gone]
    exact ⟨fun older => ⟨releases, older⟩, fun both => both.2⟩
  · rw [underLock_kept working free run held releases]
    refine ⟨_, _, _, rfl, fun intact => ?_, fun both => absurd both.1 releases⟩
    have there : left.find (projectChild .locks project) = .ok (.directory []) := find_direct held
    have missing : disk.find (projectChild .locks project) = .error .missing := find_fresh free
    have same := intact.lock
    rw [there, missing] at same
    cases same

theorem cleanup_ruined (partly : ¬ Whole host (lockTaken disk project) project audit)
    (started : ¬ Stopped host (lockTaken disk project) project) :
    ∃ e after, cleanupWorkspace host project audit ⟨disk, records⟩ = (.error e, after) ∧
      ¬ Intact disk after.disk project := by
  obtain ⟨e, left, middle, raises, ruined⟩ :
      ∃ e left middle, removeWorkspace host project audit ⟨lockTaken disk project, records⟩ =
        (.error e, ⟨left, middle⟩) ∧ _ := removeWorkspace_ruined partly started
  obtain ⟨other, later, fails⟩ : ∃ other later, cleanupFailure host project audit e
      ⟨left, middle⟩ = (.error other, ⟨left, later⟩) := cleanupFailure_run e
  have run := (handled_error raises).trans fails
  obtain ⟨last, after, raised, _, same⟩ :
      ∃ last after, underLock host project (cleanupFailure host project audit)
        (handled (removeWorkspace host project audit) (cleanupFailure host project audit))
          ⟨disk, records⟩ = (.error last, after) ∧ _ := underLock_raised working free run
  rw [cleanup_valid matching]
  exact ⟨last, after, raised, ruined_unlocked ruined same⟩

end Locked

/-- A cleanup leaves nothing of the workspace, or raises and leaves it in place, exactly when it is
cleanable. -/
theorem cleanup_cleans (host : ManagerHost) (desk : Desk) (project : UUID)
    (audit : WorkspaceAuditContext) :
    Cleans host desk project audit ↔ Cleanable host desk project audit := by
  obtain ⟨disk, records⟩ := desk
  unfold Cleanable
  by_cases matching : audit.projectId = project
  · by_cases busy : host.faults .acquireLock .mkdir = true ∨ ¬ LockFree disk project
    · obtain ⟨e, later, run⟩ : ∃ e later, cleanupWorkspace host project audit ⟨disk, records⟩ =
          (.error e, ⟨disk, later⟩) := cleanup_busy matching busy
      rw [cleans_run run]
      exact ⟨fun _ => .inr (or_assoc.mp (.inl busy)), fun _ => intact_refl disk project⟩
    · obtain ⟨working, free⟩ := not_or.mp busy
      rw [Bool.not_eq_true] at working
      rw [not_not] at free
      simp only [matching, ne_eq, not_true_eq_false, working, Bool.false_eq_true, free, false_or]
      rw [← stopped_lockTaken, ← whole_lockTaken]
      by_cases stopped : Stopped host (lockTaken disk project) project
      · obtain ⟨e, after, later, run, intact⟩ :
            ∃ e after later, cleanupWorkspace host project audit ⟨disk, records⟩ =
              (.error e, ⟨after, later⟩) ∧ _ := cleanup_stopped matching working free stopped
        rw [cleans_run run]
        exact intact.trans ⟨fun releases => ⟨releases, .inl stopped⟩, fun both => both.1⟩
      · by_cases whole : Whole host (lockTaken disk project) project audit
        · obtain ⟨outcome, after, later, run, ends⟩ :
              ∃ outcome after later, cleanupWorkspace host project audit ⟨disk, records⟩ =
                (outcome, ⟨after, later⟩) ∧ _ := cleanup_whole matching working free whole
          rw [cleans_run run]
          refine ends.trans ⟨fun both => ⟨both.1, .inr ⟨whole, both.2⟩⟩, fun both => ⟨both.1, ?_⟩⟩
          exact (both.2.resolve_left stopped).2
        · obtain ⟨e, after, run, ruined⟩ :
              ∃ e after, cleanupWorkspace host project audit ⟨disk, records⟩ = (.error e, after) ∧
              _ :=
            cleanup_ruined matching working free whole stopped
          rw [cleans_run run]
          refine ⟨fun intact => absurd intact ruined, fun both => ?_⟩
          exact absurd (both.2.resolve_left stopped).1 whole
  · rw [cleans_run (cleanup_invalid matching _)]
    exact ⟨fun _ => .inl matching, fun _ => intact_refl disk project⟩

theorem whole_within {entries : Entries Name} (whole : Whole host disk project audit)
    (held : Assoc.get (.project project) (disk.top .projects) = some (.directory entries)) :
    nodes entries ≤ host.limits.maxEntries ∧
      Entries.total (fileSize disk) entries ≤ host.limits.maxTotalBytes := by
  obtain ⟨_, _, _, _, empties, _⟩ := whole
  obtain ⟨_, _, ⟨usage, passed⟩, _⟩ := empties entries held
  have measured := usage_measures passed
  exact ⟨measured.1 ▸ measured.2.2.1, measured.2.1 ▸ measured.2.2.2⟩

def sampleManager : ManagerHost where
  limits := ⟨1, 100, 8, by decide, by decide, by decide⟩
  faults _ _ := false
  stagingToken := "s"
  trashToken := "t"
  elapsed := 0
  record _ := .ok ()

def sampleAudit : WorkspaceAuditContext := ⟨.human, "owner", 1, 2⟩

def sampleDesk : Desk where
  disk :=
    { top := fun slot =>
        if slot = .projects then
          [(.project 1, .directory [(.entry [0x61], .link), (.entry [0x62], .link)])]
        else if slot = .gitMetadata then [(.project 1, .directory [])]
        else []
      inodes := fun _ => ⟨.empty, 0o644, 1⟩ }
  records := []

/-- The cleanup of a workspace with one entry too many raises when the workspace is gone. -/
theorem cleanup_uncleaned :
    ∃ e after, cleanupWorkspace sampleManager 1 sampleAudit sampleDesk = (.error e, after) ∧
      ¬ Intact sampleDesk.disk after.disk 1 := by
  have free : LockFree sampleDesk.disk 1 := rfl
  apply cleanup_ruined rfl rfl free
  · intro whole
    have within := (whole_within whole rfl).1
    revert within
    decide
  · rintro (lost | kept | ⟨absent, _⟩)
    · exact lost ⟨⟨rfl, rfl⟩, rfl, rfl, rfl, _, rfl⟩
    · rcases kept with seen | lost | lost | stuck
      · cases seen
      · exact lost ⟨rfl, rfl⟩
      · apply lost
        exact ⟨0, by simp [Visitor.run, Visitor.list, compensationVisitor, sampleManager,
          maxCompensationDepth]⟩
      · cases stuck
    · cases absent

end Theorem

end SynapseOS.Workspaces
