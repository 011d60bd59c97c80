import SynapseOS.Mutations.Failure

/-! A mutation that raises leaves everything as before, unless a call fails after the area was
made and before its handler cleans up, or while the handler or the lock release runs. -/

namespace SynapseOS.Mutations

open Tools Execution Workspaces Program

section Results

def patched (text : PyStr) (replacements : List TextReplacement) : PyStr :=
  replacements.foldl
    (fun current replacement => replaceOnce replacement.oldText replacement.newText current) text

def Mutation.Gives (before result : Option (Option (ByteArray × Nat))) : Mutation → Prop
  | .replace _ content => ∃ original mode data, before = some (some (original, mode)) ∧
      encode content = .ok data ∧ result = some (some (data, mode))
  | .create _ content => ∃ data, before = none ∧ encode content = .ok data ∧
      result = some (some (data, 0o600))
  | .patch _ replacements => ∃ original mode text data, before = some (some (original, mode)) ∧
      decode original = .ok text ∧ encode (patched (.ofString text) replacements) = .ok data ∧
        result = some (some (data, mode))
  | .delete _ => ∃ original mode, before = some (some (original, mode)) ∧ result = none

theorem except_returned {α β : Type} {first : Except Raised α} {rest : α → Except Raised β} {b : β}
    (run : (first >>= rest) = .ok b) : ∃ a, first = .ok a ∧ rest a = .ok b := by
  cases first with
  | error e => cases run
  | ok a => exact ⟨a, rfl, run⟩

theorem encode_input {limits : MutationLimits} {content : PyStr} {data : ByteArray}
    (encoded : encodeInput limits content = .ok data) : encode content = .ok data := by
  obtain ⟨bytes, whole, rest⟩ := except_returned encoded
  split at rest
  · cases rest
  · cases rest
    exact whole

theorem applyReplacements_patched {limits : MutationLimits} {text edited : PyStr}
    {replacements : List TextReplacement}
    (applied : applyReplacements limits text replacements = .ok edited) :
    edited = patched text replacements := by
  induction replacements generalizing text with
  | nil =>
      cases applied
      rfl
  | cons replacement rest ih =>
      unfold applyReplacements at applied
      split at applied
      · cases applied
      · obtain ⟨_, _, oldPassed⟩ := except_returned applied
        split at oldPassed
        · cases oldPassed
        · obtain ⟨_, _, newPassed⟩ := except_returned oldPassed
          split at newPassed
          · cases newPassed
          · exact ih newPassed

theorem creatable_view {disk : Files} {project : UUID} {target : List PyStr}
    {replacement : ByteArray} (creatable : Creatable disk project target replacement) :
    view disk (below project target) = none := by
  unfold view
  cases held : disk.find (below project target) with
  | error error => rfl
  | ok node => exact absurd held (creatable.absent node)

end Results

section Unlocked

variable (host : Host) (project : UUID) (root : RootPath) (disk : Files)

def EndsAs (mutation : Mutation) :
    Option (List PyStr) → Except Raised TransactionalToolOutput × Files → Prop
  | none, ending => ∃ e, ending = (.error e, disk)
  | some target, ending => target = pathParts mutation.relative ∧
      ∃ result, mutation.Gives (view disk (below project target)) result ∧
        EndsFor host disk project mutation target result ending

theorem replaceUnlocked_ends (relative content : PyStr) :
    EndsAs host project disk (.replace relative content)
      (accepted host disk project root (.replace relative content))
      (replaceUnlocked host project root relative content disk) := by
  have whole := still_run (still_readExisting host project root relative) disk
  unfold replaceUnlocked accepted
  rcases outcome : (readExisting host project root relative disk).1
    with e | ⟨original, target, stat⟩
  · rw [outcome] at whole
    simp only [outcome]
    rw [run_error whole]
    exact ⟨e, rfl⟩
  · obtain ⟨asked, inode, readable⟩ := readExisting_returned outcome
    rw [outcome] at whole
    rw [run_ok whole]
    cases encoded : encodeInput host.limits content with
    | error e =>
        simp only [outcome, encoded]
        exact ⟨e, rfl⟩
    | ok replacement =>
        simp only [outcome, encoded]
        refine ⟨asked, _, ?_,
          replaceBytes_ends .write rfl Iff.rfl Iff.rfl readable (decode_input encoded)⟩
        exact ⟨original, stat.mode, replacement, readable_view readable, encode_input encoded, rfl⟩

theorem createUnlocked_ends (relative content : PyStr) :
    EndsAs host project disk (.create relative content)
      (accepted host disk project root (.create relative content))
      (createUnlocked host project root relative content disk) := by
  have whole := still_run (still_resolveNew host project root relative content) disk
  unfold createUnlocked accepted
  rcases outcome : (resolveNew host project root relative content disk).1 with
    e | ⟨target, replacement⟩
  · rw [outcome] at whole
    simp only [outcome]
    rw [run_error whole]
    exact ⟨e, rfl⟩
  · obtain ⟨asked, creatable, encoded⟩ := resolveNew_returned outcome
    rw [outcome] at whole
    simp only [outcome]
    rw [run_ok whole]
    refine ⟨asked, _, ?_, createFile_ends relative content creatable⟩
    exact ⟨replacement, creatable_view creatable, encode_input encoded, rfl⟩

theorem patchUnlocked_ends (relative : PyStr) (replacements : List TextReplacement) :
    EndsAs host project disk (.patch relative replacements)
      (accepted host disk project root (.patch relative replacements))
      (patchUnlocked host project root relative replacements disk) := by
  have whole := still_run (still_readExisting host project root relative) disk
  unfold patchUnlocked accepted
  by_cases counted : replacements.length = 0 ∨ host.limits.maxPatchOperations < replacements.length
  · simp only [if_pos counted]
    exact ⟨_, rfl⟩
  · rw [if_neg counted]
    rcases outcome : (readExisting host project root relative disk).1 with
      e | ⟨original, target, stat⟩
    · rw [outcome] at whole
      simp only [if_neg counted, outcome]
      rw [run_error whole]
      exact ⟨e, rfl⟩
    · obtain ⟨asked, inode, readable⟩ := readExisting_returned outcome
      rw [outcome] at whole
      rw [run_ok whole]
      cases decoded : decode original with
      | error e =>
          simp only [if_neg counted, outcome, decoded]
          exact ⟨_, rfl⟩
      | ok text =>
          cases applied : applyReplacements host.limits (.ofString text) replacements with
          | error e =>
              simp only [if_neg counted, outcome, decoded, applied]
              exact ⟨e, rfl⟩
          | ok current =>
              cases encoded : encodeInput host.limits current with
              | error e =>
                  simp only [if_neg counted, outcome, decoded, applied, encoded,
                    resume_ok_run]
                  exact ⟨e, rfl⟩
              | ok updated =>
                  simp only [if_neg counted, outcome, decoded, applied, encoded,
                    resume_ok_run]
                  split
                  · exact ⟨_, rfl⟩
                  · refine ⟨asked, _, ?_, replaceBytes_ends .patch rfl Iff.rfl Iff.rfl readable
                      (decode_input encoded)⟩
                    have edited := applyReplacements_patched applied
                    subst edited
                    exact ⟨original, stat.mode, text, updated, readable_view readable, decoded,
                      encode_input encoded, rfl⟩

theorem deleteUnlocked_ends (relative : PyStr) :
    EndsAs host project disk (.delete relative)
      (accepted host disk project root (.delete relative))
      (deleteUnlocked host project root relative disk) := by
  have whole := still_run (still_readExisting host project root relative) disk
  unfold deleteUnlocked accepted
  rcases outcome : (readExisting host project root relative disk).1
    with e | ⟨original, target, stat⟩
  · rw [outcome] at whole
    simp only [outcome]
    rw [run_error whole]
    exact ⟨e, rfl⟩
  · obtain ⟨asked, inode, readable⟩ := readExisting_returned outcome
    rw [outcome] at whole
    simp only [outcome]
    rw [run_ok whole]
    refine ⟨asked, none, ?_, deleteFile_ends relative readable⟩
    exact ⟨original, stat.mode, readable_view readable, rfl⟩

theorem unlocked_ends (mutation : Mutation) :
    EndsAs host project disk mutation (accepted host disk project root mutation)
      (unlocked host project root mutation disk) := by
  cases mutation with
  | replace relative content => exact replaceUnlocked_ends host project root disk relative content
  | create relative content => exact createUnlocked_ends host project root disk relative content
  | patch relative replacements =>
      exact patchUnlocked_ends host project root disk relative replacements
  | delete relative => exact deleteUnlocked_ends host project root disk relative

end Unlocked

section Lock

variable {host : Host} {project : UUID} {disk after : Files}

structure Locked (disk locked : Files) (project : UUID) : Prop where
  free : LockFree disk project
  held : locked.top .locks = disk.top .locks ++ [(.project project, .directory [])]
  elsewhere : ∀ slot, slot ≠ .locks → locked.top slot = disk.top slot
  inodes : ∀ inode < disk.fresh, locked.inodes inode = disk.inodes inode

theorem locked_taken (free : LockFree disk project) :
    Locked disk (lockTaken disk project) project where
  free := free
  held := bind_direct free
  elsewhere _ different := Disk.alter_top_other _ _ _ different
  inodes _ _ := rfl

theorem locked_fresh (locked : Locked disk after project) : disk.fresh ≤ after.fresh := by
  apply Disk.fresh_mono
  intro slot
  by_cases same : slot = .locks
  · rw [same, locked.held, Entries.bound_append]
    exact le_max_left _ _
  · rw [locked.elsewhere slot same]

theorem locked_lock (locked : Locked disk after project) :
    Assoc.get (.project project) (after.top .locks) = some (.directory []) := by
  rw [locked.held, Assoc.get_concat _ _ _ _ locked.free, if_pos rfl]

theorem locked_undone {left : Files} (locked : Locked disk after project)
    (undone : Undone after left) : Locked disk left project where
  free := locked.free
  held := by rw [undone.top, locked.held]
  elsewhere slot different := by rw [undone.top, locked.elsewhere slot different]
  inodes inode known := by
    rw [undone.inodes inode (lt_of_lt_of_le known (locked_fresh locked)), locked.inodes inode known]

theorem locked_released (locked : Locked disk after project) :
    Restored disk (after.unbind (projectChild .locks project)) project where
  files place inProjects := by
    have other : Slot.projects ≠ Slot.locks := by decide
    have same : (after.unbind (projectChild .locks project)).top place.slot =
        disk.top place.slot := by
      rw [inProjects, Disk.unbind, projectChild, Disk.alter_top_other _ _ _ other,
        locked.elsewhere _ other]
    unfold view
    rw [Disk.find_congr same]
    rcases held : disk.find place with error | node
    · rfl
    · cases node with
      | file inode =>
          have known := locked.inodes inode (Disk.find_below_fresh _ _ held)
          simp [Entries.shape, Disk.unbind, Disk.alter_inodes, known]
      | link => rfl
      | special => rfl
      | directory entries => rfl
  areas name := by
    have other : Slot.transactions ≠ Slot.locks := by decide
    apply Disk.find_congr
    show (after.unbind _).top .transactions = _
    rw [Disk.unbind, projectChild, Disk.alter_top_other _ _ _ other, locked.elsewhere _ other]
  lock := by
    apply Disk.find_congr
    exact unbind_direct locked.held locked.free

theorem held_unrestored (free : LockFree disk project)
    (held : Assoc.get (.project project) (after.top .locks) = some (.directory [])) :
    ¬ Restored disk after project := by
  intro restored
  have same := restored.lock
  rw [projectChild, find_direct held] at same
  obtain ⟨_, entered, there⟩ := (Disk.find_eq _ _ _).mp same.symm
  cases entered
  rw [show Assoc.get (Name.project project) (disk.top .locks) = none from free] at there
  cases there

theorem spoiled_unrestored {left : Files} {area : Name} (locked : Locked disk after project)
    (spoiled : Spoiled after left area) :
    ¬ Restored disk (left.unbind (projectChild .locks project)) project := by
  intro restored
  rcases spoiled.left with ⟨absent, there⟩ | ⟨place, inProjects, absent, node, there⟩
  · have other : Slot.transactions ≠ Slot.locks := by decide
    obtain ⟨node, there⟩ := Option.isSome_iff_exists.mp there
    have same := restored.areas area
    rw [Disk.find_unbind_other _ _ other, find_direct there] at same
    obtain ⟨_, entered, held⟩ := (Disk.find_eq _ _ _).mp same.symm
    cases entered
    rw [locked.elsewhere _ other] at absent
    rw [absent] at held
    cases held
  · have other : place.slot ≠ Slot.locks := by
      rw [inProjects]
      decide
    have same := restored.files place inProjects
    have before : disk.find place = after.find place :=
      Disk.find_congr (locked.elsewhere _ other).symm
    have found : (left.unbind (projectChild .locks project)).find place = .ok node :=
      (Disk.find_unbind_other _ _ other).trans there
    have gone : view disk place = none := by
      unfold view
      rw [before]
      cases held : after.find place with
      | error error => rfl
      | ok node => exact absurd held (absent node)
    rw [gone] at same
    have seen : (view (left.unbind (projectChild .locks project)) place).isSome := by
      unfold view
      rw [found]
      cases node <;> rfl
    rw [same] at seen
    cases seen

end Lock

section Theorem

variable (host : Host) (disk : Files) (project : UUID) (root : RootPath) (mutation : Mutation)

/-- The operation is refused its lock; or it returns; or it raises before its area is made, or at
the change of its target with a clean-up that works, and it can release its lock. -/
def Recoverable : Prop :=
  host.faults .acquireLock .mkdir = true ∨ ¬ LockFree disk project ∨
    match accepted host (lockTaken disk project) project root mutation with
    | none => Releases (host.faults .releaseLock)
    | some target =>
        Completes host (lockTaken disk project) project mutation target ∨
          Releases (host.faults .releaseLock) ∧
            Undoes host (lockTaken disk project) project mutation target

variable {host disk project} {root mutation}

theorem mutate_refused (refused : host.faults .acquireLock .mkdir = true ∨
    ¬ LockFree disk project) :
    mutate host project root mutation disk = (.error mutationFailed, disk) := by
  obtain ⟨code, message, busy⟩ := acquireLock_refused refused
  exact run_error (orWorkspace_error busy)

section Locked

variable {e : Raised} {left : Files} {operation : Program Files Raised TransactionalToolOutput}
  (working : host.faults .acquireLock .mkdir = false) (free : LockFree disk project)

include working free

theorem locked_refusedRelease (run : operation (lockTaken disk project) = (.error e, left))
    (held : Assoc.get (.project project) (left.top .locks) = some (.directory []))
    (failing : ¬ Releases (host.faults .releaseLock)) :
    locked host project operation disk = (.error compensationFailed, left) := by
  unfold locked
  rw [run_ok (orWorkspace_ok (acquireLock_ok working free)), run_attempt run]
  exact run_error (orWorkspace_error (releaseLock_fault held failing))

theorem locked_release (run : operation (lockTaken disk project) = (.error e, left))
    (held : Assoc.get (.project project) (left.top .locks) = some (.directory []))
    (releases : Releases (host.faults .releaseLock)) :
    locked host project operation disk =
      (.error e, left.unbind (projectChild .locks project)) := by
  unfold locked
  rw [run_ok (orWorkspace_ok (acquireLock_ok working free)), run_attempt run]
  exact run_ok (orWorkspace_ok (releaseLock_ok held releases))

theorem locked_returns {output : TransactionalToolOutput}
    (run : operation (lockTaken disk project) = (.ok output, left)) :
    locked host project operation disk = (.ok output, left) := by
  unfold locked
  rw [run_ok (orWorkspace_ok (acquireLock_ok working free)), run_attempt run]
  rfl

end Locked

def Recovers (host : Host) (disk : Files) (project : UUID) (root : RootPath) (mutation : Mutation) :
    Prop :=
  ∀ e after, mutate host project root mutation disk = (.error e, after) →
    Restored disk after project

theorem recovers_raised {e : Raised} {after : Files}
    (run : mutate host project root mutation disk = (.error e, after)) :
    Recovers host disk project root mutation ↔ Restored disk after project := by
  constructor
  · intro recovers
    exact recovers e after run
  · intro restored raised left other
    rw [run] at other
    cases other
    exact restored

theorem recovers_returned {output : TransactionalToolOutput} {after : Files}
    (run : mutate host project root mutation disk = (.ok output, after)) :
    Recovers host disk project root mutation := by
  intro raised left other
  rw [run] at other
  cases other

theorem restored_refl (disk : Files) (project : UUID) : Restored disk disk project :=
  ⟨fun _ _ => rfl, fun _ => rfl, rfl⟩

/-- An operation that raises leaves every file, every area and the lock as before, exactly when it
is recoverable. -/
theorem mutation_recovers (host : Host) (disk : Files) (project : UUID) (root : RootPath)
    (mutation : Mutation) :
    Recovers host disk project root mutation ↔ Recoverable host disk project root mutation := by
  by_cases refused : host.faults .acquireLock .mkdir = true ∨ ¬ LockFree disk project
  · rw [recovers_raised (mutate_refused refused)]
    exact ⟨fun _ => or_assoc.mp (.inl refused), fun _ => restored_refl disk project⟩
  · obtain ⟨working, free⟩ := not_or.mp refused
    rw [Bool.not_eq_true] at working
    rw [not_not] at free
    have locked := locked_taken free
    have ends := unlocked_ends host project root (lockTaken disk project) mutation
    unfold Recoverable
    rw [working]
    simp only [Bool.false_eq_true, free, not_true_eq_false, false_or]
    rcases run : unlocked host project root mutation (lockTaken disk project) with ⟨result, left⟩
    rw [run] at ends
    cases chosen : accepted host (lockTaken disk project) project root mutation with
    | none =>
        rw [chosen] at ends
        obtain ⟨e, same⟩ := ends
        cases same
        by_cases releases : Releases (host.faults .releaseLock)
        · rw [recovers_raised (locked_release working free run (locked_lock locked) releases)]
          exact ⟨fun _ => releases, fun _ => locked_released locked⟩
        · rw [recovers_raised
            (locked_refusedRelease working free run (locked_lock locked) releases)]
          exact ⟨fun restored => absurd restored (held_unrestored free (locked_lock locked)),
            fun released => absurd released releases⟩
    | some target =>
        rw [chosen] at ends
        obtain ⟨_, result, _, ends⟩ := ends
        cases ends with
        | returned output after completes kept =>
            exact ⟨fun _ => .inl completes,
              fun _ => recovers_returned (locked_returns working free run)⟩
        | undone e after missed undoes undone =>
            have clean := locked_undone locked undone
            by_cases releases : Releases (host.faults .releaseLock)
            · rw [recovers_raised (locked_release working free run (locked_lock clean) releases)]
              exact ⟨fun _ => .inr ⟨releases, undoes⟩, fun _ => locked_released clean⟩
            · rw [recovers_raised
                (locked_refusedRelease working free run (locked_lock clean) releases)]
              constructor
              · intro restored
                exact absurd restored (held_unrestored free (locked_lock clean))
              · rintro (completes | ⟨released, _⟩)
                · exact absurd completes missed
                · exact absurd released releases
        | spoiled e after missed kept spoiled =>
            have held : Assoc.get (.project project) (left.top .locks) = some (.directory []) := by
              rw [spoiled.locks]
              exact locked_lock locked
            have unrecovered : ¬ Recovers host disk project root mutation := by
              by_cases releases : Releases (host.faults .releaseLock)
              · rw [recovers_raised (locked_release working free run held releases)]
                exact spoiled_unrestored locked spoiled
              · rw [recovers_raised (locked_refusedRelease working free run held releases)]
                exact held_unrestored free held
            constructor
            · intro recovers
              exact absurd recovers unrecovered
            · rintro (completes | ⟨_, undoes⟩)
              · exact absurd completes missed
              · exact absurd undoes kept

def sampleLimits : MutationLimits :=
  ⟨100, 100, 4, 100, 100, by decide, by decide, by decide, by decide, by decide⟩

def sampleHost (site : Site) (call : SystemCall) : Host where
  limits := sampleLimits
  faults where_ made := decide (where_ = site ∧ made = call)
  areaToken := "a"
  token _ turn := "t" ++ toString turn
  sha256 _ := ""
  unifiedDiff _ _ := []

def sampleDisk : Files where
  top slot :=
    if slot = .projects then [(.project 1, .directory [(.entry (.ofString "old"), .file 0)])]
    else []
  inodes _ := ⟨.empty, 0o644, 1⟩

/-- When the `unlink` after the link fails, `create` raises and leaves the new file. -/
theorem mutation_unrecovered :
    ∃ e after, mutate (sampleHost .linked .unlink) 1 (.project 1)
        (.create (.ofString "new") (.ofString "x")) sampleDisk = (.error e, after) ∧
      view sampleDisk (below 1 [.ofString "new"]) = none ∧
      view after (below 1 [.ofString "new"]) = some (some ("x".toUTF8, 0o600)) ∧
      ¬ Restored sampleDisk after 1 := by
  refine ⟨_, _, rfl, rfl, rfl, ?_⟩
  intro restored
  have same := restored.files (below 1 [.ofString "new"]) rfl
  cases same

end Theorem

end SynapseOS.Mutations
