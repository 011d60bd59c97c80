import SynapseOS.Workspaces.Paths

/-! What the calls of the filesystem boundary do to a disk. -/

namespace SynapseOS.Workspaces

open Tools Execution Program

variable {disk : Files} {project : UUID}

theorem still_requireDirectDirectory (faults : Faults) (target : Place Slot Name) (slot : Slot) :
    Still (requireDirectDirectory faults target slot) := by
  unfold requireDirectDirectory
  apply still_ite
  · exact still_raise _
  · apply still_bind (still_orRaise (still_ask _ _) _)
    intro node
    apply still_bind (still_orRaise (still_ask _ _) _)
    intro _
    cases node with
    | directory entries => exact still_pure _
    | file inode => exact still_raise _
    | link => exact still_raise _
    | special => exact still_raise _

theorem requireDirectDirectory_ok {faults : Faults} {target : Place Slot Name}
    {entries : Entries Name} (direct : target.path = [])
    (held : disk.find target = .ok (.directory entries)) (seen : faults .lstat = false)
    (resolved : faults .resolve = false) :
    requireDirectDirectory faults target target.slot disk = (.ok target, disk) := by
  have strict : strictly target disk = .ok () := by
    unfold strictly
    rw [held]
    rfl
  unfold requireDirectDirectory
  rw [if_neg (by simp [direct]), seen, resolved, run_ok (orRaise_ok (ask_ok held)),
    run_ok (orRaise_ok (ask_ok strict))]
  rfl

theorem requireDirectDirectory_fault {faults : Faults} {target : Place Slot Name}
    (failing : faults .lstat = true ∨ faults .resolve = true) (slot : Slot) :
    requireDirectDirectory faults target slot disk = (.error unsafe_, disk) := by
  unfold requireDirectDirectory
  split
  · rfl
  · cases seen : faults .lstat with
    | true => rw [run_error (orRaise_error (ask_fault _))]
    | false =>
        have resolved : faults .resolve = true := by
          rcases failing with lost | lost
          · rw [seen] at lost
            cases lost
          · exact lost
        rw [resolved]
        cases held : disk.find target with
        | error error => rw [run_error (orRaise_error (ask_error held))]
        | ok node =>
            rw [run_ok (orRaise_ok (ask_ok held)), run_error (orRaise_error (ask_fault _))]

theorem requireDirectDirectory_returned {faults : Faults} {target found : Place Slot Name}
    {slot : Slot} {after : Files}
    (run : requireDirectDirectory faults target slot disk = (.ok found, after)) :
    disk = after ∧ found = target ∧ target.slot = slot ∧ target.path = [] ∧
      ∃ entries, disk.find target = .ok (.directory entries) := by
  unfold requireDirectDirectory at run
  split at run
  · cases run
  · next direct =>
      obtain ⟨node, first, seen, rest⟩ := run_returned run
      obtain ⟨_, held, rfl⟩ := ask_returned (orRaise_returned seen)
      obtain ⟨_, second, resolved, last⟩ := run_returned rest
      obtain ⟨_, _, rfl⟩ := ask_returned (orRaise_returned resolved)
      simp only [not_or, not_not] at direct
      cases node with
      | directory entries =>
          cases last
          exact ⟨rfl, rfl, direct.1, direct.2, entries, held⟩
      | file inode => cases last
      | link => cases last
      | special => cases last

section Direct

variable {slot : Slot} {name : Name} {node : Node Name}

theorem find_direct (held : Assoc.get name (disk.top slot) = some node) :
    disk.find ⟨slot, [], name⟩ = .ok node :=
  (Disk.find_eq _ _ _).mpr ⟨_, rfl, held⟩

theorem mkdir_direct (free : Assoc.get name (disk.top slot) = none) :
    disk.mkdir ⟨slot, [], name⟩ = .ok (disk.bind ⟨slot, [], name⟩ (.directory [])) := by
  simp [Disk.mkdir, Disk.vacant, Entries.enter, bind, Except.bind, free]

theorem mkdir_taken (taken : (Assoc.get name (disk.top slot)).isSome) :
    disk.mkdir ⟨slot, [], name⟩ = .error .exists_ := by
  obtain ⟨held, taken⟩ := Option.isSome_iff_exists.mp taken
  simp [Disk.mkdir, Disk.vacant, Entries.enter, bind, Except.bind, taken]

theorem rmdir_direct (held : Assoc.get name (disk.top slot) = some (.directory [])) :
    disk.rmdir ⟨slot, [], name⟩ = .ok (disk.unbind ⟨slot, [], name⟩) := by
  simp [Disk.rmdir, find_direct held, bind, Except.bind]

theorem bind_direct (free : Assoc.get name (disk.top slot) = none) :
    (disk.bind ⟨slot, [], name⟩ node).top slot = disk.top slot ++ [(name, node)] := by
  rw [Disk.bind, Disk.alter_top_self]
  exact Assoc.set_fresh name node _ free

theorem unbind_direct {entries : Entries Name} (held : disk.top slot = entries ++ [(name, node)])
    (free : Assoc.get name entries = none) :
    (disk.unbind ⟨slot, [], name⟩).top slot = entries := by
  rw [Disk.unbind, Disk.alter_top_self]
  show Assoc.erase name (disk.top slot) = entries
  rw [held, Assoc.erase_concat name node entries free]

end Direct

section Lock

def LockFree (disk : Files) (project : UUID) : Prop :=
  Assoc.get (.project project) (disk.top .locks) = none

instance : Decidable (LockFree disk project) :=
  inferInstanceAs (Decidable (Assoc.get (.project project) (disk.top .locks) = none))

def lockTaken (disk : Files) (project : UUID) : Files :=
  disk.bind (projectChild .locks project) (.directory [])

variable {faults : Faults}

theorem acquireLock_ok (working : faults .mkdir = false) (free : LockFree disk project) :
    acquireLock faults project disk = (.ok (), lockTaken disk project) := by
  unfold acquireLock
  rw [working, run_attempt (change_ok (mkdir_direct free))]
  rfl

theorem acquireLock_refused (refused : faults .mkdir = true ∨ ¬ LockFree disk project) :
    ∃ code message, acquireLock faults project disk = (.error (.workspace code message), disk) := by
  unfold acquireLock
  cases working : faults .mkdir with
  | true =>
      rw [run_attempt (change_fault _)]
      exact ⟨_, _, rfl⟩
  | false =>
      have taken : (Assoc.get (.project project) (disk.top .locks)).isSome := by
        rcases refused with lost | taken
        · rw [working] at lost
          cases lost
        · exact Option.isSome_iff_ne_none.mpr taken
      rw [run_attempt (change_error (mkdir_taken taken))]
      exact ⟨_, _, rfl⟩

def Releases (faults : Faults) : Prop :=
  faults .lstat = false ∧ faults .resolve = false ∧ faults .rmdir = false

variable (held : Assoc.get (.project project) (disk.top .locks) = some (.directory []))

include held

theorem releaseLock_ok (working : Releases faults) :
    releaseLock faults project disk = (.ok (), disk.unbind (projectChild .locks project)) := by
  obtain ⟨seen, resolved, removed⟩ := working
  have found := find_direct held
  have direct : requireDirectDirectory faults (projectChild .locks project) .locks disk =
      (.ok (projectChild .locks project), disk) :=
    requireDirectDirectory_ok rfl found seen resolved
  unfold releaseLock
  rw [run_ok direct, removed]
  exact orRaise_ok (change_ok (rmdir_direct held))

theorem releaseLock_fault (failing : ¬ Releases faults) :
    releaseLock faults project disk = (.error unsafe_, disk) := by
  have found := find_direct held
  unfold releaseLock
  by_cases direct : faults .lstat = true ∨ faults .resolve = true
  · rw [run_error (requireDirectDirectory_fault direct .locks)]
  · simp only [not_or, Bool.not_eq_true] at direct
    have removed : faults .rmdir = true := by
      by_contra working
      exact failing ⟨direct.1, direct.2, Bool.eq_false_iff.mpr working⟩
    have there : requireDirectDirectory faults (projectChild .locks project) .locks disk =
        (.ok (projectChild .locks project), disk) :=
      requireDirectDirectory_ok rfl found direct.1 direct.2
    rw [run_ok there, removed]
    exact orRaise_error (change_fault _)

end Lock

section Area

variable {token : String}

def Opens (faults : Faults) (slot : Slot) (disk : Files) (project : UUID) (token : String) : Prop :=
  faults .mkdir = false ∧ Assoc.get (.operation project token) (disk.top slot) = none

variable {faults : Faults} {slot : Slot}

theorem createOperationDirectory_refused (refused : ¬ Opens faults slot disk project token) :
    createOperationDirectory faults slot project token disk = (.error unsafe_, disk) := by
  unfold createOperationDirectory
  cases working : faults .mkdir with
  | true => exact orRaise_error (run_error (change_fault _))
  | false =>
      have taken : (Assoc.get (.operation project token) (disk.top slot)).isSome := by
        rw [Option.isSome_iff_ne_none]
        exact fun free => refused ⟨working, free⟩
      exact orRaise_error (run_error (change_error (mkdir_taken taken)))

theorem createOperationDirectory_made (opens : Opens faults slot disk project token) :
    createOperationDirectory faults slot project token disk =
      (if faults .resolve = true then .error unsafe_
        else .ok (operationDirectory slot project token),
        disk.bind (operationDirectory slot project token) (.directory [])) := by
  obtain ⟨working, free⟩ := opens
  have made : change false (fun disk => disk.mkdir (operationDirectory slot project token)) disk =
      (.ok (), disk.bind (operationDirectory slot project token) (.directory [])) :=
    change_ok (mkdir_direct free)
  unfold createOperationDirectory
  rw [working]
  cases resolved : faults .resolve with
  | true => exact orRaise_error ((run_ok made).trans (run_error (ask_fault _)))
  | false =>
      have found : strictly (operationDirectory slot project token)
          (disk.bind (operationDirectory slot project token) (.directory [])) = .ok () := by
        have there : (disk.bind ⟨slot, [], .operation project token⟩ (.directory [])).top slot =
            disk.top slot ++ [(.operation project token, .directory [])] := bind_direct free
        have held := Assoc.get_concat (Name.operation project token) (.operation project token)
          (Node.directory []) _ free
        rw [if_pos rfl, ← there] at held
        unfold strictly
        rw [operationDirectory, find_direct held]
        rfl
      exact orRaise_ok ((run_ok made).trans ((run_ok (ask_ok found)).trans rfl))

end Area

section Removal

variable {faults : TreeFaults} {place : Place Slot Name}

def Removes (faults : TreeFaults) : Prop :=
  faults [] .lstat = false ∧ faults [] .resolve = false ∧ faults [] .scandir = false ∧
    faults [] .rmdir = false

theorem removeAt_empty (limit : Nat) (held : disk.find place = .ok (.directory []))
    (listed : faults [] .scandir = false) (removed : faults [] .rmdir = false) :
    removeAt faults limit place disk = (.ok (), disk.unbind place) := by
  simp [removeAt, held, removeTree, removeEntries, listed, removed]

theorem removeAt_fault (limit : Nat) (held : disk.find place = .ok (.directory []))
    (failing : faults [] .scandir = true ∨ faults [] .rmdir = true) :
    removeAt faults limit place disk =
      (.error (.os .fault), disk.bind place (.directory [])) := by
  cases listed : faults [] .scandir with
  | true => simp [removeAt, held, removeTree, listed]
  | false =>
      have removed : faults [] .rmdir = true := by
        rcases failing with lost | removed
        · rw [listed] at lost
          cases lost
        · exact removed
      simp [removeAt, held, removeTree, removeEntries, listed, removed]

variable {token : String}
  (held : Assoc.get (.operation project token) (disk.top .transactions) = some (.directory []))

include held

theorem removeTransactionArea_ok (working : Removes faults) :
    removeTransactionArea faults project (operationDirectory .transactions project token) disk =
      (.ok (), disk.unbind (operationDirectory .transactions project token)) := by
  obtain ⟨seen, resolved, listed, removed⟩ := working
  have found := find_direct held
  have direct : requireDirectDirectory (faults [])
      (operationDirectory .transactions project token) .transactions disk =
        (.ok (operationDirectory .transactions project token), disk) :=
    requireDirectDirectory_ok rfl found seen resolved
  have owned : requireOperationDirectory (faults [])
      (operationDirectory .transactions project token) .transactions project disk =
        (.ok (operationDirectory .transactions project token), disk) := by
    unfold requireOperationDirectory
    rw [run_ok direct]
    simp [operationDirectory]
  unfold removeTransactionArea
  rw [run_ok owned]
  exact orRaise_ok (removeAt_empty 2 found listed removed)

theorem removeTransactionArea_fault (failing : ¬ Removes faults) :
    ∃ code message after,
      removeTransactionArea faults project (operationDirectory .transactions project token) disk =
        (.error (.workspace code message), after) ∧
      Assoc.get (.operation project token) (after.top .transactions) = some (.directory []) ∧
      ∀ slot, slot ≠ .transactions → after.top slot = disk.top slot := by
  have found := find_direct held
  unfold removeTransactionArea requireOperationDirectory
  by_cases direct : faults [] .lstat = true ∨ faults [] .resolve = true
  · rw [run_error (run_error (requireDirectDirectory_fault direct .transactions))]
    exact ⟨_, _, disk, rfl, held, fun _ _ => rfl⟩
  · simp only [not_or, Bool.not_eq_true] at direct
    have there : requireDirectDirectory (faults [])
        (operationDirectory .transactions project token) .transactions disk =
          (.ok (operationDirectory .transactions project token), disk) :=
      requireDirectDirectory_ok rfl found direct.1 direct.2
    have lost : faults [] .scandir = true ∨ faults [] .rmdir = true := by
      by_contra working
      simp only [not_or, Bool.not_eq_true] at working
      exact failing ⟨direct.1, direct.2, working.1, working.2⟩
    have owned : requireOperationDirectory (faults [])
        (operationDirectory .transactions project token) .transactions project disk =
          (.ok (operationDirectory .transactions project token), disk) := by
      unfold requireOperationDirectory
      rw [run_ok there]
      simp [operationDirectory]
    have stays := orRaise_error (e := cleanupFailed) (removeAt_fault 2 found lost)
    refine ⟨_, _, _, (run_ok owned).trans stays, ?_, ?_⟩
    · have top := Disk.alter_top_self disk Slot.transactions []
        (Assoc.set (Name.operation project token) (Node.directory []))
      exact (congrArg (Assoc.get _) top).trans ((Assoc.get_set _ _ _ _).trans (if_pos rfl))
    · intro slot different
      exact Disk.alter_top_other _ _ _ different

end Removal

def Confined {α : Type} (slot : Slot) (body : Program Files Raised α) : Prop :=
  ∀ disk other, other ≠ slot → (body disk).2.top other = disk.top other

section Confined

variable {α β : Type} {slot : Slot} {body : Program Files Raised α}

def Outside (slot : Slot) (before after : Files) : Prop :=
  ∀ other, other ≠ slot → after.top other = before.top other

theorem outside_refl (disk : Files) : Outside slot disk disk := fun _ _ => rfl

theorem outside_trans (before middle after : Files) (first : Outside slot before middle)
    (second : Outside slot middle after) : Outside slot before after := by
  intro other different
  rw [second other different, first other different]

theorem confined_still (still : Still body) : Confined slot body :=
  keeps_still outside_refl still

theorem confined_bind {rest : α → Program Files Raised β} (first : Confined slot body)
    (next : ∀ a, Confined slot (rest a)) : Confined slot (body >>= rest) :=
  keeps_bind outside_trans first next

theorem confined_attempt (first : Confined slot body) : Confined slot (attempt body) := first

theorem confined_orRaise (first : Confined slot body) (e : Raised) :
    Confined slot (orRaise body e) :=
  keeps_orRaise outside_refl outside_trans first e

theorem counted_top (nodes : List (Option (Node Name))) (disk : Files) :
    (nodes.foldl Disk.unlinked disk).top = disk.top := by
  induction nodes generalizing disk with
  | nil => rfl
  | cons node rest ih => rw [List.foldl_cons, ih, Disk.unlinked_top]

theorem confined_removeAt (faults : TreeFaults) (limit : Nat) (place : Place Slot Name) :
    Confined place.slot (removeAt faults limit place) := by
  intro disk other different
  unfold removeAt
  split
  · rfl
  · dsimp only
    split
    · rw [Disk.unbind, Disk.alter_top_other _ _ _ different, counted_top]
    · rw [Disk.bind, Disk.alter_top_other _ _ _ different, counted_top]
  · rfl

theorem confined_releaseLock (faults : Faults) (project : UUID) :
    Confined .locks (releaseLock faults project) := by
  have removes : ∀ target : Place Slot Name, target.slot = .locks → Confined .locks
      (orRaise (change (faults .rmdir) fun disk => disk.rmdir target) unsafe_) := by
    intro target direct
    apply confined_orRaise
    intro disk other different
    unfold change
    split
    · rfl
    · split
      · next after removed =>
          rw [Disk.rmdir_returned removed]
          exact Disk.alter_top_other _ _ _ (direct ▸ different)
      · rfl
  intro disk other different
  have still := still_requireDirectDirectory faults (projectChild .locks project) .locks disk
  unfold releaseLock
  rcases run : requireDirectDirectory faults (projectChild .locks project) .locks disk with
    ⟨e | found, seen⟩
  · rw [run] at still
    rw [run_error run, still]
  · obtain ⟨rfl, rfl, _⟩ := requireDirectDirectory_returned run
    rw [run_ok run]
    exact removes _ rfl disk other different

end Confined

end SynapseOS.Workspaces
