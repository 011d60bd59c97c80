import SynapseOS.Mutations.Recovery

/-! A returned transaction settles once: a commit keeps the result, a rollback brings the original
back, and until then the project is locked. -/

namespace SynapseOS.Mutations

open Tools Execution Workspaces Program

/-- The target shows the result, and everything else is as it was before the operation. -/
structure Settled (before after : Files) (project : UUID) (target : Place Slot Name)
    (result : Option (Option (ByteArray × Nat))) : Prop where
  shows : view after target = result
  others : ∀ place, place.slot = .projects → place ≠ target → view after place = view before place
  elsewhere : ∀ slot, slot ≠ .projects → after.top slot = before.top slot
  free : LockFree after project

def calm : FinishSite → Faults := fun _ _ => false

section Closing

theorem onDisk_ok {α : Type} {body : Program Files Raised α} {a : α} {disk after : Files}
    (transaction : LocalMutationTransaction) (run : body disk = (.ok a, after)) :
    onDisk body ⟨disk, transaction⟩ = (.ok a, ⟨after, transaction⟩) := by
  unfold onDisk within
  simp [run]

theorem noted_ok {body : Program Held Raised Unit} {held left : Held} (catches : Raised → Bool)
    (run : body held = (.ok (), left)) : noted body catches held = (.ok false, left) := by
  unfold noted
  rw [run_attempt run]
  rfl

variable {disk before after : Files} {project : UUID} {token : String}

theorem unlinkMissingOk_found {place : Place Slot Name} {inode : Nat}
    (found : after.find place = .ok (.file inode)) :
    unlinkMissingOk false place after =
      (.ok (), (after.unbind place).touch inode fun held =>
        { held with links := held.links - 1 }) := by
  unfold unlinkMissingOk
  rw [run_attempt (change_ok (Disk.unlink_ok found))]
  rfl

structure Emptied (disk after : Files) (project : UUID) (token : String) : Prop where
  fresh : Assoc.get (.operation project token) (disk.top .transactions) = none
  area : after.top .transactions =
    disk.top .transactions ++ [(.operation project token, .directory [])]
  free : LockFree disk project
  lock : after.top .locks = disk.top .locks ++ [(.project project, .directory [])]

def closed (after : Files) (project : UUID) (token : String) : Files :=
  (after.unbind (operationDirectory .transactions project token)).unbind
    (projectChild .locks project)

theorem closed_other {slot : Slot} (areas : slot ≠ .transactions) (locks : slot ≠ .locks) :
    (closed after project token).top slot = after.top slot := by
  rw [closed, Disk.unbind, projectChild, Disk.alter_top_other _ _ _ locks, Disk.unbind,
    operationDirectory, Disk.alter_top_other _ _ _ areas]

theorem closed_areas (emptied : Emptied disk after project token) :
    (closed after project token).top .transactions = disk.top .transactions := by
  have other : Slot.transactions ≠ Slot.locks := by decide
  rw [closed, Disk.unbind, projectChild, Disk.alter_top_other _ _ _ other]
  exact unbind_direct emptied.area emptied.fresh

theorem closed_locks (emptied : Emptied disk after project token) :
    (closed after project token).top .locks = disk.top .locks := by
  have other : Slot.locks ≠ Slot.transactions := by decide
  have held : (after.unbind (operationDirectory .transactions project token)).top .locks =
      disk.top .locks ++ [(.project project, .directory [])] := by
    rw [Disk.unbind, operationDirectory, Disk.alter_top_other _ _ _ other, emptied.lock]
  exact unbind_direct held emptied.free

theorem settle_closes {body : LocalMutationTransaction → Program Files Raised Unit}
    {transaction : LocalMutationTransaction} (unfinished : transaction.finished = false)
    (area : transaction.area = operationDirectory .transactions transaction.project token)
    (run : body transaction before = (.ok (), after))
    (emptied : Emptied disk after transaction.project token) :
    settle calm body ⟨before, transaction⟩ =
      (.ok (),
        ⟨closed after transaction.project token, { transaction with finished := true }⟩) := by
  have there : Assoc.get (.operation transaction.project token) (after.top .transactions) =
      some (.directory []) := by
    rw [emptied.area, Assoc.get_concat _ _ _ _ emptied.fresh, if_pos rfl]
  have removes : removeTransactionArea (fun path => calm (.area path)) transaction.project
      transaction.area after =
        (.ok (), after.unbind (operationDirectory .transactions transaction.project token)) := by
    rw [area]
    exact removeTransactionArea_ok there ⟨rfl, rfl, rfl, rfl⟩
  have other : Slot.locks ≠ Slot.transactions := by decide
  have held : Assoc.get (.project transaction.project)
      ((after.unbind (operationDirectory .transactions transaction.project token)).top .locks) =
        some (.directory []) := by
    rw [Disk.unbind, operationDirectory, Disk.alter_top_other _ _ _ other, emptied.lock,
      Assoc.get_concat _ _ _ _ emptied.free, if_pos rfl]
  have releases : releaseLock (calm .lock) transaction.project
      (after.unbind (operationDirectory .transactions transaction.project token)) =
        (.ok (), closed after transaction.project token) :=
    releaseLock_ok held ⟨rfl, rfl, rfl⟩
  unfold settle
  rw [look_run]
  dsimp only
  rw [unfinished, if_neg Bool.false_ne_true,
    run_ok (noted_ok _ (onDisk_ok _ ((run_ok run).trans removes))),
    run_ok (noted_ok _ (onDisk_ok _ releases)), update_run, if_neg (by simp)]
  rfl

theorem closed_settled {target : Place Slot Name} {g : Entries Name → Entries Name}
    (locked : Locked disk before project) (emptied : Emptied disk after project token)
    (inProjects : target.slot = .projects)
    (projects : after.top .projects = Entries.alter g target.path (before.top .projects))
    (elsewhere : ∀ slot, slot ≠ .transactions → slot ≠ .projects →
      after.top slot = before.top slot)
    (only : Entries.OnlyAt target.name g)
    (entered : ∃ inner, Entries.enter target.path (before.top .projects) = .ok inner ∧
      ∀ below_, Assoc.get target.name inner ≠ some (.directory below_))
    (inodes : ∀ inode < before.fresh,
      (after.inodes inode).content = (before.inodes inode).content ∧
        (after.inodes inode).mode = (before.inodes inode).mode) :
    Settled disk (closed after project token) project target (view after target) where
  shows := by
    have same : (closed after project token).find target = after.find target := by
      apply Disk.find_congr
      rw [inProjects]
      exact closed_other (by decide) (by decide)
    unfold view
    rw [same]
    rfl
  others place there different := by
    have base : before.top .projects = disk.top .projects := locked.elsewhere _ (by decide)
    have kept : (closed after project token).top .projects = after.top .projects :=
      closed_other (by decide) (by decide)
    obtain ⟨inner, entered, leaf⟩ := entered
    have apart : ¬ (place.path = target.path ∧ place.name = target.name) := by
      rintro ⟨path, name⟩
      apply different
      cases place
      cases target
      simp_all
    have same := Entries.shape_alter only entered leaf apart
    rw [← projects, base, ← kept] at same
    have shown : Entries.shape ((closed after project token).find place) =
        Entries.shape (disk.find place) := by
      unfold Disk.find
      rw [there, same]
    unfold view
    rw [shown]
    cases seen : Entries.shape (disk.find place) with
    | none => rfl
    | some held =>
        cases held with
        | none => rfl
        | some inode =>
            have found : disk.find place = .ok (.file inode) := by
              cases held : disk.find place with
              | error error =>
                  rw [held] at seen
                  cases seen
              | ok node =>
                  rw [held] at seen
                  cases node <;> cases seen
                  rfl
            have known := Disk.find_below_fresh _ _ found
            have later := inodes inode (lt_of_lt_of_le known (locked_fresh locked))
            have first := locked.inodes inode known
            show some (some ((after.inodes inode).content, (after.inodes inode).mode)) = _
            rw [later.1, later.2, first]
            rfl
  elsewhere slot different := by
    by_cases areas : slot = .transactions
    · subst areas
      exact closed_areas emptied
    · by_cases locks : slot = .locks
      · subst locks
        exact closed_locks emptied
      · rw [closed_other areas locks, elsewhere slot areas different,
          locked.elsewhere slot locks]
  free := by
    have free := emptied.free
    unfold LockFree at free ⊢
    rw [closed_locks emptied, free]

end Closing

section Finish

variable {disk before after : Files} {transaction : LocalMutationTransaction} {token : String}
  {entries : Entries Name} {f : Entries Name → Entries Name}

theorem pending_emptied {left : Files} (locked : Locked disk before transaction.project)
    (pending : Pending before after transaction token entries f)
    (area : left.top .transactions = before.top .transactions ++
      [(.operation transaction.project token, .directory [])])
    (locks : left.top .locks = after.top .locks) :
    Emptied disk left transaction.project token where
  fresh := by
    rw [← locked.elsewhere .transactions (by decide)]
    exact pending.fresh
  area := by rw [area, locked.elsewhere .transactions (by decide)]
  free := locked.free
  lock := by rw [locks, pending.elsewhere .locks (by decide) (by decide), locked.held]

section Backup

variable {name : Name} {backup : Nat}
  (pending : Pending before after transaction token [(name, .file backup)] f)

include pending

theorem backup_find : after.find ⟨.transactions, [.operation transaction.project token], name⟩ =
    .ok (.file backup) := by
  refine (Disk.find_eq _ _ _).mpr ⟨[(name, .file backup)], ?_, ?_⟩
  · rw [pending.areas, Entries.enter_last pending.fresh]
  · rw [Assoc.get, if_pos rfl]

theorem backup_gone :
    (after.unbind ⟨.transactions, [.operation transaction.project token], name⟩).top .transactions =
      before.top .transactions ++ [(.operation transaction.project token, .directory [])] := by
  rw [Disk.unbind, Disk.alter_top_self, pending.areas, Entries.alter_last _ pending.fresh]
  simp [Assoc.erase]

theorem backup_unlinked : ∃ left,
    unlinkMissingOk false ⟨.transactions, [.operation transaction.project token], name⟩ after =
      (.ok (), left) ∧
    left.top .transactions =
      before.top .transactions ++ [(.operation transaction.project token, .directory [])] ∧
    (∀ slot, slot ≠ .transactions → left.top slot = after.top slot) ∧
    ∀ other, other ≠ backup → left.inodes other = after.inodes other := by
  refine ⟨_, unlinkMissingOk_found (backup_find pending), backup_gone pending, ?_, ?_⟩
  · intro slot different
    exact Disk.alter_top_other _ _ _ different
  · intro other different
    exact Disk.touch_inodes_other _ _ different

end Backup

theorem view_missing {place : Place Slot Name} {error : OSError}
    (missing : after.find place = .error error) : view after place = none := by
  unfold view
  rw [missing]
  rfl

theorem view_file {place : Place Slot Name} {inode : Nat}
    (found : after.find place = .ok (.file inode)) :
    view after place = some (some ((after.inodes inode).content, (after.inodes inode).mode)) := by
  unfold view
  rw [found]
  rfl

theorem view_kept {left : Files} {place : Place Slot Name} {backup : Nat}
    (same : left.find place = after.find place)
    (inodes : ∀ other, other ≠ backup → left.inodes other = after.inodes other)
    (standing : (∃ inode, after.find place = .ok (.file inode) ∧ backup ≠ inode) ∨
      after.vacant place = .ok ()) : view left place = view after place := by
  rcases standing with ⟨inode, found, different⟩ | free
  · rw [view_file found, view_file (same.trans found), inodes inode (Ne.symm different)]
  · obtain ⟨inner, entered, absent⟩ := (Disk.vacant_ok _ _).mp free
    have missing : after.find place = .error .missing := by
      simp [Disk.find, Entries.find, entered, bind, Except.bind, absent]
    rw [view_missing missing, view_missing (same.trans missing)]

/-- A commit keeps what the target shows. -/
theorem commit_settles (locked : Locked disk before transaction.project)
    (pending : Pending before after transaction token entries f) :
    ∃ settled, commit calm ⟨after, transaction⟩ =
        (.ok (), ⟨settled, { transaction with finished := true }⟩) ∧
      Settled disk settled transaction.project transaction.target
        (view after transaction.target) := by
  have undo := pending.undo
  cases undo with
  | created created bare absent there =>
      have emptied := pending_emptied locked pending pending.areas rfl
      refine ⟨_, settle_closes pending.unfinished pending.area ?_ emptied, ?_⟩
      · rw [bare]
        rfl
      · exact closed_settled locked emptied pending.inProjects pending.projects pending.elsewhere
          pending.only pending.entered pending.inodes
  | saved name backup inode mode original kept place new copy moded found content bits standing =>
      obtain ⟨left, unlinked, areas, elsewhere, inodes⟩ := backup_unlinked pending
      have emptied := pending_emptied locked pending areas (elsewhere .locks (by decide))
      have apart : transaction.target.slot ≠ .transactions := by
        rw [pending.inProjects]
        decide
      have shown : view left transaction.target = view after transaction.target :=
        view_kept (Disk.find_congr (elsewhere _ apart)) inodes standing
      refine ⟨_, settle_closes pending.unfinished pending.area ?_ emptied, ?_⟩
      · rw [place]
        exact unlinked
      · rw [← shown]
        refine closed_settled locked emptied pending.inProjects ?_ ?_ pending.only
          pending.entered ?_
        · rw [elsewhere .projects (by decide), pending.projects]
        · intro slot areas projects
          rw [elsewhere slot areas, pending.elsewhere slot areas projects]
        · intro other known
          rw [inodes other (by omega)]
          exact pending.inodes other known

theorem backup_restored {name : Name} {backup : Nat} {original : ByteArray} (mode : Nat)
    (pending : Pending before after transaction token [(name, .file backup)] f)
    (copy : after.inodes backup = ⟨original, 0o600, 1⟩)
    (standing : (∃ other, after.find transaction.target = .ok (.file other) ∧ backup ≠ other) ∨
      after.vacant transaction.target = .ok ()) :
    ∃ left,
      (do
        change false fun disk =>
          disk.chmod ⟨.transactions, [.operation transaction.project token], name⟩ mode
        change false fun disk => disk.rename
          ⟨.transactions, [.operation transaction.project token], name⟩ transaction.target :
        Program Files Raised Unit) after = (.ok (), left) ∧
      left.top = ((after.unbind ⟨.transactions, [.operation transaction.project token], name⟩).bind
        transaction.target (.file backup)).top ∧
      left.find transaction.target = .ok (.file backup) ∧
      ((left.inodes backup).content = original ∧ (left.inodes backup).mode = mode) ∧
      ∀ other, other ≠ backup → (left.inodes other).content = (after.inodes other).content ∧
        (left.inodes other).mode = (after.inodes other).mode := by
  have apart : Slot.transactions ≠ transaction.target.slot := by
    rw [pending.inProjects]
    decide
  have found := backup_find pending
  have moded : after.chmod ⟨.transactions, [.operation transaction.project token], name⟩ mode =
      .ok (after.touch backup fun held => { held with mode := mode }) := by
    simp [Disk.chmod, Disk.change, found, bind, Except.bind]
  have again : (after.touch backup fun held => { held with mode := mode }).find
      ⟨.transactions, [.operation transaction.project token], name⟩ = .ok (.file backup) := found
  have entered : ∃ inner, Entries.enter transaction.target.path
      (after.top transaction.target.slot) = .ok inner := by
    rcases standing with ⟨other, held, _⟩ | free
    · obtain ⟨inner, entered, _⟩ := (Disk.find_eq _ _ _).mp held
      exact ⟨inner, entered⟩
    · obtain ⟨inner, entered, _⟩ := (Disk.vacant_ok _ _).mp free
      exact ⟨inner, entered⟩
  obtain ⟨inner, entered⟩ := entered
  have placed : ((after.unbind ⟨.transactions, [.operation transaction.project token], name⟩).bind
      transaction.target (.file backup)).find transaction.target = .ok (.file backup) := by
    have there : Entries.enter transaction.target.path ((after.unbind
        ⟨.transactions, [.operation transaction.project token], name⟩).top
          transaction.target.slot) = .ok inner := by
      rw [Disk.unbind, Disk.alter_top_other _ _ _ (Ne.symm apart), entered]
    rw [Disk.bind, Disk.find_alter _ _ _ there, Assoc.get_set, if_pos rfl]
  have bits : (after.touch backup fun held => { held with mode := mode }).inodes backup =
      ⟨original, mode, 1⟩ := by
    rw [Disk.touch_inodes_self, copy]
  have others : ∀ other, other ≠ backup →
      (after.touch backup fun held => { held with mode := mode }).inodes other =
        after.inodes other :=
    fun other different => Disk.touch_inodes_other _ _ different
  rw [run_ok (change_ok moded)]
  rcases standing with ⟨other, covered, different⟩ | free
  · have covered : (after.touch backup fun held => { held with mode := mode }).find
        transaction.target = .ok (.file other) := covered
    refine ⟨_, change_ok (Disk.rename_file again covered apart different), rfl, placed, ?_, ?_⟩
    · rw [Disk.unlinked, Disk.touch_inodes_other _ _ different, Disk.bind, Disk.alter_inodes,
        Disk.unbind, Disk.alter_inodes, bits]
      exact ⟨rfl, rfl⟩
    · intro inode apart
      by_cases hit : inode = other
      · subst hit
        simp [Disk.unlinked, Disk.bind, Disk.unbind, others inode apart]
      · rw [Disk.unlinked, Disk.touch_inodes_other _ _ hit, Disk.bind, Disk.alter_inodes,
          Disk.unbind, Disk.alter_inodes, others inode apart]
        exact ⟨rfl, rfl⟩
  · have free : (after.touch backup fun held => { held with mode := mode }).vacant
        transaction.target = .ok () := free
    refine ⟨_, change_ok (Disk.rename_fresh again free apart), rfl, placed, ?_, ?_⟩
    · rw [Disk.bind, Disk.alter_inodes, Disk.unbind, Disk.alter_inodes, bits]
      exact ⟨rfl, rfl⟩
    · intro inode apart
      rw [Disk.bind, Disk.alter_inodes, Disk.unbind, Disk.alter_inodes, others inode apart]
      exact ⟨rfl, rfl⟩

theorem target_unlinked {inode : Nat} (found : after.find transaction.target = .ok (.file inode)) :
    ∃ left, unlinkMissingOk false transaction.target after = (.ok (), left) ∧
      left.top = (after.unbind transaction.target).top ∧
      left.find transaction.target = .error .missing ∧
      ∀ other, (left.inodes other).content = (after.inodes other).content ∧
        (left.inodes other).mode = (after.inodes other).mode := by
  obtain ⟨inner, entered, _⟩ := (Disk.find_eq _ _ _).mp found
  have gone :=
    Disk.find_alter after transaction.target (Assoc.erase transaction.target.name) entered
  rw [Assoc.get_erase, if_pos rfl] at gone
  refine ⟨_, unlinkMissingOk_found found, rfl, gone, ?_⟩
  intro other
  by_cases hit : other = inode
  · subst hit
    simp [Disk.unbind]
  · rw [Disk.touch_inodes_other _ _ hit, Disk.unbind, Disk.alter_inodes]
    exact ⟨rfl, rfl⟩

theorem altered_settled {left : Files} {g : Entries Name → Entries Name}
    (locked : Locked disk before transaction.project)
    (pending : Pending before after transaction token entries f)
    (emptied : Emptied disk left transaction.project token)
    (projects : left.top .projects =
      Entries.alter g transaction.target.path (after.top .projects))
    (elsewhere : ∀ slot, slot ≠ .transactions → slot ≠ .projects →
      left.top slot = after.top slot)
    (only : Entries.OnlyAt transaction.target.name g)
    (inodes : ∀ inode < before.fresh,
      (left.inodes inode).content = (after.inodes inode).content ∧
        (left.inodes inode).mode = (after.inodes inode).mode) :
    Settled disk (closed left transaction.project token) transaction.project transaction.target
      (view left transaction.target) := by
  have whole : left.top .projects =
      Entries.alter (g ∘ f) transaction.target.path (before.top .projects) := by
    rw [projects, pending.projects, Entries.alter_alter]
  refine closed_settled locked emptied pending.inProjects whole ?_
    (Entries.onlyAt_comp only pending.only) pending.entered ?_
  · intro slot areas projects
    rw [elsewhere slot areas projects, pending.elsewhere slot areas projects]
  · intro inode known
    obtain ⟨content, mode⟩ := inodes inode known
    obtain ⟨first, second⟩ := pending.inodes inode known
    exact ⟨content.trans first, mode.trans second⟩

/-- A rollback brings back what the target showed. -/
theorem rollback_settles (locked : Locked disk before transaction.project)
    (pending : Pending before after transaction token entries f) :
    ∃ settled, rollback calm ⟨after, transaction⟩ =
        (.ok (), ⟨settled, { transaction with finished := true }⟩) ∧
      Settled disk settled transaction.project transaction.target
        (view disk transaction.target) := by
  have undo := pending.undo
  have inProjects := pending.inProjects
  have unchanged : disk.find transaction.target = before.find transaction.target := by
    apply Disk.find_congr
    rw [inProjects, locked.elsewhere .projects (by decide)]
  have areas_apart : Slot.transactions ≠ transaction.target.slot := by
    rw [inProjects]
    decide
  cases undo with
  | created created bare absent there =>
      obtain ⟨inode, found⟩ := there
      obtain ⟨left, unlinked, top, gone, inodes⟩ := target_unlinked found
      have nothing : view disk transaction.target = none := by
        cases held : before.find transaction.target with
        | error error => exact view_missing (unchanged.trans held)
        | ok node => exact absurd held (absent node)
      have elsewhere : ∀ slot, slot ≠ .projects → left.top slot = after.top slot := by
        intro slot different
        rw [top, Disk.unbind, Disk.alter_top_other _ _ _ (inProjects ▸ different)]
      have emptied := pending_emptied locked pending
        ((elsewhere .transactions (by decide)).trans pending.areas) (elsewhere .locks (by decide))
      refine ⟨_, settle_closes pending.unfinished pending.area ?_ emptied, ?_⟩
      · rw [if_pos created]
        exact unlinked
      · rw [nothing, ← view_missing gone]
        refine altered_settled locked pending emptied ?_ (fun slot _ => elsewhere slot)
          (Entries.onlyAt_erase _) fun inode _ => inodes inode
        rw [top, ← inProjects, Disk.unbind, Disk.alter_top_self]
  | saved name backup inode mode original kept place new copy moded found content bits standing =>
      obtain ⟨left, restores, top, back, ⟨data, bits_back⟩, inodes⟩ :=
        backup_restored mode pending copy standing
      have shown : view left transaction.target = view disk transaction.target := by
        have held := unchanged.trans found
        rw [view_file back, data, bits_back, view_file held,
          ← locked.inodes inode (Disk.find_below_fresh _ _ held), content, bits]
      have elsewhere : ∀ slot, slot ≠ .transactions → slot ≠ .projects →
          left.top slot = after.top slot := by
        intro slot areas projects
        rw [top, Disk.bind, Disk.alter_top_other _ _ _ (inProjects ▸ projects), Disk.unbind,
          Disk.alter_top_other _ _ _ areas]
      have emptied : Emptied disk left transaction.project token := by
        apply pending_emptied locked pending
        · rw [top, Disk.bind, Disk.alter_top_other _ _ _ areas_apart, backup_gone pending]
        · exact elsewhere .locks (by decide) (by decide)
      refine ⟨_, settle_closes pending.unfinished pending.area ?_ emptied, ?_⟩
      · rw [if_neg (by simp [kept]), place, moded]
        exact restores
      · rw [← shown]
        refine altered_settled locked pending emptied ?_ elsewhere (Entries.onlyAt_set _ backup) ?_
        · rw [top, ← inProjects, Disk.bind, Disk.alter_top_self, Disk.unbind,
            Disk.alter_top_other _ _ _ (Ne.symm areas_apart)]
        · intro other known
          exact inodes other (by omega)

end Finish

section Blocked

variable {project : UUID} {disk : Files}

def LockHeld (disk : Files) (project : UUID) : Prop :=
  Assoc.get (.project project) (disk.top .locks) = some (.directory [])

theorem held_taken (held : LockHeld disk project) : ¬ LockFree disk project := by
  intro free
  unfold LockHeld at held
  rw [show Assoc.get (Name.project project) (disk.top .locks) = none from free] at held
  cases held

theorem held_refuses (held : LockHeld disk project) (host : Host) (root : RootPath)
    (mutation : Mutation) :
    mutate host project root mutation disk = (.error mutationFailed, disk) :=
  mutate_refused (.inr (held_taken held))

theorem unlocked_locks (host : Host) (project : UUID) (root : RootPath) (mutation : Mutation)
    (disk : Files) :
    (unlocked host project root mutation disk).2.top .locks = disk.top .locks := by
  have ends := unlocked_ends host project root disk mutation
  rcases run : unlocked host project root mutation disk with ⟨outcome, left⟩
  rw [run] at ends
  cases chosen : accepted host disk project root mutation with
  | none =>
      rw [chosen] at ends
      obtain ⟨_, same⟩ := ends
      cases same
      rfl
  | some target =>
      rw [chosen] at ends
      obtain ⟨_, _, _, ends⟩ := ends
      cases ends with
      | returned output after completes kept =>
          obtain ⟨_, _, _, _, _, pending⟩ := kept
          exact pending.elsewhere .locks (by decide) (by decide)
      | undone e after missed undoes undone =>
          exact congrFun undone.top .locks
      | spoiled e after missed kept spoiled => exact spoiled.locks

theorem held_mutate {other : UUID} (held : LockHeld disk project) (apart : other ≠ project)
    (host : Host) (root : RootPath) (mutation : Mutation) :
    LockHeld (mutate host other root mutation disk).2 project := by
  by_cases refused : host.faults .acquireLock .mkdir = true ∨ ¬ LockFree disk other
  · rw [mutate_refused refused]
    exact held
  · obtain ⟨working, free⟩ := not_or.mp refused
    rw [Bool.not_eq_true] at working
    rw [not_not] at free
    have locks := unlocked_locks host other root mutation (lockTaken disk other)
    have kept : LockHeld (lockTaken disk other) project := by
      unfold LockHeld at held ⊢
      rw [(locked_taken free).held, Assoc.get_concat _ _ _ _ free,
        if_neg fun same => apart (Name.project.inj same), held]
    have mine : Assoc.get (.project other) ((lockTaken disk other).top .locks) =
        some (.directory []) := locked_lock (locked_taken free)
    rcases run : unlocked host other root mutation (lockTaken disk other) with ⟨outcome, left⟩
    rw [run] at locks
    unfold LockHeld at kept ⊢
    cases outcome with
    | ok output =>
        unfold mutate
        rw [locked_returns working free run, locks, kept]
    | error e =>
        have lock_there : Assoc.get (.project other) (left.top .locks) = some (.directory []) := by
          rw [locks, mine]
        unfold mutate
        by_cases releases : Releases (host.faults .releaseLock)
        · rw [locked_release working free run lock_there releases, projectChild, Disk.unbind,
            Disk.alter_top_self]
          show Assoc.get _ (Assoc.erase _ (left.top .locks)) = _
          rw [Assoc.get_erase, if_neg fun same => apart (Name.project.inj same), locks, kept]
        · rw [locked_refusedRelease working free run lock_there releases, locks, kept]

structure Attempt where
  host : Host
  project : UUID
  root : RootPath
  mutation : Mutation

def attempted : List Attempt → Files → Files
  | [], disk => disk
  | first :: rest, disk =>
      attempted rest (mutate first.host first.project first.root first.mutation disk).2

theorem held_attempt (held : LockHeld disk project) (attempt : Attempt) :
    LockHeld (mutate attempt.host attempt.project attempt.root attempt.mutation disk).2
      project := by
  by_cases same : attempt.project = project
  · subst same
    rw [held_refuses held]
    exact held
  · exact held_mutate held same attempt.host attempt.root attempt.mutation

theorem held_attempted (held : LockHeld disk project) (attempts : List Attempt) :
    LockHeld (attempted attempts disk) project := by
  induction attempts generalizing disk with
  | nil => exact held
  | cons first rest ih => exact ih (held_attempt held first)

end Blocked

section Theorem

variable {host : Host} {disk pending : Files} {project : UUID} {root : RootPath}
  {mutation : Mutation} {output : TransactionalToolOutput}

theorem settle_finished (faults : FinishSite → Faults)
    (body : LocalMutationTransaction → Program Files Raised Unit) (later : Files)
    (transaction : LocalMutationTransaction) :
    settle faults body ⟨later, { transaction with finished := true }⟩ =
      (.ok (), ⟨later, { transaction with finished := true }⟩) := by
  unfold settle
  rw [look_run]
  rfl

/-- The call finishes the transaction with this result at its target; later calls do nothing. -/
structure Resolves (finish : Program Held Raised Unit) (before pending : Files)
    (transaction : LocalMutationTransaction) (result : Option (Option (ByteArray × Nat))) :
    Prop where
  settles : ∃ settled,
    finish ⟨pending, transaction⟩ = (.ok (), ⟨settled, { transaction with finished := true }⟩) ∧
      Settled before settled transaction.project transaction.target result
  stays : ∀ faults later,
    commit faults ⟨later, { transaction with finished := true }⟩ =
        (.ok (), ⟨later, { transaction with finished := true }⟩) ∧
      rollback faults ⟨later, { transaction with finished := true }⟩ =
        (.ok (), ⟨later, { transaction with finished := true }⟩)

theorem view_lockTaken {place : Place Slot Name} (inProjects : place.slot = .projects) :
    view (lockTaken disk project) place = view disk place := by
  have other : Slot.projects ≠ Slot.locks := by decide
  unfold view lockTaken
  rw [Disk.find_bind_other _ _ _ (inProjects ▸ other), Disk.bind, Disk.alter_inodes]

/-- What an operation that returned its transaction leaves to be settled. -/
theorem mutation_pending
    (returns : mutate host project root mutation disk = (.ok output, pending)) :
    Locked disk (lockTaken disk project) project ∧
      ∃ result, mutation.Gives (view disk (below project (pathParts mutation.relative))) result ∧
        Keeps (lockTaken disk project) project host.areaToken (pathParts mutation.relative) result
          output.transaction pending := by
  by_cases refused : host.faults .acquireLock .mkdir = true ∨ ¬ LockFree disk project
  · rw [mutate_refused refused] at returns
    cases returns
  · obtain ⟨working, free⟩ := not_or.mp refused
    rw [Bool.not_eq_true] at working
    rw [not_not] at free
    have locked := locked_taken free
    have ends := unlocked_ends host project root (lockTaken disk project) mutation
    rcases run : unlocked host project root mutation (lockTaken disk project) with ⟨outcome, left⟩
    rw [run] at ends
    cases outcome with
    | error e =>
        have locks := unlocked_locks host project root mutation (lockTaken disk project)
        rw [run] at locks
        have held : Assoc.get (.project project) (left.top .locks) = some (.directory []) := by
          rw [locks, locked_lock locked]
        unfold mutate at returns
        by_cases releases : Releases (host.faults .releaseLock)
        · rw [locked_release working free run held releases] at returns
          cases returns
        · rw [locked_refusedRelease working free run held releases] at returns
          cases returns
    | ok returned =>
        unfold mutate at returns
        rw [locked_returns working free run] at returns
        cases returns
        refine ⟨locked, ?_⟩
        cases chosen : accepted host (lockTaken disk project) project root mutation with
        | none =>
            rw [chosen] at ends
            obtain ⟨_, same⟩ := ends
            cases same
        | some target =>
            rw [chosen] at ends
            obtain ⟨requested, result, gives, ends⟩ := ends
            cases ends with
            | returned output after completes kept =>
                rw [← requested, ← view_lockTaken (below_slot project target)]
                exact ⟨result, gives, kept⟩

/-- The transaction of an operation that returned restores what its target showed, or keeps what
the operation gave it, and until then its project is locked. -/
theorem transaction_settles
    (returns : mutate host project root mutation disk = (.ok output, pending)) :
    output.transaction.project = project ∧
      output.transaction.target = below project (pathParts mutation.relative) ∧
      (∃ result, mutation.Gives (view disk output.transaction.target) result ∧
        view pending output.transaction.target = result ∧
        Resolves (commit calm) disk pending output.transaction result) ∧
      Resolves (rollback calm) disk pending output.transaction
        (view disk output.transaction.target) ∧
      ∀ attempts other somewhere attempt,
        mutate other project somewhere attempt (attempted attempts pending) =
          (.error mutationFailed, attempted attempts pending) := by
  obtain ⟨locked, result, gives, belongs, shows, seen, entries, f, kept⟩ := mutation_pending returns
  subst belongs
  have held : LockHeld pending output.transaction.project := by
    unfold LockHeld
    rw [kept.elsewhere .locks (by decide) (by decide), locked_lock locked]
  have stays : ∀ faults later,
      commit faults ⟨later, { output.transaction with finished := true }⟩ =
          (.ok (), ⟨later, { output.transaction with finished := true }⟩) ∧
        rollback faults ⟨later, { output.transaction with finished := true }⟩ =
          (.ok (), ⟨later, { output.transaction with finished := true }⟩) :=
    fun faults later => ⟨settle_finished faults _ later _, settle_finished faults _ later _⟩
  have commits := commit_settles locked kept
  have restores := rollback_settles locked kept
  rw [← shows] at gives seen
  refine ⟨rfl, shows, ⟨result, gives, seen, ?_, stays⟩, ⟨restores, stays⟩, ?_⟩
  · rw [← seen]
    exact commits
  · intro attempts other somewhere attempt
    exact held_refuses (held_attempted held attempts) other somewhere attempt

/-- A replacement on the sample disk. -/
theorem transaction_settles_sample : ∃ output pending,
    mutate (sampleHost .linked .read) 1 (.project 1)
        (.replace (.ofString "old") (.ofString "new")) sampleDisk = (.ok output, pending) ∧
      Resolves (rollback calm) sampleDisk pending output.transaction
        (view sampleDisk output.transaction.target) := by
  obtain ⟨output, pending, run⟩ : ∃ output pending,
      mutate (sampleHost .linked .read) 1 (.project 1)
        (.replace (.ofString "old") (.ofString "new")) sampleDisk = (.ok output, pending) :=
    ⟨_, _, rfl⟩
  exact ⟨output, pending, run, (transaction_settles run).2.2.2.1⟩

end Theorem

end SynapseOS.Mutations
