import SynapseOS.Mutations.Reading

/-! What an operation that raises leaves behind. -/

namespace SynapseOS.Mutations

open Tools Execution Workspaces Program

/-- Every file of every project, every transaction area and the lock are as before. -/
structure Restored (before after : Files) (project : UUID) : Prop where
  files : ∀ place, place.slot = .projects → view after place = view before place
  areas : ∀ name, after.find ⟨.transactions, [], name⟩ = before.find ⟨.transactions, [], name⟩
  lock : after.find (projectChild .locks project) = before.find (projectChild .locks project)

structure Undone (before after : Files) : Prop where
  top : after.top = before.top
  inodes : ∀ inode < before.fresh, after.inodes inode = before.inodes inode

structure Spoiled (before after : Files) (area : Name) : Prop where
  locks : after.top .locks = before.top .locks
  left : (Assoc.get area (before.top .transactions) = none ∧
      (Assoc.get area (after.top .transactions)).isSome) ∨
    ∃ place, place.slot = .projects ∧ (∀ node, before.find place ≠ .ok node) ∧
      ∃ node, after.find place = .ok node

section Conditions

variable (host : Host) (disk : Files) (project : UUID) (root : RootPath)

def Mutation.artifacts : Mutation → List Artifact
  | .replace _ _ | .patch _ _ => [.backup, .temporary]
  | .create _ _ => [.temporary]
  | .delete _ => [.backup]

def accepted : Mutation → Option (List PyStr)
  | .replace relative content =>
      match (readExisting host project root relative disk).1, encodeInput host.limits content with
      | .ok (_, target, _), .ok _ => some target
      | _, _ => none
  | .create relative content =>
      match (resolveNew host project root relative content disk).1 with
      | .ok (target, _) => some target
      | .error _ => none
  | .patch relative replacements =>
      if replacements.length = 0 ∨ host.limits.maxPatchOperations < replacements.length then none
      else
        match (readExisting host project root relative disk).1 with
        | .error _ => none
        | .ok (original, target, _) =>
            match decode original with
            | .error _ => none
            | .ok text =>
                match applyReplacements host.limits (.ofString text) replacements with
                | .error _ => none
                | .ok current =>
                    match encodeInput host.limits current with
                    | .error _ => none
                    | .ok updated => if updated = original then none else some target
  | .delete relative =>
      match (readExisting host project root relative disk).1 with
      | .ok (_, target, _) => some target
      | .error _ => none

def draws : List Artifact → List Name → Bool
  | [], _ => true
  | which :: rest, taken =>
      match drawn host which taken 8 0 with
      | none => false
      | some name => draws rest (taken ++ [name])

def Refused (target : List PyStr) : Mutation → Prop
  | .replace _ _ | .patch _ _ =>
      host.faults (.sameTarget true) .lstat = true ∨ host.faults .target .rename = true
  | .create _ _ =>
      host.faults .target .link = true ∨ disk.vacant (below project target) ≠ .ok ()
  | .delete _ => host.faults (.sameTarget true) .lstat = true ∨ host.faults .target .unlink = true

def Discards (artifacts : List Artifact) : Prop :=
  (∀ which ∈ artifacts, host.faults (.discard which) .unlink = false) ∧
    Removes fun path => host.faults (.removeArea path)

def Finishes : Mutation → Prop
  | .create _ _ => host.faults .linked .unlink = false ∧ Summarizes (host.faults .summary)
  | .replace _ _ | .patch _ _ | .delete _ => Summarizes (host.faults .summary)

def Prepares (mutation : Mutation) : Prop :=
  Opens (host.faults .transactionArea) .transactions disk project host.areaToken ∧
    host.faults .transactionArea .resolve = false ∧ draws host mutation.artifacts [] = true

def Completes (mutation : Mutation) (target : List PyStr) : Prop :=
  Prepares host disk project mutation ∧ ¬ Refused host disk project target mutation ∧
    Finishes host mutation

def Undoes (mutation : Mutation) (target : List PyStr) : Prop :=
  ¬ Opens (host.faults .transactionArea) .transactions disk project host.areaToken ∨
    Prepares host disk project mutation ∧ Refused host disk project target mutation ∧
      Discards host mutation.artifacts

end Conditions

/-- How an operation ends from `before`, if `completes` says when it returns and `undoes` when it
raises without a trace; `keeps` holds of what it returns. -/
inductive Ends (before : Files) (area : Name) (completes undoes : Prop)
    (keeps : LocalMutationTransaction → Files → Prop) :
    Except Raised TransactionalToolOutput × Files → Prop
  | returned (output : TransactionalToolOutput) (after : Files) (holds : completes)
      (kept : keeps output.transaction after) :
      Ends before area completes undoes keeps (.ok output, after)
  | undone (e : Raised) (after : Files) (missed : ¬ completes) (holds : undoes)
      (undone : Undone before after) : Ends before area completes undoes keeps (.error e, after)
  | spoiled (e : Raised) (after : Files) (missed : ¬ completes) (held : ¬ undoes)
      (spoiled : Spoiled before after area) :
      Ends before area completes undoes keeps (.error e, after)

def Keeps (before : Files) (project : UUID) (token : String) (target : List PyStr)
    (result : Option (Option (ByteArray × Nat))) (transaction : LocalMutationTransaction)
    (after : Files) : Prop :=
  transaction.project = project ∧ transaction.target = below project target ∧
    view after (below project target) = result ∧
      ∃ entries f, Pending before after transaction token entries f

section Steps

variable {host : Host} {project : UUID} {before after : Files} {entries : Entries Name}

theorem staged_spoiled {area : Name} (staged : Staged before after area entries) :
    Spoiled before after area where
  locks := staged.elsewhere .locks (by decide)
  left := by
    have there := staged_area staged
    exact .inl ⟨staged.fresh, by rw [there]; rfl⟩

theorem transactionArea_cases (host : Host) (project : UUID) (disk : Files) :
    (¬ Opens (host.faults .transactionArea) .transactions disk project host.areaToken ∧
      ∃ e, transactionArea host project disk = (.error e, disk)) ∨
    (Opens (host.faults .transactionArea) .transactions disk project host.areaToken ∧
      ∃ made, Staged disk made (.operation project host.areaToken) [] ∧
        (host.faults .transactionArea .resolve = true ∧
          (∃ e, transactionArea host project disk = (.error e, made)) ∨
        host.faults .transactionArea .resolve = false ∧ transactionArea host project disk =
          (.ok (operationDirectory .transactions project host.areaToken), made))) := by
  by_cases opens : Opens (host.faults .transactionArea) .transactions disk project host.areaToken
  · right
    have made := createOperationDirectory_made opens
    refine ⟨opens, _, staged_begin opens.2, ?_⟩
    cases resolved : host.faults .transactionArea .resolve with
    | true =>
        rw [resolved, if_pos rfl] at made
        exact .inl ⟨rfl, _, orWorkspace_error made⟩
    | false =>
        rw [resolved, if_neg Bool.false_ne_true] at made
        exact .inr ⟨rfl, orWorkspace_ok made⟩
  · left
    exact ⟨opens, _, orWorkspace_error (createOperationDirectory_refused opens)⟩

theorem writeArtifact_cases {token : String} (host : Host)
    (staged : Staged before after (.operation project token) entries)
    (which : Artifact) (content : ByteArray) (mode : Nat) :
    (drawn host which (entries.map Prod.fst) 8 0 = none ∧ ∃ e left,
      writeArtifact host which (operationDirectory .transactions project token) content mode 8 0
        after = (.error e, left) ∧ Spoiled before left (.operation project token)) ∨
    ∃ name written inode, drawn host which (entries.map Prod.fst) 8 0 = some name ∧
      writeArtifact host which (operationDirectory .transactions project token) content mode 8 0
        after = (.ok ⟨.transactions, [.operation project token], name⟩, written) ∧
      Written before after written (.operation project token) name entries content mode inode := by
  cases draws : drawn host which (entries.map Prod.fst) 8 0 with
  | none =>
      obtain ⟨e, left, others, run, kept⟩ :=
        writeArtifact_undrawn staged content mode 8 0 draws
      exact .inl ⟨rfl, e, left, run, staged_spoiled kept⟩
  | some name =>
      obtain ⟨written, inode, run, artifact⟩ :=
        writeArtifact_drawn staged content mode 8 0 draws
      exact .inr ⟨name, written, inode, rfl, run, artifact⟩

theorem unlink_cases {area : Name} (staged : Staged before after area entries) (fails : Bool)
    (name : Name) :
    (fails = true ∧
      unlinkMissingOk fails ⟨.transactions, [area], name⟩ after = (.error (.os .fault), after)) ∨
    (fails = false ∧ ∃ left,
      unlinkMissingOk fails ⟨.transactions, [area], name⟩ after = (.ok (), left) ∧
        Staged before left area (Assoc.erase name entries)) := by
  cases fails with
  | true => exact .inl ⟨rfl, unlinkMissingOk_fault _⟩
  | false => exact .inr ⟨rfl, staged_unlink staged name⟩

theorem staged_removed {token : String}
    (staged : Staged before after (.operation project token) []) :
    Undone before (after.unbind (operationDirectory .transactions project token)) where
  top := by
    funext slot
    by_cases same : slot = .transactions
    · rw [same]
      exact unbind_direct staged.area staged.fresh
    · rw [← staged.elsewhere slot same]
      exact Disk.alter_top_other _ _ _ same
  inodes := staged.inodes

theorem removeArea_cases
    (staged : Staged before after (.operation project host.areaToken) []) :
    (¬ Removes (fun path => host.faults (.removeArea path)) ∧ ∃ e left,
      removeArea host project (operationDirectory .transactions project host.areaToken) after =
        (.error e, left) ∧ Spoiled before left (.operation project host.areaToken)) ∨
    (Removes (fun path => host.faults (.removeArea path)) ∧ ∃ left,
      removeArea host project (operationDirectory .transactions project host.areaToken) after =
        (.ok (), left) ∧ Undone before left) := by
  have held := staged_area staged
  by_cases removes : Removes fun path => host.faults (.removeArea path)
  · right
    exact ⟨removes, _, orWorkspace_ok (removeTransactionArea_ok held removes),
      staged_removed staged⟩
  · left
    obtain ⟨code, message, left, run, there, elsewhere⟩ :=
      removeTransactionArea_fault held removes
    refine ⟨removes, _, left, orWorkspace_error run, ?_, .inl ⟨staged.fresh, ?_⟩⟩
    · rw [elsewhere .locks (by decide), staged.elsewhere .locks (by decide)]
    · rw [there]
      rfl

variable {target : List PyStr} {stat : StatResult} {original : ByteArray} {inode : Nat}

theorem below_slot (project : UUID) (parts : List PyStr) :
    (below project parts).slot = .projects := by
  unfold below
  split
  · rfl
  · rfl

theorem below_path (parts : List PyStr)
    (other : below project parts ≠ projectChild .projects project) :
    ∃ rest, (below project parts).path = .project project :: rest := by
  unfold below at other ⊢
  split
  · next empty =>
      rw [empty] at other
      exact absurd rfl other
  · exact ⟨_, rfl⟩

theorem staged_target {area : Name} (staged : Staged before after area entries) :
    after.find (below project target) = before.find (below project target) := by
  apply Disk.find_congr
  rw [below_slot]
  exact staged.elsewhere .projects (by decide)

theorem sameTarget_cases {area : Name}
    (readable : Readable before project target stat original inode)
    (staged : Staged before after area entries) (faults : Faults) :
    (faults .lstat = true ∧ requireSameTarget faults (below project target) stat after =
      (.error fileChanged, after)) ∨
    (faults .lstat = false ∧ requireSameTarget faults (below project target) stat after =
      (.ok (), after)) := by
  unfold requireSameTarget
  cases seen : faults .lstat with
  | true => exact .inl ⟨rfl, run_error (orRaise_error (ask_fault _))⟩
  | false =>
      have found := (staged_target staged).trans readable.found
      have same := staged.inodes inode (Disk.find_below_fresh _ _ readable.found)
      have answer : lstat (below project target) after = .ok stat := by
        rw [readable.stat, ← readable.content]
        simp [lstat, found, same, readable.links, bind, Except.bind]
      refine .inr ⟨rfl, ?_⟩
      rw [run_ok (orRaise_ok (ask_ok answer)), if_neg]
      · rfl
      · simp [readable.stat]

theorem root_alter (parts : List PyStr) (f : Entries Name → Entries Name)
    (root : ∃ entries, after.find (projectChild .projects project) = .ok (.directory entries))
    (other : below project parts ≠ projectChild .projects project) :
    ∃ entries, (after.alter (below project parts).slot (below project parts).path f).find
      (projectChild .projects project) = .ok (.directory entries) := by
  rw [below_slot]
  obtain ⟨rest, path⟩ := below_path parts other
  obtain ⟨entries, held⟩ := root
  obtain ⟨top, entered, held⟩ := (Disk.find_eq _ _ _).mp held
  cases entered
  refine ⟨Entries.alter f rest entries, find_direct ?_⟩
  rw [Disk.alter_top_self, path]
  exact Entries.get_alter f rest held

theorem staged_altered {area : Name} {altered : Files} (staged : Staged before after area entries)
    (locks : altered.top .locks = after.top .locks)
    (areas : (Assoc.get area (altered.top .transactions)).isSome) :
    Spoiled before altered area where
  locks := locks.trans (staged.elsewhere .locks (by decide))
  left := .inl ⟨staged.fresh, areas⟩

theorem below_ne {slot : Slot} (parts : List PyStr) (other : slot ≠ .projects) :
    slot ≠ (below project parts).slot := by
  rw [below_slot]
  exact other

theorem staged_root {area : Name} (staged : Staged before after area entries)
    (root : ∃ entries, before.find (projectChild .projects project) = .ok (.directory entries)) :
    ∃ entries, after.find (projectChild .projects project) = .ok (.directory entries) := by
  have same : after.find (projectChild .projects project) =
      before.find (projectChild .projects project) :=
    Disk.find_congr (staged.elsewhere .projects (by decide))
  rw [same]
  exact root

theorem readable_other (readable : Readable before project target stat original inode) :
    below project target ≠ projectChild .projects project := by
  intro same
  obtain ⟨entries, held⟩ := readable.root
  rw [← same, readable.found] at held
  cases held

end Steps

section Confined

variable {α β : Type} {slot : Slot} {body : Program Files Raised α}

theorem confined_orWorkspace (first : Confined slot body) (e : Raised) :
    Confined slot (orWorkspace body e) := by
  apply confined_bind (confined_attempt first)
  intro outcome
  rcases outcome with raised | a
  · cases raised <;> exact confined_still (still_raise _)
  · exact confined_still (still_pure a)

theorem confined_unlinkMissingOk (fails : Bool) (place : Place Slot Name) :
    Confined place.slot (unlinkMissingOk fails place) := by
  have unlinks : Confined place.slot (change fails fun disk => disk.unlink place) := by
    intro disk other different
    unfold change
    split
    · rfl
    · split
      · next after moved =>
          obtain ⟨node, _, rfl⟩ := Disk.unlink_returned moved
          rw [Disk.unlinked_top]
          exact Disk.alter_top_other _ _ _ different
      · rfl
  apply confined_bind (confined_attempt unlinks)
  intro outcome
  split
  · exact confined_still (still_pure _)
  · exact confined_still (still_pure _)
  · exact confined_still (still_raise _)

theorem confined_removeArea (host : Host) (project : UUID) (token : String) :
    Confined .transactions
      (removeArea host project (operationDirectory .transactions project token)) := by
  apply confined_orWorkspace
  intro disk other different
  unfold removeTransactionArea
  have still : Still (requireOperationDirectory (host.faults (.removeArea []))
      (operationDirectory .transactions project token) .transactions project) := by
    apply still_bind (still_requireDirectDirectory _ _ _)
    intro resolved
    rcases resolved with ⟨slot, path, name⟩
    cases name with
    | operation id token => exact still_ite (still_pure _) (still_raise _)
    | project id => exact still_raise _
    | entry text => exact still_raise _
  rcases owned : requireOperationDirectory (host.faults (.removeArea []))
    (operationDirectory .transactions project token) .transactions project disk
      with ⟨e | found, seen⟩
  · rw [run_error owned]
    have same := still disk
    rw [owned] at same
    rw [same]
  · have same := still disk
    rw [owned] at same
    obtain rfl : disk = seen := same.symm
    rw [run_ok owned]
    have target : found = operationDirectory .transactions project token := by
      obtain ⟨resolved, _, direct, last⟩ := run_returned owned
      obtain ⟨_, rfl, _⟩ := requireDirectDirectory_returned direct
      change (if project = project then pure (operationDirectory .transactions project token)
        else raise unsafe_ : Program Files Raised (Place Slot Name)) _ = _ at last
      rw [if_pos rfl] at last
      cases last
      rfl
    rw [target]
    exact confined_orRaise (confined_removeAt _ 2 _) cleanupFailed disk other different

def cleaning (host : Host) (project : UUID) (which : Artifact) (name : Name) (e : Raised) :
    Program Files Raised TransactionalToolOutput := do
  unlinkMissingOk (host.faults (.discard which) .unlink)
    ⟨.transactions, [.operation project host.areaToken], name⟩
  removeArea host project (operationDirectory .transactions project host.areaToken)
  raise e

theorem confined_cleaning (host : Host) (project : UUID) (which : Artifact) (name : Name)
    (e : Raised) : Confined .transactions (cleaning host project which name e) := by
  have first : Confined .transactions (unlinkMissingOk (host.faults (.discard which) .unlink)
      ⟨.transactions, [.operation project host.areaToken], name⟩) :=
    confined_unlinkMissingOk _ ⟨.transactions, [.operation project host.areaToken], name⟩
  apply confined_bind first
  intro _
  apply confined_bind (confined_removeArea _ _ _)
  intro _
  exact confined_still (still_raise _)

theorem cleaning_raises (host : Host) (project : UUID) (which : Artifact) (name : Name)
    (e : Raised) (disk : Files) :
    ∃ raised left, cleaning host project which name e disk = (.error raised, left) := by
  apply run_raises
  intro _ _
  apply run_raises
  intro _ left
  exact ⟨e, left, rfl⟩

end Confined

section Endings

variable {host : Host} {project : UUID} {before after : Files} {mutation : Mutation}
  {target : List PyStr} {result : Option (Option (ByteArray × Nat))} {e : Raised}

abbrev EndsFor (host : Host) (before : Files) (project : UUID) (mutation : Mutation)
    (target : List PyStr) (result : Option (Option (ByteArray × Nat))) :
    Except Raised TransactionalToolOutput × Files → Prop :=
  Ends before (.operation project host.areaToken) (Completes host before project mutation target)
    (Undoes host before project mutation target) (Keeps before project host.areaToken target result)

theorem ends_closed
    (closed : ¬ Opens (host.faults .transactionArea) .transactions before project host.areaToken) :
    EndsFor host before project mutation target result (.error e, before) :=
  .undone e before (fun completes => closed completes.1.1) (.inl closed) ⟨rfl, fun _ _ => rfl⟩

theorem ends_unprepared
    (opens : Opens (host.faults .transactionArea) .transactions before project host.areaToken)
    (missed : ¬ Prepares host before project mutation)
    (spoiled : Spoiled before after (.operation project host.areaToken)) :
    EndsFor host before project mutation target result (.error e, after) := by
  apply Ends.spoiled e after _ _ spoiled
  · exact fun completes => missed completes.1
  · rintro (closed | ⟨prepares, _⟩)
    · exact closed opens
    · exact missed prepares

theorem ends_cleaned (prepares : Prepares host before project mutation)
    (refused : Refused host before project target mutation)
    (discards : Discards host mutation.artifacts) (undone : Undone before after) :
    EndsFor host before project mutation target result (.error e, after) :=
  .undone e after (fun completes => completes.2.1 refused)
    (.inr ⟨prepares, refused, discards⟩) undone

theorem ends_uncleaned (prepares : Prepares host before project mutation)
    (refused : Refused host before project target mutation)
    (failing : ¬ Discards host mutation.artifacts)
    (spoiled : Spoiled before after (.operation project host.areaToken)) :
    EndsFor host before project mutation target result (.error e, after) := by
  apply Ends.spoiled e after _ _ spoiled
  · exact fun completes => completes.2.1 refused
  · rintro (closed | ⟨_, _, discards⟩)
    · exact closed prepares.1
    · exact failing discards

theorem ends_unfinished (prepares : Prepares host before project mutation)
    (allowed : ¬ Refused host before project target mutation) (failing : ¬ Finishes host mutation)
    (spoiled : Spoiled before after (.operation project host.areaToken)) :
    EndsFor host before project mutation target result (.error e, after) := by
  apply Ends.spoiled e after _ _ spoiled
  · exact fun completes => failing completes.2.2
  · rintro (closed | ⟨_, refused, _⟩)
    · exact closed prepares.1
    · exact allowed refused

theorem summary_ends {old new : ByteArray} {operation : MutationOperation}
    {transaction : LocalMutationTransaction}
    (prepares : Prepares host before project mutation)
    (allowed : ¬ Refused host before project target mutation)
    (finishing : Finishes host mutation ↔ Summarizes (host.faults .summary))
    (root : ∃ entries, after.find (projectChild .projects project) = .ok (.directory entries))
    (first : ∃ text, decode old = .ok text) (second : ∃ text, decode new = .ok text)
    (spoiled : Spoiled before after (.operation project host.areaToken))
    (kept : Keeps before project host.areaToken target result transaction after) :
    EndsFor host before project mutation target result
      ((summary host project target old new operation >>= fun output =>
        pure (TransactionalToolOutput.mk output transaction)) after) := by
  by_cases working : Summarizes (host.faults .summary)
  · obtain ⟨output, run⟩ := summary_ok root first second working
    rw [run_ok run]
    exact .returned _ after ⟨prepares, allowed, finishing.mpr working⟩ kept
  · obtain ⟨e, run⟩ := summary_fault working
    rw [run_error run]
    exact ends_unfinished prepares allowed (fun finishes => working (finishing.mp finishes)) spoiled

theorem unlink_ends {entries : Entries Name} {which : Artifact} {name : Name}
    {rest : Unit → Program Files Raised TransactionalToolOutput}
    (prepares : Prepares host before project mutation)
    (refused : Refused host before project target mutation)
    (staged : Staged before after (.operation project host.areaToken) entries)
    (written : which ∈ mutation.artifacts)
    (next : host.faults (.discard which) .unlink = false → ∀ left,
      Staged before left (.operation project host.areaToken) (Assoc.erase name entries) →
        EndsFor host before project mutation target result (rest () left)) :
    EndsFor host before project mutation target result
      ((unlinkMissingOk (host.faults (.discard which) .unlink)
        ⟨.transactions, [.operation project host.areaToken], name⟩ >>= rest) after) := by
  rcases unlink_cases staged (host.faults (.discard which) .unlink) name with
    ⟨lost, run⟩ | ⟨working, left, run, kept⟩
  · rw [run_error run]
    refine ends_uncleaned prepares refused (fun discards => ?_) (staged_spoiled staged)
    rw [discards.1 which written] at lost
    cases lost
  · rw [run_ok run]
    exact next working left kept

theorem removeArea_ends (prepares : Prepares host before project mutation)
    (refused : Refused host before project target mutation)
    (staged : Staged before after (.operation project host.areaToken) [])
    (unlinked : ∀ which ∈ mutation.artifacts, host.faults (.discard which) .unlink = false)
    (e : Raised) :
    EndsFor host before project mutation target result
      ((removeArea host project (operationDirectory .transactions project host.areaToken) >>=
        fun _ => raise e) after) := by
  rcases removeArea_cases staged with ⟨lost, e, left, run, spoiled⟩ | ⟨removes, left, run, undone⟩
  · rw [run_error run]
    exact ends_uncleaned prepares refused (fun discards => lost discards.2) spoiled
  · rw [run_ok run]
    exact ends_cleaned prepares refused ⟨unlinked, removes⟩ undone

theorem draws_one {which : Artifact} : draws host [which] [] = true ↔
    ∃ name, drawn host which [] 8 0 = some name := by
  unfold draws
  cases drawn host which [] 8 0 with
  | none => simp
  | some name => simp [draws]

theorem draws_two {first second : Artifact} : draws host [first, second] [] = true ↔
    ∃ name other, drawn host first [] 8 0 = some name ∧
    drawn host second [name] 8 0 = some other := by
  cases begun : drawn host first [] 8 0 with
  | none => simp [draws, begun]
  | some name =>
      cases ended : drawn host second [name] 8 0 with
      | none => simp [draws, begun, ended]
      | some other => simp [draws, begun, ended]

end Endings

section Kept

variable {project : UUID} {token : String} {before made written : Files} {target : List PyStr}
  {stat : StatResult} {original : ByteArray} {inode number : Nat} {backup : Name}

theorem readable_enter (readable : Readable before project target stat original inode) :
    ∃ inner, Entries.enter (below project target).path (before.top .projects) = .ok inner ∧
      ∀ below_, Assoc.get (below project target).name inner ≠ some (.directory below_) := by
  obtain ⟨inner, entered, held⟩ := (Disk.find_eq _ _ _).mp readable.found
  rw [below_slot] at entered
  refine ⟨inner, entered, ?_⟩
  intro other same
  rw [held] at same
  cases same

theorem readable_view (readable : Readable before project target stat original inode) :
    view before (below project target) = some (some (original, stat.mode)) := by
  unfold view
  rw [readable.found, readable.stat]
  simp [Entries.shape, readable.content]

theorem pending_altered {staged after : Files} {entries : Entries Name}
    {f : Entries Name → Entries Name} {saved : Option (Place Slot Name)} {created : Bool}
    {mode : Option Nat} (area : Staged before staged (.operation project token) entries)
    (top : after.top =
      (staged.alter (below project target).slot (below project target).path f).top)
    (inodes : ∀ inode < before.fresh,
      (after.inodes inode).content = (before.inodes inode).content ∧
        (after.inodes inode).mode = (before.inodes inode).mode)
    (only : Entries.OnlyAt (below project target).name f)
    (entered : ∃ inner,
      Entries.enter (below project target).path (before.top .projects) = .ok inner ∧
        ∀ other, Assoc.get (below project target).name inner ≠ some (.directory other))
    (undo : Undo before after ⟨project, operationDirectory .transactions project token,
      below project target, saved, created, mode, false⟩ token entries) :
    Pending before after ⟨project, operationDirectory .transactions project token,
      below project target, saved, created, mode, false⟩ token entries f where
  area := rfl
  inProjects := below_slot project target
  unfinished := rfl
  fresh := area.fresh
  areas := by
    rw [top, Disk.alter_top_other _ _ _ (below_ne target (by decide)), area.area]
  projects := by
    have elsewhere := area.elsewhere .projects (by decide)
    rw [top, below_slot, Disk.alter_top_self, elsewhere]
  elsewhere slot different other := by
    rw [top, Disk.alter_top_other _ _ _ (below_ne target other), area.elsewhere slot different]
  only := only
  entered := entered
  inodes := inodes
  undo := undo

theorem staged_entered {staged : Files} {entries inner : Entries Name}
    (area : Staged before staged (.operation project token) entries)
    (entered : Entries.enter (below project target).path (before.top .projects) = .ok inner) :
    Entries.enter (below project target).path (staged.top (below project target).slot) =
      .ok inner := by
  rw [below_slot, area.elsewhere .projects (by decide), entered]

theorem delete_keeps (readable : Readable before project target stat original inode)
    (staged : Staged before made (.operation project token) [])
    (artifact : Written before made written (.operation project token) backup [] original 0o600
      number) :
    Keeps before project token target none
      ⟨project, operationDirectory .transactions project token, below project target,
        some ⟨.transactions, [.operation project token], backup⟩, false, some stat.mode, false⟩
      ((written.unbind (below project target)).touch inode
        fun held => { held with links := held.links - 1 }) := by
  have known := Disk.find_below_fresh _ _ readable.found
  have new := le_trans (staged_fresh staged) artifact.new
  obtain ⟨inner, entered, leaf⟩ := readable_enter readable
  have at_target := staged_entered artifact.staged entered
  have gone : (written.unbind (below project target)).find (below project target) =
      .error .missing := by
    rw [Disk.unbind, Disk.find_alter _ _ _ at_target, Assoc.get_erase, if_pos rfl]
  have lost : ((written.unbind (below project target)).touch inode
      fun held => { held with links := held.links - 1 }).find (below project target) =
        .error .missing := gone
  refine ⟨rfl, rfl, ?_, [(backup, .file number)], _,
    pending_altered artifact.staged rfl ?_ (Entries.onlyAt_erase _) ⟨inner, entered, leaf⟩ ?_⟩
  · unfold view
    rw [lost]
    rfl
  · intro other below_
    have same := artifact.staged.inodes other below_
    by_cases hit : other = inode
    · subst hit
      simp only [Disk.touch_inodes_self, Disk.unbind, Disk.alter_inodes, same, and_self]
    · rw [Disk.touch_inodes_other _ _ hit, Disk.unbind, Disk.alter_inodes, same]
      exact ⟨rfl, rfl⟩
  · refine .saved backup number inode stat.mode original rfl rfl new ?_ rfl readable.found
      readable.content ?_ ?_
    · rw [Disk.touch_inodes_other _ _ (by omega), Disk.unbind, Disk.alter_inodes, artifact.holds]
    · rw [readable.stat]
    · refine .inr ((Disk.vacant_ok _ _).mpr ⟨_, Disk.enter_alter _ _ _ at_target, ?_⟩)
      rw [Assoc.get_erase, if_pos rfl]

theorem replace_keeps {saved : Files} {temporary : Name} {fresh : Nat} {replacement : ByteArray}
    (readable : Readable before project target stat original inode)
    (staged : Staged before made (.operation project token) [])
    (copy : Written before made saved (.operation project token) backup [] original 0o600 number)
    (artifact : Written before saved written (.operation project token) temporary
      ([] ++ [(backup, .file number)]) replacement stat.mode fresh) :
    Keeps before project token target (some (some (replacement, stat.mode)))
      ⟨project, operationDirectory .transactions project token, below project target,
        some ⟨.transactions, [.operation project token], backup⟩, false, some stat.mode, false⟩
      (((written.unbind ⟨.transactions, [.operation project token], temporary⟩).bind
        (below project target) (.file fresh)).unlinked (some (.file inode))) := by
  have known := Disk.find_below_fresh _ _ readable.found
  have new := le_trans (staged_fresh staged) copy.new
  have later := le_trans (staged_fresh copy.staged) artifact.new
  have number_below : number < saved.fresh := by
    have there : Assoc.get backup (([] : Entries Name) ++ [(backup, .file number)]) =
        some (.file number) := by
      rw [Assoc.get_concat _ _ _ _ copy.absent, if_pos rfl]
    exact Disk.find_below_fresh _ _ (staged_find copy.staged there)
  have apart := artifact.new
  obtain ⟨inner, entered, leaf⟩ := readable_enter readable
  have moved := staged_unbind artifact.staged temporary
  rw [Assoc.erase_concat _ _ _ artifact.absent] at moved
  have placed : (((written.unbind ⟨.transactions, [.operation project token], temporary⟩).bind
      (below project target) (.file fresh)).unlinked (some (.file inode))).find
        (below project target) = .ok (.file fresh) := by
    have there := Disk.find_alter _ _ (Assoc.set (below project target).name (Node.file fresh))
      (staged_entered moved entered)
    rw [Assoc.get_set, if_pos rfl] at there
    exact there
  refine ⟨rfl, rfl, ?_, [(backup, .file number)], _,
    pending_altered moved rfl ?_ (Entries.onlyAt_set _ fresh) ⟨inner, entered, leaf⟩ ?_⟩
  · unfold view
    rw [placed]
    have other : fresh ≠ inode := by omega
    simp only [Entries.shape, Option.map_some, Disk.unlinked, Disk.touch_inodes_other _ _ other]
    rw [Disk.bind, Disk.alter_inodes, Disk.unbind, Disk.alter_inodes, artifact.holds]
  · intro other below_
    have same := artifact.staged.inodes other below_
    by_cases hit : other = inode
    · subst hit
      simp only [Disk.unlinked, Disk.touch_inodes_self, Disk.bind, Disk.unbind, Disk.alter_inodes,
        same, and_self]
    · rw [Disk.unlinked, Disk.touch_inodes_other _ _ hit, Disk.bind, Disk.alter_inodes, Disk.unbind,
        Disk.alter_inodes, same]
      exact ⟨rfl, rfl⟩
  · refine .saved backup number inode stat.mode original rfl rfl new ?_ rfl readable.found
      readable.content ?_ ?_
    · rw [Disk.unlinked, Disk.touch_inodes_other _ _ (by omega), Disk.bind, Disk.alter_inodes,
        Disk.unbind, Disk.alter_inodes, artifact.others number number_below, copy.holds]
    · rw [readable.stat]
    · exact .inl ⟨fresh, placed, by omega⟩

theorem create_keeps {temporary : Name} {replacement : ByteArray}
    (creatable : Creatable before project target replacement)
    (free : before.vacant (below project target) = .ok ())
    (staged : Staged before made (.operation project token) [])
    (artifact : Written before made written (.operation project token) temporary [] replacement
      0o600 number) :
    Keeps before project token target (some (some (replacement, 0o600)))
      ⟨project, operationDirectory .transactions project token, below project target, none, true,
        none, false⟩
      ((((written.bind (below project target) (.file number)).touch number
        fun held => { held with links := held.links + 1 }).unbind
          ⟨.transactions, [.operation project token], temporary⟩).touch number
            fun held => { held with links := held.links - 1 }) := by
  have new := le_trans (staged_fresh staged) artifact.new
  obtain ⟨inner, entered, absent⟩ := (Disk.vacant_ok _ _).mp free
  rw [below_slot] at entered
  have moved := staged_unbind artifact.staged temporary
  rw [Assoc.erase_concat _ _ _ artifact.absent] at moved
  have top : ((((written.bind (below project target) (.file number)).touch number
      fun held => { held with links := held.links + 1 }).unbind
        ⟨.transactions, [.operation project token], temporary⟩).touch number
          fun held => { held with links := held.links - 1 }).top =
      ((written.unbind ⟨.transactions, [.operation project token], temporary⟩).alter
        (below project target).slot (below project target).path
          (Assoc.set (below project target).name (.file number))).top := by
    have apart : Slot.transactions ≠ (below project target).slot := below_ne target (by decide)
    have swapped := Disk.alter_comm written (below project target).path
      [.operation project token] (Assoc.set (below project target).name (.file number))
      (Assoc.erase temporary) (Ne.symm apart)
    have tops := congrArg Disk.top swapped
    exact tops
  have placed : ((((written.bind (below project target) (.file number)).touch number
      fun held => { held with links := held.links + 1 }).unbind
        ⟨.transactions, [.operation project token], temporary⟩).touch number
          fun held => { held with links := held.links - 1 }).find (below project target) =
            .ok (.file number) := by
    have there := Disk.find_alter _ _ (Assoc.set (below project target).name (Node.file number))
      (staged_entered moved entered)
    rw [Assoc.get_set, if_pos rfl] at there
    exact (Disk.find_congr (congrFun top _)).trans there
  refine ⟨rfl, rfl, ?_, [], _, pending_altered moved top ?_ (Entries.onlyAt_set _ number)
    ⟨inner, entered, fun other held => ?_⟩ (.created rfl rfl creatable.absent ⟨number, placed⟩)⟩
  · unfold view
    rw [placed]
    simp only [Entries.shape, Option.map_some, Disk.touch_inodes_self, Disk.unbind,
      Disk.alter_inodes, Disk.bind, artifact.holds]
  · intro other below_
    have different : other ≠ number := by omega
    rw [Disk.touch_inodes_other _ _ different, Disk.unbind, Disk.alter_inodes,
      Disk.touch_inodes_other _ _ different, Disk.bind, Disk.alter_inodes,
      artifact.staged.inodes other below_]
    exact ⟨rfl, rfl⟩
  · rw [absent] at held
    cases held

end Kept

section Operations

variable {host : Host} {project : UUID} {before : Files} {target : List PyStr} {stat : StatResult}
  {original : ByteArray} {inode : Nat}

theorem deleteFile_ends (relative : PyStr)
    (readable : Readable before project target stat original inode) :
    EndsFor host before project (.delete relative) target none
      (deleteFile host project target stat original before) := by
  unfold deleteFile
  rcases transactionArea_cases host project before with
    ⟨closed, e, run⟩ | ⟨opens, made, staged, ⟨lost, e, run⟩ | ⟨resolved, run⟩⟩
  · rw [run_error run]
    exact ends_closed closed
  · rw [run_error run]
    refine ends_unprepared opens (fun prepares => ?_) (staged_spoiled staged)
    rw [prepares.2.1] at lost
    cases lost
  · rw [run_ok run]
    rcases writeArtifact_cases host staged .backup original 0o600 with
      ⟨missing, e, left, run, spoiled⟩ | ⟨backup, written, number, drawn, run, artifact⟩
    · rw [run_error run]
      refine ends_unprepared opens (fun prepares => ?_) spoiled
      obtain ⟨name, drawn⟩ := draws_one.mp prepares.2.2
      rw [List.map_nil, drawn] at missing
      cases missing
    · have prepares : Prepares host before project (.delete relative) :=
        ⟨opens, resolved, draws_one.mpr ⟨backup, drawn⟩⟩
      have clean : ∀ e, Refused host before project target (.delete relative) →
          EndsFor host before project (.delete relative) target none
            (cleaning host project .backup backup e written) := by
        intro e refused
        apply unlink_ends prepares refused artifact.staged (by simp [Mutation.artifacts])
        intro working left kept
        rw [Assoc.erase_concat _ _ _ artifact.absent] at kept
        exact removeArea_ends prepares refused kept (by simpa [Mutation.artifacts]) e
      rw [run_ok run]
      rcases sameTarget_cases readable artifact.staged (host.faults (.sameTarget true)) with
        ⟨changed, check⟩ | ⟨seen, check⟩
      · rw [run_attempt (run_error check)]
        exact clean _ (.inl changed)
      · cases failing : host.faults .target .unlink with
        | true =>
            rw [run_attempt ((run_ok check).trans (change_fault _))]
            exact clean _ (.inr failing)
        | false =>
            have found := (staged_target artifact.staged).trans readable.found
            rw [run_attempt ((run_ok check).trans (change_ok (Disk.unlink_ok found)))]
            have allowed : ¬ Refused host before project target (.delete relative) := by
              simp [Refused, seen, failing]
            refine summary_ends prepares allowed Iff.rfl ?_ readable.text ⟨"", rfl⟩ ?_ ?_
            · exact root_alter target _ (staged_root artifact.staged readable.root)
                (readable_other readable)
            · apply staged_altered artifact.staged
              · exact Disk.alter_top_other _ _ _ (below_ne target (by decide))
              · have there := staged_area artifact.staged
                rw [Disk.touch_top, Disk.unbind,
                  Disk.alter_top_other _ _ _ (below_ne target (by decide)),
                  there]
                rfl
            · exact delete_keeps readable staged artifact

/-- `replace` and `patch`, which differ in what they check. -/
theorem replaceBytes_ends {mutation : Mutation} {replacement : ByteArray}
    (operation : MutationOperation) (writes : mutation.artifacts = [.backup, .temporary])
    (refusing : Refused host before project target mutation ↔
      host.faults (.sameTarget true) .lstat = true ∨ host.faults .target .rename = true)
    (finishing : Finishes host mutation ↔ Summarizes (host.faults .summary))
    (readable : Readable before project target stat original inode)
    (text : ∃ text, decode replacement = .ok text) :
    EndsFor host before project mutation target (some (some (replacement, stat.mode)))
      (replaceBytes host project target stat original replacement operation before) := by
  unfold replaceBytes
  rcases transactionArea_cases host project before with
    ⟨closed, e, run⟩ | ⟨opens, made, staged, ⟨lost, e, run⟩ | ⟨resolved, run⟩⟩
  · rw [run_error run]
    exact ends_closed closed
  · rw [run_error run]
    refine ends_unprepared opens (fun prepares => ?_) (staged_spoiled staged)
    rw [prepares.2.1] at lost
    cases lost
  · rw [run_ok run]
    rcases writeArtifact_cases host staged .backup original 0o600 with
      ⟨missing, e, left, run, spoiled⟩ | ⟨backup, saved, number, first, run, copy⟩
    · rw [run_error run]
      refine ends_unprepared opens (fun prepares => ?_) spoiled
      have draws := prepares.2.2
      rw [writes] at draws
      obtain ⟨name, _, first, _⟩ := draws_two.mp draws
      rw [List.map_nil, first] at missing
      cases missing
    · rw [run_ok run]
      rcases writeArtifact_cases host copy.staged .temporary replacement stat.mode with
        ⟨missing, e, left, run, spoiled⟩ | ⟨temporary, written, fresh, second, run, artifact⟩
      · rw [run_error run]
        refine ends_unprepared opens (fun prepares => ?_) spoiled
        have draws := prepares.2.2
        rw [writes] at draws
        obtain ⟨name, _, drawn, second⟩ := draws_two.mp draws
        rw [List.map_nil] at first
        rw [first] at drawn
        cases drawn
        rw [List.nil_append, List.map_cons, List.map_nil, second] at missing
        cases missing
      · have prepares : Prepares host before project mutation :=
          ⟨opens, resolved, by rw [writes]; exact draws_two.mpr ⟨_, _, first, second⟩⟩
        have clean : ∀ e, Refused host before project target mutation →
            EndsFor host before project mutation target (some (some (replacement, stat.mode)))
              ((unlinkMissingOk (host.faults (.discard .backup) .unlink)
                ⟨.transactions, [.operation project host.areaToken], backup⟩ >>= fun _ =>
                  unlinkMissingOk (host.faults (.discard .temporary) .unlink)
                    ⟨.transactions, [.operation project host.areaToken], temporary⟩ >>= fun _ =>
                      removeArea host project
                        (operationDirectory .transactions project host.areaToken) >>=
                          fun _ => raise e) written) := by
          intro e refused
          apply unlink_ends prepares refused artifact.staged (by simp [writes])
          intro backupGone left kept
          apply unlink_ends prepares refused kept (by simp [writes])
          intro temporaryGone rest emptied
          have nothing : Assoc.erase temporary (Assoc.erase backup
              (([] : Entries Name) ++ [(backup, .file number)] ++ [(temporary, .file fresh)])) =
                [] := by
            simp [Assoc.erase]
          rw [nothing] at emptied
          exact removeArea_ends prepares refused emptied
            (by rw [writes]; simp [backupGone, temporaryGone]) e
        rw [run_ok run]
        rcases sameTarget_cases readable artifact.staged (host.faults (.sameTarget true)) with
          ⟨changed, check⟩ | ⟨seen, check⟩
        · rw [run_attempt (run_error check)]
          exact clean _ (refusing.mpr (.inl changed))
        · cases failing : host.faults .target .rename with
          | true =>
              rw [run_attempt ((run_ok check).trans (change_fault _))]
              exact clean _ (refusing.mpr (.inr failing))
          | false =>
              have covered := (staged_target artifact.staged).trans readable.found
              have apart : Slot.transactions ≠ (below project target).slot :=
                below_ne target (by decide)
              have known := Disk.find_below_fresh _ _ readable.found
              have new := le_trans (staged_fresh copy.staged) artifact.new
              have there : Assoc.get temporary (([] : Entries Name) ++ [(backup, .file number)] ++
                  [(temporary, .file fresh)]) = some (.file fresh) := by
                rw [Assoc.get_concat _ _ _ _ artifact.absent, if_pos rfl]
              have moves := Disk.rename_file (staged_find artifact.staged there) covered apart
                (show fresh ≠ inode by omega)
              rw [run_attempt ((run_ok check).trans (change_ok moves))]
              have allowed : ¬ Refused host before project target mutation := by
                rw [refusing]
                simp [seen, failing]
              have moved := staged_unbind artifact.staged temporary
              refine summary_ends prepares allowed finishing ?_ readable.text text ?_ ?_
              · exact root_alter target _ (staged_root moved readable.root)
                  (readable_other readable)
              · apply staged_altered moved
                · exact Disk.alter_top_other _ _ _ (below_ne target (by decide))
                · have left := staged_area moved
                  rw [Disk.unlinked, Disk.touch_top, Disk.bind,
                    Disk.alter_top_other _ _ _ apart, left]
                  rfl
              · exact replace_keeps readable staged copy artifact

/-- A target that was created stays through the clean-up of the area. -/
theorem created_spoiled {altered after : Files} {area : Name}
    (absent : ∀ node, before.find (below project target) ≠ .ok node)
    (created : ∃ node, altered.find (below project target) = .ok node)
    (locks : altered.top .locks = before.top .locks)
    (same : ∀ slot, slot ≠ .transactions → after.top slot = altered.top slot) :
    Spoiled before after area where
  locks := (same .locks (by decide)).trans locks
  left := by
    obtain ⟨node, there⟩ := created
    refine .inr ⟨below project target, below_slot project target, absent, node, ?_⟩
    have kept : after.top (below project target).slot = altered.top (below project target).slot :=
      same _ (by rw [below_slot]; decide)
    rw [Disk.find_congr kept, there]

theorem find_bind {place : Place Slot Name} {disk : Files} (free : disk.vacant place = .ok ())
    (node : Node Name) : (disk.bind place node).find place = .ok node := by
  obtain ⟨inner, entered, _⟩ := (Disk.vacant_ok _ _).mp free
  refine (Disk.find_eq _ _ _).mpr ⟨Assoc.set place.name node inner, ?_, ?_⟩
  · rw [Disk.bind, Disk.alter_top_self, Entries.enter_alter, entered]
    rfl
  · rw [Assoc.get_set, if_pos rfl]

theorem createFile_ends {replacement : ByteArray} (relative content : PyStr)
    (creatable : Creatable before project target replacement) :
    EndsFor host before project (.create relative content) target
      (some (some (replacement, 0o600)))
      (createFile host project target replacement before) := by
  unfold createFile
  rcases transactionArea_cases host project before with
    ⟨closed, e, run⟩ | ⟨opens, made, staged, ⟨lost, e, run⟩ | ⟨resolved, run⟩⟩
  · rw [run_error run]
    exact ends_closed closed
  · rw [run_error run]
    refine ends_unprepared opens (fun prepares => ?_) (staged_spoiled staged)
    rw [prepares.2.1] at lost
    cases lost
  · rw [run_ok run]
    rcases writeArtifact_cases host staged .temporary replacement 0o600 with
      ⟨missing, e, left, run, spoiled⟩ | ⟨temporary, written, number, drawn, run, artifact⟩
    · rw [run_error run]
      refine ends_unprepared opens (fun prepares => ?_) spoiled
      obtain ⟨name, drawn⟩ := draws_one.mp prepares.2.2
      rw [List.map_nil, drawn] at missing
      cases missing
    · have prepares : Prepares host before project (.create relative content) :=
        ⟨opens, resolved, draws_one.mpr ⟨temporary, drawn⟩⟩
      have clean : ∀ e, Refused host before project target (.create relative content) →
          EndsFor host before project (.create relative content) target
            (some (some (replacement, 0o600)))
            (cleaning host project .temporary temporary e written) := by
        intro e refused
        apply unlink_ends prepares refused artifact.staged (by simp [Mutation.artifacts])
        intro working left kept
        rw [Assoc.erase_concat _ _ _ artifact.absent] at kept
        exact removeArea_ends prepares refused kept (by simpa [Mutation.artifacts]) e
      have same :
          written.top (below project target).slot = before.top (below project target).slot :=
        artifact.staged.elsewhere _ (by rw [below_slot]; decide)
      have vacancy : written.vacant (below project target) = before.vacant
          (below project target) := by
        unfold Disk.vacant
        rw [same]
      have there : Assoc.get temporary (([] : Entries Name) ++ [(temporary, .file number)]) =
          some (.file number) := by
        rw [Assoc.get_concat _ _ _ _ artifact.absent, if_pos rfl]
      have found := staged_find artifact.staged there
      rw [run_ok run]
      cases failing : host.faults .target .link with
      | true =>
          rw [run_attempt (run_error (change_fault _))]
          exact clean _ (.inl failing)
      | false =>
          cases free : written.vacant (below project target) with
          | error error =>
              have refused : written.link ⟨.transactions, [.operation project host.areaToken],
                  temporary⟩ (below project target) = .error error := by
                simp [Disk.link, found, free, bind, Except.bind]
              have reason : Refused host before project target (.create relative content) := by
                refine .inr ?_
                rw [← vacancy, free]
                simp
              rw [run_attempt (run_error (change_error refused))]
              exact clean _ reason
          | ok _ =>
              have links := Disk.link_ok found free
              have allowed : ¬ Refused host before project target (.create relative content) := by
                rintro (lost | taken)
                · rw [failing] at lost
                  cases lost
                · exact taken (vacancy ▸ free)
              have different : below project target ≠ projectChild .projects project := by
                intro same
                obtain ⟨entries, held⟩ := creatable.root
                rw [← same] at held
                exact creatable.absent _ held
              have apart : Slot.transactions ≠ (below project target).slot :=
                below_ne target (by decide)
              have locks : (written.bind (below project target) (.file number)).top .locks =
                  before.top .locks :=
                (Disk.alter_top_other _ _ _ (below_ne target (by decide))).trans
                  (artifact.staged.elsewhere .locks (by decide))
              cases lost : host.faults .linked .unlink with
              | true =>
                  rw [run_attempt ((run_ok (change_ok links)).trans (change_fault _))]
                  show EndsFor host before project (.create relative content) target
                    (some (some (replacement, 0o600)))
                    (cleaning host project .temporary temporary mutationFailed _)
                  obtain ⟨raised, left, run⟩ :=
                    cleaning_raises host project .temporary temporary mutationFailed
                      ((written.bind (below project target) (.file number)).touch number
                        fun held => { held with links := held.links + 1 })
                  have confined :=
                    confined_cleaning host project .temporary temporary mutationFailed
                    ((written.bind (below project target) (.file number)).touch number
                      fun held => { held with links := held.links + 1 })
                  rw [run] at confined ⊢
                  refine ends_unfinished prepares allowed ?_
                    (created_spoiled creatable.absent ⟨_, find_bind free _⟩ locks confined)
                  intro finishes
                  rw [finishes.1] at lost
                  cases lost
              | false =>
                  have moved := staged_unbind artifact.staged temporary
                  have areas : ((written.bind (below project target) (.file number)).touch number
                      fun held => { held with links := held.links + 1 }).top .transactions =
                        written.top .transactions :=
                    Disk.alter_top_other _ _ _ apart
                  have linked := (Disk.find_congr areas).trans found
                  rw [run_attempt ((run_ok (change_ok links)).trans
                    (change_ok (Disk.unlink_ok linked)))]
                  refine summary_ends prepares allowed
                    ⟨fun finishes => finishes.2, fun summarizes => ⟨lost, summarizes⟩⟩ ?_
                    ⟨"", rfl⟩ creatable.text ?_ ?_
                  · obtain ⟨entries, held⟩ := root_alter target
                      (Assoc.set (below project target).name (.file number))
                      (staged_root artifact.staged creatable.root) different
                    have other : Slot.projects ≠ Slot.transactions := by decide
                    have kept := Disk.find_unbind_other
                      ((written.bind (below project target) (.file number)).touch number
                        fun held => { held with links := held.links + 1 })
                      ⟨.transactions, [.operation project host.areaToken], temporary⟩
                      (show (projectChild .projects project).slot ≠ _ from other)
                    exact ⟨entries, kept.trans held⟩
                  · apply staged_altered moved
                    · have other : Slot.locks ≠ Slot.transactions := by decide
                      rw [Disk.touch_top, Disk.unbind, Disk.alter_top_other _ _ _ other,
                        Disk.unbind, Disk.alter_top_other _ _ _ other]
                      exact locks.trans (artifact.staged.elsewhere .locks (by decide)).symm
                    · have left := staged_area moved
                      rw [Disk.unbind, Disk.alter_top_self] at left
                      rw [Disk.touch_top, Disk.unbind, Disk.alter_top_self, areas, left]
                      rfl
                  · exact create_keeps creatable (vacancy ▸ free) staged artifact

end Operations

end SynapseOS.Mutations
