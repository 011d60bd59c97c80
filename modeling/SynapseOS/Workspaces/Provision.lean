import SynapseOS.Workspaces.Cleanup

/-! A provisioning that raises leaves no trace, unless it has promoted its tree and cannot hide it
again. -/

namespace SynapseOS.Workspaces

open Tools Execution Program

def Provisioning.entries (request : Provisioning) : Entries Name :=
  match request.populate with
  | none => []
  | some population => population.entries

def Provisioning.outcome (request : Provisioning) : Except Raised Unit :=
  match request.populate with
  | none => .ok ()
  | some population => population.outcome

def populated (disk : Files) (project : UUID) (token : String) (request : Provisioning) : Files :=
  let made := disk.bind (operationDirectory .staging project token) (.directory [])
  match request.populate with
  | none => made
  | some population =>
      { made.alter .staging [.operation project token] fun _ => population.entries with
        inodes := fun inode =>
          if inode < made.fresh then disk.inodes inode else population.files inode }

def promoted (disk : Files) (project : UUID) (token : String) (entries : Entries Name) : Files :=
  (disk.unbind (operationDirectory .staging project token)).bind (projectChild .projects project)
    (.directory entries)

section Stages

variable {disk : Files} {project : UUID} {token : String} {request : Provisioning}

structure Staging (before after : Files) (project : UUID) (token : String)
    (entries : Entries Name) : Prop where
  fresh : Assoc.get (.operation project token) (before.top .staging) = none
  tree : after.top .staging =
    before.top .staging ++ [(.operation project token, .directory entries)]
  elsewhere : ∀ slot, slot ≠ .staging → after.top slot = before.top slot
  files : ∀ inode < before.fresh, after.inodes inode = before.inodes inode

theorem made_staging (free : Assoc.get (.operation project token) (disk.top .staging) = none) :
    Staging disk (disk.bind (operationDirectory .staging project token) (.directory [])) project
      token [] where
  fresh := free
  tree := bind_direct free
  elsewhere _ different := Disk.alter_top_other _ _ _ different
  files _ _ := rfl

theorem staging_fresh {before after : Files} {entries : Entries Name}
    (staging : Staging before after project token entries) : before.fresh ≤ after.fresh := by
  apply Disk.fresh_mono
  intro slot
  by_cases same : slot = .staging
  · rw [same, staging.tree, Entries.bound_append]
    exact le_max_left _ _
  · rw [staging.elsewhere slot same]

theorem populated_staging
    (free : Assoc.get (.operation project token) (disk.top .staging) = none) :
    Staging disk (populated disk project token request) project token request.entries := by
  have made := made_staging free
  unfold populated Provisioning.entries
  cases request.populate with
  | none => exact made
  | some population =>
      have tree : ((disk.bind (operationDirectory .staging project token) (.directory [])).alter
          .staging [.operation project token] fun _ => population.entries).top .staging =
            disk.top .staging ++ [(.operation project token, .directory population.entries)] := by
        rw [Disk.alter_top_self, made.tree, Entries.alter_last _ free]
      refine ⟨free, tree, ?_, ?_⟩
      · intro slot different
        have same := Disk.alter_top_other
          (disk.bind (operationDirectory .staging project token) (.directory []))
          [.operation project token] (fun _ => population.entries) different
        exact same.trans (made.elsewhere slot different)
      · intro inode known
        exact if_pos (lt_of_lt_of_le known (staging_fresh made))

theorem staging_held {before after : Files} {entries : Entries Name}
    (staging : Staging before after project token entries) :
    Assoc.get (.operation project token) (after.top .staging) = some (.directory entries) := by
  rw [staging.tree, Assoc.get_concat _ _ _ _ staging.fresh, if_pos rfl]

structure Promoted (before after : Files) (project : UUID) (entries : Entries Name) : Prop where
  fresh : Assoc.get (.project project) (before.top .projects) = none
  root : after.top .projects = before.top .projects ++ [(.project project, .directory entries)]
  elsewhere : ∀ slot, slot ≠ .projects → after.top slot = before.top slot
  files : ∀ inode < before.fresh, after.inodes inode = before.inodes inode

theorem staging_promoted {before after : Files} {entries : Entries Name}
    (staging : Staging before after project token entries)
    (free : Assoc.get (.project project) (before.top .projects) = none) :
    Promoted before (promoted after project token entries) project entries := by
  have apart : Slot.projects ≠ Slot.staging := by decide
  have same : (after.unbind (operationDirectory .staging project token)).top .projects =
      before.top .projects := by
    rw [Disk.unbind, operationDirectory, Disk.alter_top_other _ _ _ apart,
      staging.elsewhere .projects apart]
  have there : Assoc.get (.project project)
      ((after.unbind (operationDirectory .staging project token)).top .projects) = none := by
    rw [same, free]
  have bound : (promoted after project token entries).top .projects =
      (after.unbind (operationDirectory .staging project token)).top .projects ++
        [(.project project, .directory entries)] := bind_direct there
  refine ⟨free, bound.trans (by rw [same]), ?_, staging.files⟩
  intro slot different
  rw [promoted, Disk.bind, projectChild, Disk.alter_top_other _ _ _ different]
  by_cases own : slot = .staging
  · rw [own]
    exact unbind_direct staging.tree staging.fresh
  · rw [Disk.unbind, operationDirectory, Disk.alter_top_other _ _ _ own,
      staging.elsewhere slot own]

theorem promoted_held {before after : Files} {entries : Entries Name}
    (promoted : Promoted before after project entries) :
    Assoc.get (.project project) (after.top .projects) = some (.directory entries) := by
  rw [promoted.root, Assoc.get_concat _ _ _ _ promoted.fresh, if_pos rfl]

end Stages

section Conditions

variable (host : ManagerHost) (disk : Files) (project : UUID) (audit : WorkspaceAuditContext)
  (request : Provisioning)

def Promotes (usage : WorkspaceResourceUsage) : Prop :=
  Opens (host.faults .staging) .staging disk project host.stagingToken ∧
    host.faults .staging .resolve = false ∧
    request.outcome = .ok () ∧
    Reaches (host.faults (.usage [])) ∧
    (usageVisitor host.limits (fun path => host.faults (.usage path))
      (populated disk project host.stagingToken request)).run {} [⟨[], 0, request.entries⟩] =
        .ok usage ∧
    Reaches (host.faults (.promote .source)) ∧
    host.faults (.promote .present) .lstat = false ∧
    Assoc.get (.project project) (disk.top .projects) = none ∧
    host.faults (.promote .moved) .rename = false

def provisionRecord (usage : WorkspaceResourceUsage) : WorkspaceAuditRecord :=
  { context := audit
    projectId := project
    operation := request.operation
    result := .succeeded
    data :=
      { provenance := some request.provenance
        durationMs := durationMs host
        entryCount := some usage.entryCount
        totalBytes := some usage.totalBytes } }

def Validates : Prop :=
  host.faults .workspace .resolve = false ∧ host.faults .workspace .isDir = false

def Concludes (usage : WorkspaceResourceUsage) : Prop :=
  host.faults (.promote .moved) .resolve = false ∧
    (Validates host ∧ host.record (provisionRecord host project audit request usage) = .ok () ∨
      Hides (fun site => host.faults (.trash site)) disk project host.trashToken ∧
        ¬ (Validates host ∧
          host.record (provisionRecord host project audit request usage) = .error .fatal))

/-- The request or its lock is refused; or the lock can be released, and a tree that was promoted
is announced or hidden again. -/
def Compensable : Prop :=
  audit.projectId ≠ project ∨ host.faults .acquireLock .mkdir = true ∨ ¬ LockFree disk project ∨
    Releases (host.faults .releaseLock) ∧
      ∀ usage, Promotes host disk project request usage →
        Concludes host disk project audit request usage

end Conditions

section Saga

variable {host : ManagerHost} {project : UUID} {audit : WorkspaceAuditContext}
  {request : Provisioning} {disk after : Files} {records : List WorkspaceAuditRecord} {α : Type}

theorem atDesk_run {body : Program Desk Raised α} {outcome : Except Raised α} {desk last : Desk}
    {staging : Option (Place Slot Name)} {promoted : Bool} (run : body desk = (outcome, last)) :
    atDesk body ⟨desk, staging, promoted⟩ = (outcome, ⟨last, staging, promoted⟩) := by
  unfold atDesk within
  simp [run]

theorem populateStaging_run :
    populateStaging (operationDirectory .staging project host.stagingToken) request.populate
        ⟨disk.bind (operationDirectory .staging project host.stagingToken) (.directory []),
          records⟩ =
      (request.outcome, ⟨populated disk project host.stagingToken request, records⟩) := by
  unfold populateStaging populated Provisioning.outcome
  cases request.populate with
  | none => rfl
  | some population =>
      dsimp only
      rw [update_run]
      cases population.outcome with
      | ok done => rfl
      | error e => rfl

inductive Provisions (host : ManagerHost) (project : UUID) (audit : WorkspaceAuditContext)
    (request : Provisioning) (disk : Files) (records : List WorkspaceAuditRecord) :
    Except Raised Workspace × Saga → Prop
  | unstaged (e : Raised) (left : Files)
      (missed : ∀ usage, ¬ Promotes host disk project request usage)
      (same : ∀ slot, slot ≠ .staging → left.top slot = disk.top slot)
      (files : ∀ inode < disk.fresh, left.inodes inode = disk.inodes inode) :
      Provisions host project audit request disk records
        (.error e, ⟨⟨left, records⟩, none, false⟩)
  | staged (e : Raised) (left : Files) (entries : Entries Name)
      (missed : ∀ usage, ¬ Promotes host disk project request usage)
      (staging : Staging disk left project host.stagingToken entries) :
      Provisions host project audit request disk records
        (.error e, ⟨⟨left, records⟩,
          some (operationDirectory .staging project host.stagingToken), false⟩)
  | unresolved (left : Files) (usage : WorkspaceResourceUsage)
      (holds : Promotes host disk project request usage)
      (lost : host.faults (.promote .moved) .resolve = true)
      (promoted : Promoted disk left project request.entries) :
      Provisions host project audit request disk records
        (.error unsafe_, ⟨⟨left, records⟩,
          some (operationDirectory .staging project host.stagingToken), false⟩)
  | invalid (left : Files) (usage : WorkspaceResourceUsage)
      (holds : Promotes host disk project request usage)
      (resolved : host.faults (.promote .moved) .resolve = false) (refused : ¬ Validates host)
      (promoted : Promoted disk left project request.entries) :
      Provisions host project audit request disk records
        (.error .valueError, ⟨⟨left, records⟩, none, true⟩)
  | unannounced (e : Raised) (left : Files) (usage : WorkspaceResourceUsage)
      (holds : Promotes host disk project request usage)
      (resolved : host.faults (.promote .moved) .resolve = false) (validates : Validates host)
      (raised : host.record (provisionRecord host project audit request usage) = .error e)
      (promoted : Promoted disk left project request.entries) :
      Provisions host project audit request disk records
        (.error e, ⟨⟨left, records ++ [provisionRecord host project audit request usage]⟩,
          none, true⟩)
  | announced (workspace : Workspace) (left : Files) (usage : WorkspaceResourceUsage)
      (holds : Promotes host disk project request usage)
      (resolved : host.faults (.promote .moved) .resolve = false) (validates : Validates host)
      (accepted : host.record (provisionRecord host project audit request usage) = .ok ())
      (promoted : Promoted disk left project request.entries) :
      Provisions host project audit request disk records
        (.ok workspace, ⟨⟨left, records ++ [provisionRecord host project audit request usage]⟩,
          none, true⟩)

section Promote

variable {faults : TreeCalls} {token : String} {entries : Entries Name}
  (staging : Staging disk after project token entries)

include staging

theorem promote_source (reaches : Reaches (faults .source)) :
    requireOperationDirectory (faults .source) (operationDirectory .staging project token) .staging
      project after = (.ok (operationDirectory .staging project token), after) := by
  have direct : requireDirectDirectory (faults .source) (operationDirectory .staging project token)
      .staging after = (.ok (operationDirectory .staging project token), after) :=
    direct_passes reaches (staging_held staging)
  unfold requireOperationDirectory
  rw [run_ok direct]
  simp [operationDirectory]

theorem promote_moves (reaches : Reaches (faults .source)) (seen : faults .present .lstat = false)
    (free : Assoc.get (.project project) (disk.top .projects) = none)
    (works : faults .moved .rename = false) :
    promote faults project (operationDirectory .staging project token) after =
      (if faults .moved .resolve = true then .error unsafe_
        else .ok (projectChild .projects project), promoted after project token entries) := by
  have apart : Slot.staging ≠ Slot.projects := by decide
  have absent : Assoc.get (.project project) (after.top .projects) = none := by
    rw [staging.elsewhere .projects (Ne.symm apart), free]
  have missing : after.find (projectChild .projects project) = .error .missing := find_fresh absent
  have found : after.find (operationDirectory .staging project token) = .ok (.directory entries) :=
    find_direct (staging_held staging)
  have moved : after.rename (operationDirectory .staging project token)
      (projectChild .projects project) = .ok (promoted after project token entries) :=
    Disk.rename_directory found rfl (.inl absent) apart
  have shown : (promoted after project token entries).find (projectChild .projects project) =
      .ok (.directory entries) := find_direct (promoted_held (staging_promoted staging free))
  unfold promote
  rw [run_ok (promote_source staging reaches), seen, works, run_attempt (ask_error missing)]
  dsimp only
  cases resolved : faults .moved .resolve with
  | true =>
      have raises :
        ((change false fun disk => disk.rename (operationDirectory .staging project token)
          (projectChild .projects project)) >>= fun _ =>
            ask true (strictly (projectChild .projects project))) after =
              (.error (.os .fault), promoted after project token entries) :=
        (run_ok (change_ok moved)).trans (ask_fault _)
      rw [run_attempt raises, if_pos rfl]
      rfl
  | false =>
      have returns :
        ((change false fun disk => disk.rename (operationDirectory .staging project token)
          (projectChild .projects project)) >>= fun _ =>
            ask false (strictly (projectChild .projects project))) after =
              (.ok (), promoted after project token entries) :=
        (run_ok (change_ok moved)).trans (ask_ok (strictly_found shown))
      rw [run_attempt returns, if_neg Bool.false_ne_true]
      rfl

theorem promote_refused (refused : ¬ (Reaches (faults .source) ∧ faults .present .lstat = false ∧
    Assoc.get (.project project) (disk.top .projects) = none ∧ faults .moved .rename = false)) :
    ∃ e, promote faults project (operationDirectory .staging project token) after =
      (.error e, after) := by
  have same : after.top .projects = disk.top .projects := staging.elsewhere .projects (by decide)
  unfold promote
  by_cases reaches : Reaches (faults .source)
  · rw [run_ok (promote_source staging reaches)]
    cases seen : faults .present .lstat with
    | true =>
        rw [run_attempt (ask_fault _)]
        exact ⟨_, rfl⟩
    | false =>
        cases held : Assoc.get (.project project) (disk.top .projects) with
        | some node =>
            have found : after.find (projectChild .projects project) = .ok node := by
              apply find_direct
              rw [same, held]
            rw [run_attempt (ask_ok found)]
            exact ⟨_, rfl⟩
        | none =>
            have missing : after.find (projectChild .projects project) = .error .missing := by
              apply find_fresh
              rw [same, held]
            have stuck : faults .moved .rename = true := by
              by_contra works
              exact refused ⟨reaches, seen, held, Bool.eq_false_iff.mpr works⟩
            rw [run_attempt (ask_error missing), stuck]
            exact ⟨_, rfl⟩
  · have nowhere : requireOperationDirectory (faults .source)
        (operationDirectory .staging project token) .staging project after =
          (.error unsafe_, after) :=
      run_error (direct_refused fun direct => reaches direct.1)
    rw [run_error nowhere]
    exact ⟨_, rfl⟩

end Promote

section Body

variable (opens : Opens (host.faults .staging) .staging disk project host.stagingToken)
  (resolved : host.faults .staging .resolve = false)

include opens resolved

theorem populate_provisions :
    Provisions host project audit request disk records
      ((do
        atDesk (populateStaging (operationDirectory .staging project host.stagingToken)
          request.populate)
        let usage ← atDesk (atBase (scanUsage host.limits (fun path => host.faults (.usage path))
          (operationDirectory .staging project host.stagingToken)))
        let root ← atDesk (atBase (promote (fun site => host.faults (.promote site)) project
          (operationDirectory .staging project host.stagingToken)))
        update fun saga => { saga with staging := none, promoted := true }
        let workspace ← atDesk (atBase
          (newWorkspace (host.faults .workspace) project root request.provenance))
        atDesk (submit host (provisionRecord host project audit request usage))
        pure workspace : Program Saga Raised Workspace)
          ⟨⟨disk.bind (operationDirectory .staging project host.stagingToken) (.directory []),
            records⟩, some (operationDirectory .staging project host.stagingToken), false⟩) := by
  have staging : Staging disk (populated disk project host.stagingToken request) project
      host.stagingToken request.entries := populated_staging opens.2
  have held := staging_held staging
  have populates : populateStaging (operationDirectory .staging project host.stagingToken)
      request.populate ⟨disk.bind (operationDirectory .staging project host.stagingToken)
        (.directory []), records⟩ = (request.outcome, ⟨_, records⟩) := populateStaging_run
  cases outcome : request.outcome with
  | error e =>
      rw [outcome] at populates
      rw [run_error (atDesk_run populates)]
      refine .staged _ _ _ ?_ staging
      intro usage promotes
      rw [promotes.2.2.1] at outcome
      cases outcome
  | ok done =>
      rw [outcome] at populates
      rw [run_ok (atDesk_run populates)]
      by_cases scans : Reaches (host.faults (.usage [])) ∧ ∃ usage,
          (usageVisitor host.limits (fun path => host.faults (.usage path))
            (populated disk project host.stagingToken request)).run {} [⟨[], 0, request.entries⟩] =
              .ok usage
      · obtain ⟨reaches, usage, passed⟩ := scans
        have scanned : scanUsage host.limits (fun path => host.faults (.usage path))
            (operationDirectory .staging project host.stagingToken)
              (populated disk project host.stagingToken request) =
                (.ok usage, populated disk project host.stagingToken request) :=
          scanUsage_passes held (by decide) reaches passed
        rw [run_ok (atDesk_run (atBase_run scanned))]
        by_cases moves : Reaches (host.faults (.promote .source)) ∧
            host.faults (.promote .present) .lstat = false ∧
              Assoc.get (.project project) (disk.top .projects) = none ∧
                host.faults (.promote .moved) .rename = false
        · obtain ⟨source, seen, free, works⟩ := moves
          have holds : Promotes host disk project request usage :=
            ⟨opens, resolved, outcome, reaches, passed, source, seen, free, works⟩
          have there := staging_promoted staging free
          have moved : promote (fun site => host.faults (.promote site)) project
              (operationDirectory .staging project host.stagingToken)
                (populated disk project host.stagingToken request) =
                  (if host.faults (.promote .moved) .resolve = true then .error unsafe_
                    else .ok (projectChild .projects project),
                    promoted (populated disk project host.stagingToken request) project
                      host.stagingToken request.entries) :=
            promote_moves staging source seen free works
          cases lost : host.faults (.promote .moved) .resolve with
          | true =>
              rw [lost, if_pos rfl] at moved
              rw [run_error (atDesk_run (atBase_run moved))]
              exact .unresolved _ usage holds lost there
          | false =>
              rw [lost, if_neg Bool.false_ne_true] at moved
              rw [run_ok (atDesk_run (atBase_run moved)), update_run]
              by_cases validates : Validates host
              · have valid : newWorkspace (host.faults .workspace) project
                    (projectChild .projects project) request.provenance
                      (promoted (populated disk project host.stagingToken request) project
                        host.stagingToken request.entries) = (.ok _, _) :=
                  newWorkspace_passes validates.1 validates.2 (promoted_held there)
                rw [run_ok (atDesk_run (atBase_run valid))]
                cases told : host.record (provisionRecord host project audit request usage) with
                | error e =>
                    rw [run_error (atDesk_run ((submit_run _).trans (Prod.ext told rfl)))]
                    exact .unannounced e _ usage holds lost validates told there
                | ok answer =>
                    rw [run_ok (atDesk_run ((submit_run _).trans (Prod.ext told rfl)))]
                    exact .announced _ _ usage holds lost validates told there
              · have invalid : newWorkspace (host.faults .workspace) project
                    (projectChild .projects project) request.provenance
                      (promoted (populated disk project host.stagingToken request) project
                        host.stagingToken request.entries) = (.error .valueError, _) :=
                  newWorkspace_refused validates (promoted_held there)
                rw [run_error (atDesk_run (atBase_run invalid))]
                exact .invalid _ usage holds lost validates there
        · obtain ⟨e, stays⟩ : ∃ e, promote (fun site => host.faults (.promote site)) project
              (operationDirectory .staging project host.stagingToken)
                (populated disk project host.stagingToken request) =
                  (.error e, populated disk project host.stagingToken request) :=
            promote_refused staging moves
          rw [run_error (atDesk_run (atBase_run stays))]
          refine .staged _ _ _ ?_ staging
          intro usage promotes
          obtain ⟨_, _, _, _, _, rest⟩ := promotes
          exact moves rest
      · obtain ⟨e, scanned⟩ : ∃ e, scanUsage host.limits (fun path => host.faults (.usage path))
            (operationDirectory .staging project host.stagingToken)
              (populated disk project host.stagingToken request) =
                (.error e, populated disk project host.stagingToken request) :=
          scanUsage_refused held (by decide) scans
        rw [run_error (atDesk_run (atBase_run scanned))]
        refine .staged _ _ _ ?_ staging
        intro usage promotes
        obtain ⟨_, _, _, reaches, passed, _⟩ := promotes
        exact scans ⟨reaches, usage, passed⟩

end Body

theorem provisionWorkspace_provisions :
    Provisions host project audit request disk records
      (provisionWorkspace host project audit request ⟨⟨disk, records⟩, none, false⟩) := by
  unfold provisionWorkspace
  by_cases opens : Opens (host.faults .staging) .staging disk project host.stagingToken
  · have made := createOperationDirectory_made opens
    cases resolved : host.faults .staging .resolve with
    | true =>
        rw [resolved, if_pos rfl] at made
        rw [run_error (atDesk_run (atBase_run made))]
        refine .unstaged _ _ ?_ ?_ ?_
        · intro usage promotes
          rw [promotes.2.1] at resolved
          cases resolved
        · exact (made_staging opens.2).elsewhere
        · exact (made_staging opens.2).files
    | false =>
        rw [resolved, if_neg Bool.false_ne_true] at made
        rw [run_ok (atDesk_run (atBase_run made)), update_run]
        exact populate_provisions opens resolved
  · rw [run_error (atDesk_run (atBase_run (createOperationDirectory_refused opens)))]
    refine .unstaged _ disk ?_ (fun _ _ => rfl) (fun _ _ => rfl)
    intro usage promotes
    exact opens promotes.1

end Saga

end SynapseOS.Workspaces
