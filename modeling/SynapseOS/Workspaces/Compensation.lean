import SynapseOS.Workspaces.Provision

/-! The compensation of a provisioning, and when it leaves no trace of one that raises. -/

namespace SynapseOS.Workspaces

open Tools Execution Program

structure Aside (slot : Slot) (before after : Files) : Prop where
  outside : Outside slot before after
  files : SameFiles before after

section Aside

variable {slot : Slot}

theorem aside_refl (disk : Files) : Aside slot disk disk := ⟨outside_refl disk, sameFiles_refl disk⟩

theorem aside_trans (before middle after : Files) (first : Aside slot before middle)
    (second : Aside slot middle after) : Aside slot before after :=
  ⟨outside_trans _ _ _ first.outside second.outside, sameFiles_trans first.files second.files⟩

theorem aside_removeAt (faults : TreeFaults) (limit : Nat) (place : Place Slot Name) :
    Keeps (Aside place.slot) (removeAt faults limit place) := by
  intro disk
  refine ⟨confined_removeAt faults limit place disk, ?_⟩
  unfold removeAt
  split
  · exact sameFiles_refl disk
  · dsimp only
    split
    · exact sameFiles_counted _ disk
    · exact sameFiles_counted _ disk
  · exact sameFiles_refl disk

theorem removeAt_returned {faults : TreeFaults} {limit : Nat} {place : Place Slot Name}
    {disk after : Files} (run : removeAt faults limit place disk = (.ok (), after)) :
    after.top = (disk.unbind place).top := by
  unfold removeAt at run
  split at run
  · cases run
  · dsimp only at run
    split at run
    · cases run
      unfold Disk.unbind Disk.alter
      rw [counted_top]
    · cases run
  · cases run

theorem still_walk {σ : Type} (visitor : Files → Visitor σ Raised Name) (state : σ)
    (place : Place Slot Name) : Still (walk visitor state place) := by
  intro disk
  unfold walk
  split <;> rfl

theorem still_validate (faults : TreeFaults) (place : Place Slot Name) :
    Still (validateCompensationTree faults place) :=
  still_bind (still_walk _ _ _) fun _ => still_pure _

theorem still_scanUsage (limits : WorkspaceLimits) (faults : TreeFaults) (place : Place Slot Name) :
    Still (scanUsage limits faults place) := by
  apply still_bind
  · apply still_ite
    · exact still_requireDirectDirectory _ _ _
    · exact still_raise _
  · intro found
    exact still_orRaise (still_walk _ _ _) _

theorem aside_removal {α : Type} {check : Program Files Raised α} (still : Still check)
    (faults : TreeFaults) (limit : Nat) (place : Place Slot Name) :
    Keeps (Aside place.slot)
      (orRaise (check >>= fun _ => removeAt faults limit place) cleanupFailed) := by
  apply keeps_orRaise aside_refl aside_trans
  apply keeps_bind aside_trans (keeps_still aside_refl still)
  intro _
  exact aside_removeAt faults limit place

theorem requireRemovableTree_returned {faults : TreeCalls} {slots : List Slot}
    {target found : Place Slot Name} {disk after : Files}
    (run : requireRemovableTree faults slots target disk = (.ok found, after)) :
    found = target ∧ after = disk := by
  unfold requireRemovableTree at run
  split at run
  · obtain ⟨same, named, _⟩ := requireDirectDirectory_returned run
    exact ⟨named, same.symm⟩
  · cases run

theorem still_requireRemovableTree (faults : TreeCalls) (slots : List Slot)
    (target : Place Slot Name) : Still (requireRemovableTree faults slots target) := by
  apply still_ite
  · exact still_requireDirectDirectory _ _ _
  · exact still_raise _

theorem aside_owned {faults : TreeCalls} {slots : List Slot}
    {removal : Place Slot Name → Program Files Raised Unit} (target : Place Slot Name)
    (removes : Keeps (Aside target.slot) (removal target)) :
    Keeps (Aside target.slot) (requireRemovableTree faults slots target >>= removal) := by
  intro disk
  rcases run : requireRemovableTree faults slots target disk with ⟨e | found, seen⟩
  · have still := still_requireRemovableTree faults slots target disk
    rw [run] at still
    rw [run_error run, still]
    exact aside_refl disk
  · obtain ⟨rfl, rfl⟩ := requireRemovableTree_returned run
    rw [run_ok run]
    exact removes seen

theorem aside_discard (faults : TreeCalls) (target : Place Slot Name) :
    Keeps (Aside target.slot) (discardStagingTree faults target) :=
  aside_owned target (aside_removal (still_validate _ _) _ _ _)

theorem aside_removeOwnedTree (limits : WorkspaceLimits) (faults : TreeCalls)
    (target : Place Slot Name) : Keeps (Aside target.slot) (removeOwnedTree limits faults target) :=
  aside_owned target (aside_removal (still_scanUsage _ _ _) _ _ _)

theorem discard_returned {faults : TreeCalls} {target : Place Slot Name} {disk after : Files}
    (run : discardStagingTree faults target disk = (.ok (), after)) :
    after.top = (disk.unbind target).top := by
  obtain ⟨found, seen, checked, rest⟩ := run_returned run
  obtain ⟨rfl, rfl⟩ := requireRemovableTree_returned checked
  obtain ⟨_, middle, surveyed, removed⟩ := run_returned (orRaise_returned rest)
  have same := still_validate (fun path => faults (.measured path)) found seen
  rw [surveyed] at same
  cases same
  exact removeAt_returned removed

end Aside

section Compensate

variable {host : ManagerHost} {project : UUID} {disk left : Files} {entries : Entries Name}
  {records : List WorkspaceAuditRecord}

theorem compensate_nothing (desk : Desk) :
    compensate host project none false desk = (.ok false, desk) := rfl

theorem compensate_answers {staging : Option (Place Slot Name)} {promoted : Bool}
    {desk after : Desk} {outcome : Except Raised Bool}
    (run : undo host project staging promoted desk = (outcome, after)) :
    ∃ answer, compensate host project staging promoted desk = (answer, after) ∧
      (answer = .ok true → outcome = .ok true) := by
  unfold compensate
  rw [run_attempt run]
  rcases outcome with e | cleaned
  · cases e with
    | workspace code message => exact ⟨_, rfl, nofun⟩
    | os | tool | valueError | otherError | cancelled | fatal => exact ⟨_, rfl, nofun⟩
  · exact ⟨_, rfl, id⟩

/-- A staging tree is discarded, or reported as left. -/
theorem compensate_staged (staging : Staging disk left project host.stagingToken entries) :
    ∃ answer after, compensate host project
        (some (operationDirectory .staging project host.stagingToken)) false ⟨left, records⟩ =
          (answer, ⟨after, records⟩) ∧
      Aside .staging left after ∧
        (answer = .ok true → after.top .staging = disk.top .staging) := by
  have found : left.find (operationDirectory .staging project host.stagingToken) =
      .ok (.directory entries) := find_direct (staging_held staging)
  have shown : present (operationDirectory .staging project host.stagingToken) left =
      .ok (some (.directory entries)) := by
    simp [present, found, Except.toOption]
  have aside : Aside .staging left _ := aside_discard (fun site => host.faults (.discard site))
    (operationDirectory .staging project host.stagingToken) left
  obtain ⟨outcome, after, run, aside, gone⟩ : ∃ outcome after, undo host project
      (some (operationDirectory .staging project host.stagingToken)) false ⟨left, records⟩ =
        (outcome, ⟨after, records⟩) ∧ Aside .staging left after ∧
          (outcome = .ok true → after.top .staging = disk.top .staging) := by
    unfold undo
    cases seen : host.faults .leftover .stat with
    | true => exact ⟨_, left, run_error (atBase_run (ask_fault _)), aside_refl left, nofun⟩
    | false =>
        dsimp only
        rw [run_ok (atBase_run (ask_ok shown))]
        dsimp only
        rcases discards : discardStagingTree (fun site => host.faults (.discard site))
          (operationDirectory .staging project host.stagingToken) left with ⟨e | done, after⟩
        · rw [discards] at aside
          exact ⟨_, after, run_error (atBase_run discards), aside, nofun⟩
        · rw [discards] at aside
          refine ⟨_, after, run_ok (atBase_run discards), aside, fun _ => ?_⟩
          rw [discard_returned discards]
          exact unbind_direct staging.tree staging.fresh
  obtain ⟨answer, answers, cleaned⟩ := compensate_answers run
  exact ⟨answer, after, answers, aside, fun holds => gone (cleaned holds)⟩

/-- A tree whose promotion raised is looked for where it no longer is. -/
theorem compensate_lost (promoted : Promoted disk left project entries)
    (free : Assoc.get (.operation project host.stagingToken) (disk.top .staging) = none) :
    ∃ answer, compensate host project
        (some (operationDirectory .staging project host.stagingToken)) false ⟨left, records⟩ =
          (answer, ⟨left, records⟩) := by
  have missing : left.find (operationDirectory .staging project host.stagingToken) =
      .error .missing := by
    apply find_fresh
    rw [promoted.elsewhere .staging (by decide), free]
  have shown : present (operationDirectory .staging project host.stagingToken) left = .ok none := by
    simp [present, missing, Except.toOption]
  obtain ⟨outcome, run⟩ : ∃ outcome, undo host project
      (some (operationDirectory .staging project host.stagingToken)) false ⟨left, records⟩ =
        (outcome, ⟨left, records⟩) := by
    unfold undo
    cases seen : host.faults .leftover .stat with
    | true => exact ⟨_, run_error (atBase_run (ask_fault _))⟩
    | false =>
        dsimp only
        rw [run_ok (atBase_run (ask_ok shown))]
        exact ⟨_, rfl⟩
  obtain ⟨answer, answers, _⟩ := compensate_answers run
  exact ⟨answer, answers⟩

/-- A promoted tree that can be hidden is no longer at the root, even if it is not removed. -/
theorem undo_hides
    (held : Assoc.get (.project project) (left.top .projects) = some (.directory entries))
    (hides : Hides (fun site => host.faults (.trash site)) left project host.trashToken) :
    ∃ outcome after, undo host project none true ⟨left, records⟩ = (outcome, ⟨after, records⟩) ∧
      after.top .projects = Assoc.erase (.project project) (left.top .projects) ∧
        (∀ slot, slot ≠ .projects → slot ≠ .trash → after.top slot = left.top slot) ∧
          SameFiles left after := by
  have moves := moveToTrash_hides held hides
  have files : SameFiles left (hidden left project host.trashToken entries) := sameFiles_refl left
  have others : ∀ slot, slot ≠ .projects → slot ≠ .trash →
      (hidden left project host.trashToken entries).top slot = left.top slot :=
    fun _ projects trash => hidden_other projects trash
  unfold undo hidePromoted
  rw [if_pos rfl]
  cases resolved : host.faults (.trash .moved) .resolve with
  | true =>
      rw [resolved, if_pos rfl] at moves
      exact ⟨_, _, run_error (atBase_run moves), hidden_root, others, files⟩
  | false =>
      rw [resolved, if_neg Bool.false_ne_true] at moves
      dsimp only
      rw [run_ok (atBase_run moves)]
      have aside : Aside .trash _ _ := aside_removeOwnedTree host.limits
        (fun site => host.faults (.remove site)) (operationDirectory .trash project host.trashToken)
          (hidden left project host.trashToken entries)
      have root := (aside.outside .projects (by decide)).trans hidden_root
      have kept : ∀ slot, slot ≠ .projects → slot ≠ .trash → _ = left.top slot :=
        fun slot projects trash => (aside.outside slot trash).trans (others slot projects trash)
      have same := sameFiles_trans files aside.files
      rcases removes : removeOwnedTree host.limits (fun site => host.faults (.remove site))
        (operationDirectory .trash project host.trashToken)
          (hidden left project host.trashToken entries) with ⟨e | done, after⟩
      · rw [removes] at root kept same
        exact ⟨_, after, run_error (atBase_run removes), root, kept, same⟩
      · rw [removes] at root kept same
        exact ⟨_, after, run_ok (atBase_run removes), root, kept, same⟩

section Promoted

variable (promoted : Promoted disk left project entries)

include promoted

theorem promoted_hides :
    Hides (fun site => host.faults (.trash site)) left project host.trashToken ↔
      Hides (fun site => host.faults (.trash site)) disk project host.trashToken :=
  hides_congr (promoted.elsewhere .trash (by decide))

theorem compensate_hides
    (hides : Hides (fun site => host.faults (.trash site)) disk project host.trashToken) :
    ∃ answer after, compensate host project none true ⟨left, records⟩ =
        (answer, ⟨after, records⟩) ∧ after.top .projects = disk.top .projects ∧
          (∀ slot, slot ≠ .projects → slot ≠ .trash → after.top slot = disk.top slot) ∧
            SameFiles left after := by
  obtain ⟨outcome, after, run, root, others, files⟩ :=
    undo_hides (promoted_held promoted) ((promoted_hides promoted).mpr hides)
  obtain ⟨answer, answers, _⟩ := compensate_answers run
  refine ⟨answer, after, answers, ?_, ?_, files⟩
  · rw [root, promoted.root, Assoc.erase_concat]
    exact promoted.fresh
  · intro slot projects trash
    rw [others slot projects trash, promoted.elsewhere slot projects]

theorem compensate_exposed
    (stuck : ¬ Hides (fun site => host.faults (.trash site)) disk project host.trashToken) :
    ∃ answer, compensate host project none true ⟨left, records⟩ = (answer, ⟨left, records⟩) := by
  obtain ⟨e, stays⟩ : ∃ e, moveToTrash (fun site => host.faults (.trash site)) project
      host.trashToken left = (.error e, left) :=
    moveToTrash_refused (promoted_held promoted) (mt (promoted_hides promoted).mp stuck)
  obtain ⟨answer, answers, _⟩ : ∃ answer, compensate host project none true ⟨left, records⟩ =
      (answer, ⟨left, records⟩) ∧ _ := by
    apply compensate_answers
    unfold undo hidePromoted
    rw [if_pos rfl]
    exact run_error (atBase_run stays)
  exact ⟨answer, answers⟩

end Promoted

def Reporting (cleaned : Bool) (rest : Program Desk Raised Workspace) : Prop :=
  ∀ disk records, ∃ other reports, rest ⟨disk, records⟩ = (.error other,
    ⟨disk, records ++ reports⟩) ∧
    ∀ report ∈ reports, report.data.cleaned = some true → cleaned = true

theorem reporting_raise (cleaned : Bool) (e : Raised) : Reporting cleaned (raise e) := by
  intro disk records
  refine ⟨e, [], ?_, fun report among => absurd among List.not_mem_nil⟩
  rw [List.append_nil]
  rfl

theorem reporting_submit {cleaned : Bool} (report : WorkspaceAuditRecord)
    (told : report.data.cleaned = some cleaned) (e : Raised) :
    Reporting cleaned (submit host report >>= fun _ => raise e) := by
  intro disk records
  have spoken : ∀ other ∈ [report], other.data.cleaned = some true → cleaned = true := by
    intro other among holds
    rw [List.mem_singleton.mp among, told] at holds
    exact Option.some.inj holds
  cases accepted : host.record report with
  | error raised =>
      exact ⟨raised, [report], run_error ((submit_run report).trans (Prod.ext accepted rfl)),
        spoken⟩
  | ok answer =>
      exact ⟨e, [report], run_ok ((submit_run report).trans (Prod.ext accepted rfl)), spoken⟩

theorem provisionFailure_run {audit : WorkspaceAuditContext} {request : Provisioning}
    {staging : Option (Place Slot Name)} {promoted : Bool} {answer : Except Raised Bool}
    {after : Files} {e : Raised} (caught : e ≠ .fatal)
    (run : compensate host project staging promoted ⟨left, records⟩ = (answer, ⟨after, records⟩)) :
    ∃ other reports, provisionFailure host project audit request staging promoted e
        ⟨left, records⟩ = (.error other, ⟨after, records ++ reports⟩) ∧
      ∀ report ∈ reports, report.data.cleaned = some true → answer = .ok true := by
  cases answer with
  | error raised =>
      refine ⟨raised, [], ?_, fun report among => absurd among List.not_mem_nil⟩
      rw [List.append_nil]
      cases e with
      | fatal => exact absurd rfl caught
      | cancelled | workspace | os | tool | valueError | otherError => exact run_error run
  | ok cleaned =>
      obtain ⟨rest, same, reporting⟩ : ∃ rest, provisionFailure host project audit request staging
          promoted e ⟨left, records⟩ = rest ⟨after, records⟩ ∧ Reporting cleaned rest := by
        cases e with
        | fatal => exact absurd rfl caught
        | cancelled => exact ⟨_, run_ok run, reporting_submit _ rfl _⟩
        | workspace code message =>
            refine ⟨_, run_ok run, ?_⟩
            split
            · exact reporting_raise _ _
            · exact reporting_submit _ rfl _
        | os | tool | valueError | otherError => exact ⟨_, run_ok run, reporting_submit _ rfl _⟩
      obtain ⟨other, reports, raises, spoken⟩ := reporting after records
      exact ⟨other, reports, same.trans raises, fun report among told =>
        congrArg Except.ok (spoken report among told)⟩

end Compensate

structure Unharmed (before after : Files) : Prop where
  projects : after.top .projects = before.top .projects
  files : ∀ inode < before.fresh, (after.inodes inode).content = (before.inodes inode).content ∧
    (after.inodes inode).mode = (before.inodes inode).mode

structure Exposed (before after : Files) (project : UUID) : Prop where
  fresh : Assoc.get (.project project) (before.top .projects) = none
  there : ∃ entries, Assoc.get (.project project) (after.top .projects) = some (.directory entries)

section Handled

variable (host : ManagerHost) (disk : Files) (project : UUID) (audit : WorkspaceAuditContext)
  (request : Provisioning)

def ConcludesAll : Prop :=
  ∀ usage, Promotes host disk project request usage →
    Concludes host disk project audit request usage

def Settles (left : Files) (reports : List WorkspaceAuditRecord) : Except Raised Workspace → Prop
  | .ok _ => ConcludesAll host disk project audit request
  | .error _ =>
      ConcludesAll host disk project audit request ∧ Unharmed disk left ∧
          (∀ report ∈ reports, report.data.cleaned = some true →
            left.top .staging = disk.top .staging) ∨
        ¬ ConcludesAll host disk project audit request ∧ Exposed disk left project

variable {host disk project audit request} {left : Files} {records : List WorkspaceAuditRecord}

theorem concludesAll_of {usage : WorkspaceResourceUsage}
    (holds : Promotes host disk project request usage) :
    ConcludesAll host disk project audit request ↔
      Concludes host disk project audit request usage := by
  constructor
  · intro all
    exact all usage holds
  · intro concludes other again
    obtain ⟨_, _, _, _, first, _⟩ := holds
    obtain ⟨_, _, _, _, second, _⟩ := again
    rw [first] at second
    cases second
    exact concludes

theorem concludesAll_missed (missed : ∀ usage, ¬ Promotes host disk project request usage) :
    ConcludesAll host disk project audit request :=
  fun usage holds => absurd holds (missed usage)

theorem unharmed_staging {entries : Entries Name} {after : Files}
    (staging : Staging disk left project host.stagingToken entries)
    (aside : Aside .staging left after) : Unharmed disk after where
  projects := by rw [aside.outside .projects (by decide), staging.elsewhere .projects (by decide)]
  files inode known := by
    have same := staging.files inode known
    exact ⟨(aside.files inode).1.trans (congrArg Inode.content same),
      (aside.files inode).2.trans (congrArg Inode.mode same)⟩

theorem exposed_promoted {entries : Entries Name} (promoted : Promoted disk left project entries) :
    Exposed disk left project :=
  ⟨promoted.fresh, entries, promoted_held promoted⟩

theorem hiding_settles {entries : Entries Name} {e : Raised} (caught : e ≠ .fatal)
    (promoted : Promoted disk left project entries)
    (concluding : ConcludesAll host disk project audit request ↔
      Hides (fun site => host.faults (.trash site)) disk project host.trashToken) :
    ∃ other after reports, provisionFailure host project audit request none true e
        ⟨left, records⟩ = (.error other, ⟨after, records ++ reports⟩) ∧
      after.top .locks = disk.top .locks ∧
        Settles host disk project audit request after reports (.error other) := by
  by_cases hides : Hides (fun site => host.faults (.trash site)) disk project host.trashToken
  · obtain ⟨answer, after, run, root, others, files⟩ :
        ∃ answer after, compensate host project none true ⟨left, records⟩ =
          (answer, ⟨after, records⟩) ∧ _ := compensate_hides promoted hides
    obtain ⟨other, reports, raises, _⟩ :
        ∃ other reports, provisionFailure host project audit request none true e
          ⟨left, records⟩ = (.error other, ⟨after, records ++ reports⟩) ∧ _ :=
      provisionFailure_run caught run
    refine ⟨other, after, reports, raises, others .locks (by decide) (by decide), .inl ?_⟩
    refine ⟨concluding.mpr hides, ⟨root, ?_⟩, fun _ _ _ => others .staging (by decide) (by decide)⟩
    intro inode known
    have same := promoted.files inode known
    exact ⟨(files inode).1.trans (congrArg Inode.content same),
      (files inode).2.trans (congrArg Inode.mode same)⟩
  · obtain ⟨answer, run⟩ : ∃ answer, compensate host project none true ⟨left, records⟩ =
        (answer, ⟨left, records⟩) := compensate_exposed promoted hides
    obtain ⟨other, reports, raises, _⟩ :
        ∃ other reports, provisionFailure host project audit request none true e
          ⟨left, records⟩ = (.error other, ⟨left, records ++ reports⟩) ∧ _ :=
      provisionFailure_run caught run
    exact ⟨other, left, reports, raises, promoted.elsewhere .locks (by decide),
      .inr ⟨mt concluding.mp hides, exposed_promoted promoted⟩⟩

theorem discarding_settles {entries : Entries Name} (e : Raised)
    (missed : ∀ usage, ¬ Promotes host disk project request usage)
    (staging : Staging disk left project host.stagingToken entries) :
    ∃ other after reports, provisionFailure host project audit request
        (some (operationDirectory .staging project host.stagingToken)) false e ⟨left, records⟩ =
          (.error other, ⟨after, records ++ reports⟩) ∧
      after.top .locks = disk.top .locks ∧
        Settles host disk project audit request after reports (.error other) := by
  by_cases caught : e = .fatal
  · subst caught
    refine ⟨.fatal, left, [], ?_, staging.elsewhere .locks (by decide), .inl ?_⟩
    · rw [List.append_nil]
      rfl
    · exact ⟨concludesAll_missed missed, unharmed_staging staging (aside_refl left),
        fun report among => absurd among List.not_mem_nil⟩
  · obtain ⟨answer, after, run, aside, gone⟩ : ∃ answer after, compensate host project
        (some (operationDirectory .staging project host.stagingToken)) false ⟨left, records⟩ =
          (answer, ⟨after, records⟩) ∧ _ := compensate_staged staging
    obtain ⟨other, reports, raises, spoken⟩ :
        ∃ other reports, provisionFailure host project audit request
          (some (operationDirectory .staging project host.stagingToken)) false e ⟨left, records⟩ =
            (.error other, ⟨after, records ++ reports⟩) ∧ _ := provisionFailure_run caught run
    refine ⟨other, after, reports, raises, ?_, .inl ?_⟩
    · rw [aside.outside .locks (by decide), staging.elsewhere .locks (by decide)]
    · exact ⟨concludesAll_missed missed, unharmed_staging staging aside,
        fun report among told => gone (spoken report among told)⟩

theorem unstaged_raises (e : Raised) (desk : Desk) :
    ∃ other reports, provisionFailure host project audit request none false e desk =
        (.error other, ⟨desk.disk, desk.records ++ reports⟩) ∧
      ∀ report ∈ reports, report.data.cleaned ≠ some true := by
  by_cases caught : e = .fatal
  · subst caught
    refine ⟨.fatal, [], ?_, fun report among => absurd among List.not_mem_nil⟩
    rw [List.append_nil]
    rfl
  · obtain ⟨other, reports, raises, spoken⟩ :
        ∃ other reports, provisionFailure host project audit request none false e desk =
          (.error other, ⟨desk.disk, desk.records ++ reports⟩) ∧ _ :=
      provisionFailure_run caught (compensate_nothing desk)
    refine ⟨other, reports, raises, fun report among told => ?_⟩
    cases spoken report among told

theorem handled_failed {e : Raised} {desk last : Desk} {staging : Option (Place Slot Name)}
    {promoted : Bool} (run : provisionWorkspace host project audit request ⟨desk, none, false⟩ =
      (.error e, ⟨last, staging, promoted⟩)) :
    provisionHandled host project audit request desk =
      provisionFailure host project audit request staging promoted e last := by
  unfold provisionHandled
  rw [run]

/-- How the handled body ends, for any disk. -/
theorem provisionHandled_settles :
    ∃ outcome left reports, provisionHandled host project audit request ⟨disk, records⟩ =
        (outcome, ⟨left, records ++ reports⟩) ∧
      left.top .locks = disk.top .locks ∧
        Settles host disk project audit request left reports outcome := by
  have ends : Provisions host project audit request disk records _ := provisionWorkspace_provisions
  generalize run : provisionWorkspace host project audit request ⟨⟨disk, records⟩, none, false⟩ =
    result at ends
  cases ends with
  | unstaged e left missed same files =>
      obtain ⟨other, reports, raises, unspoken⟩ :
        ∃ other reports, provisionFailure host project audit
          request none false e ⟨left, records⟩ = (.error other, ⟨left, records ++ reports⟩) ∧ _ :=
        unstaged_raises e _
      have unharmed : Unharmed disk left := by
        refine ⟨same .projects (by decide), fun inode known => ?_⟩
        rw [files inode known]
        exact ⟨rfl, rfl⟩
      exact ⟨_, left, reports, (handled_failed run).trans raises, same .locks (by decide),
        .inl ⟨concludesAll_missed missed, unharmed,
          fun report among told => absurd told (unspoken report among)⟩⟩
  | staged e left entries missed staging =>
      obtain ⟨other, after, reports, raises, locks, settles⟩ : ∃ other after reports,
          provisionFailure host project audit request
            (some (operationDirectory .staging project host.stagingToken)) false e ⟨left, records⟩ =
              (.error other, ⟨after, records ++ reports⟩) ∧ _ ∧
                Settles host disk project audit request after reports (.error other) :=
        discarding_settles e missed staging
      exact ⟨_, after, reports, (handled_failed run).trans raises, locks, settles⟩
  | unresolved left usage holds lost promoted =>
      obtain ⟨answer, answers⟩ : ∃ answer, compensate host project
          (some (operationDirectory .staging project host.stagingToken)) false ⟨left, records⟩ =
            (answer, ⟨left, records⟩) := compensate_lost promoted holds.1.2
      obtain ⟨other, reports, raises, _⟩ :
        ∃ other reports, provisionFailure host project audit request
          (some (operationDirectory .staging project host.stagingToken)) false unsafe_
            ⟨left, records⟩ = (.error other, ⟨left, records ++ reports⟩) ∧ _ :=
        provisionFailure_run nofun answers
      refine ⟨_, left, reports, (handled_failed run).trans raises,
        promoted.elsewhere .locks (by decide), .inr ⟨?_, exposed_promoted promoted⟩⟩
      intro all
      have resolved := (all usage holds).1
      rw [lost] at resolved
      cases resolved
  | invalid left usage holds resolved refused promoted =>
      have concluding : ConcludesAll host disk project audit request ↔
          Hides (fun site => host.faults (.trash site)) disk project host.trashToken := by
        rw [concludesAll_of holds]
        unfold Concludes
        simp [resolved, refused]
      obtain ⟨other, after, reports, raises, locks, settles⟩ : ∃ other after reports,
          provisionFailure host project audit request none true .valueError ⟨left, records⟩ =
            (.error other, ⟨after, records ++ reports⟩) ∧ _ ∧
              Settles host disk project audit request after reports (.error other) :=
        hiding_settles nofun promoted concluding
      exact ⟨_, after, reports, (handled_failed run).trans raises, locks, settles⟩
  | unannounced e left usage holds resolved validates raised promoted =>
      by_cases caught : e = .fatal
      · subst caught
        refine ⟨.error .fatal, left, [provisionRecord host project audit request usage],
          (handled_failed run).trans rfl, promoted.elsewhere .locks (by decide),
            .inr ⟨?_, exposed_promoted promoted⟩⟩
        rw [concludesAll_of holds]
        unfold Concludes
        simp [validates, raised]
      · have concluding : ConcludesAll host disk project audit request ↔
            Hides (fun site => host.faults (.trash site)) disk project host.trashToken := by
          rw [concludesAll_of holds]
          unfold Concludes
          simp [resolved, validates, raised, caught]
        obtain ⟨other, after, reports, raises, locks, settles⟩ : ∃ other after reports,
            provisionFailure host project audit request none true e
                ⟨left, records ++ [provisionRecord host project audit request usage]⟩ =
              (.error other,
                ⟨after, (records ++ [provisionRecord host project audit request usage]) ++
                reports⟩) ∧ _ ∧ Settles host disk project audit request after reports
                  (.error other) :=
          hiding_settles caught promoted concluding
        rw [List.append_assoc] at raises
        refine ⟨_, after, _, (handled_failed run).trans raises, locks, ?_⟩
        rcases settles with ⟨all, unharmed, spoken⟩ | exposed
        · refine .inl ⟨all, unharmed, fun report among told => ?_⟩
          rcases List.mem_append.mp among with announced | reported
          · rw [List.mem_singleton.mp announced] at told
            cases told
          · exact spoken report reported told
        · exact .inr exposed
  | announced workspace left usage holds resolved validates accepted promoted =>
      refine ⟨.ok workspace, left, [provisionRecord host project audit request usage], ?_,
        promoted.elsewhere .locks (by decide), ?_⟩
      · unfold provisionHandled
        rw [run]
      · exact (concludesAll_of holds).mpr ⟨resolved, .inl ⟨validates, accepted⟩⟩

end Handled

section Locks

variable {host : ManagerHost} {disk : Files} {project : UUID} {audit : WorkspaceAuditContext}
  {request : Provisioning}

theorem lockTaken_bound (free : LockFree disk project) (slot : Slot) :
    Entries.bound ((lockTaken disk project).top slot) = Entries.bound (disk.top slot) := by
  by_cases locks : slot = .locks
  · have top : (lockTaken disk project).top .locks =
        disk.top .locks ++ [(.project project, .directory [])] := bind_direct free
    rw [locks, top, Entries.bound_append]
    simp [Entries.bound, Node.bound]
  · rw [lockTaken_other locks]

theorem populated_lockTaken (free : LockFree disk project) (token : String) :
    SameFiles (populated disk project token request)
      (populated (lockTaken disk project) project token request) := by
  have fresh : ((lockTaken disk project).bind (operationDirectory .staging project token)
      (.directory [])).fresh =
        (disk.bind (operationDirectory .staging project token) (.directory [])).fresh := by
    apply Disk.fresh_congr
    intro slot
    unfold Disk.bind
    by_cases own : slot = .staging
    · have same : (lockTaken disk project).top .staging = disk.top .staging :=
        lockTaken_other (by decide)
      subst own
      rw [operationDirectory, Disk.alter_top_self, Disk.alter_top_self, same]
    · rw [operationDirectory, Disk.alter_top_other _ _ _ own, Disk.alter_top_other _ _ _ own,
        lockTaken_bound free]
  intro inode
  unfold populated
  cases request.populate with
  | none => exact ⟨rfl, rfl⟩
  | some population =>
      dsimp only
      rw [fresh]
      exact ⟨rfl, rfl⟩

theorem promotes_lockTaken (free : LockFree disk project) (usage : WorkspaceResourceUsage) :
    Promotes host (lockTaken disk project) project request usage ↔
      Promotes host disk project request usage := by
  have staging : (lockTaken disk project).top .staging = disk.top .staging :=
    lockTaken_other (by decide)
  have projects : (lockTaken disk project).top .projects = disk.top .projects :=
    lockTaken_other (by decide)
  unfold Promotes Opens
  rw [staging, projects, usageVisitor_congr _ (populated_lockTaken free host.stagingToken)]

theorem concludesAll_lockTaken (free : LockFree disk project) :
    ConcludesAll host (lockTaken disk project) project audit request ↔
      ConcludesAll host disk project audit request := by
  have trash : (lockTaken disk project).top .trash = disk.top .trash :=
    lockTaken_other (by decide)
  unfold ConcludesAll Concludes
  simp only [promotes_lockTaken free, hides_congr trash]

theorem lockTaken_known (free : LockFree disk project) :
    (lockTaken disk project).fresh = disk.fresh :=
  Disk.fresh_congr (lockTaken_bound free)

end Locks

/-- A provisioning that has raised left the project root, its lock and the files there were as it
found them, and no staging tree of its own when a report of it says so. -/
structure Compensated (before after : Desk) (project : UUID) : Prop where
  root : after.disk.find (projectChild .projects project) =
    before.disk.find (projectChild .projects project)
  lock : after.disk.find (projectChild .locks project) =
    before.disk.find (projectChild .locks project)
  files : ∀ place inode, before.disk.find place = .ok (.file inode) →
    (after.disk.inodes inode).content = (before.disk.inodes inode).content ∧
      (after.disk.inodes inode).mode = (before.disk.inodes inode).mode
  staging : ∀ report ∈ after.records.drop before.records.length, report.data.cleaned = some true →
    ∀ token, after.disk.find (operationDirectory .staging project token) =
      before.disk.find (operationDirectory .staging project token)

section Theorem

variable (host : ManagerHost) (desk : Desk) (project : UUID) (audit : WorkspaceAuditContext)
  (request : Provisioning)

def Compensates : Prop :=
  ∀ e after, provision host project audit request desk = (.error e, after) →
    Compensated desk after project

variable {host desk project audit request} {disk : Files} {records : List WorkspaceAuditRecord}

theorem compensated_still {reports : List WorkspaceAuditRecord}
    (unspoken : ∀ report ∈ reports, report.data.cleaned ≠ some true) :
    Compensated ⟨disk, records⟩ ⟨disk, records ++ reports⟩ project where
  root := rfl
  lock := rfl
  files _ _ _ := ⟨rfl, rfl⟩
  staging report among told := by
    rw [List.drop_left] at among
    exact absurd told (unspoken report among)

theorem compensates_run {outcome : Except Raised Workspace} {after : Desk}
    (run : provision host project audit request desk = (outcome, after)) :
    Compensates host desk project audit request ↔
      ∀ e, outcome = .error e → Compensated desk after project := by
  constructor
  · intro compensates e raised
    rw [raised] at run
    exact compensates e after run
  · intro holds e last again
    rw [run] at again
    cases again
    exact holds e rfl

theorem provision_invalid (mismatch : audit.projectId ≠ project) :
    provision host project audit request desk = (.error invalidRequest, desk) := by
  unfold provision validateRequest
  rw [if_pos mismatch]
  rfl

theorem provision_valid (matching : audit.projectId = project) :
    provision host project audit request desk =
      underLock host project (provisionFailure host project audit request none false)
        (provisionHandled host project audit request) desk := by
  unfold provision validateRequest
  rw [if_neg (not_not.mpr matching)]
  rfl

theorem provision_busy (matching : audit.projectId = project)
    (busy : host.faults .acquireLock .mkdir = true ∨ ¬ LockFree disk project) :
    Compensates host ⟨disk, records⟩ project audit request := by
  obtain ⟨e, refused⟩ : ∃ e, underLock host project
      (provisionFailure host project audit request none false)
        (provisionHandled host project audit request) ⟨disk, records⟩ =
          provisionFailure host project audit request none false e ⟨disk, records⟩ :=
    underLock_refused busy
  obtain ⟨other, reports, raises, unspoken⟩ : ∃ other reports, provisionFailure host project audit
      request none false e ⟨disk, records⟩ = (.error other, ⟨disk, records ++ reports⟩) ∧ _ :=
    unstaged_raises e _
  rw [compensates_run ((provision_valid matching).trans (refused.trans raises))]
  exact fun _ _ => compensated_still unspoken

section Locked

variable (matching : audit.projectId = project) (working : host.faults .acquireLock .mkdir = false)
  (free : LockFree disk project)

include matching working free

theorem provision_kept (failing : ¬ Releases (host.faults .releaseLock)) :
    ¬ Compensates host ⟨disk, records⟩ project audit request := by
  obtain ⟨outcome, left, reports, run, locks, _⟩ :
      ∃ outcome left reports, provisionHandled host project audit request
        ⟨lockTaken disk project, records⟩ = (outcome, ⟨left, records ++ reports⟩) ∧
          left.top .locks = (lockTaken disk project).top .locks ∧ _ := provisionHandled_settles
  have held : Assoc.get (.project project) (left.top .locks) = some (.directory []) := by
    rw [locks, lockTaken_held free]
  have raises := (provision_valid matching).trans (underLock_kept working free run held failing)
  intro compensates
  have same := (compensates _ _ raises).lock
  have there : left.find (projectChild .locks project) = .ok (.directory []) := find_direct held
  have missing : disk.find (projectChild .locks project) = .error .missing := find_fresh free
  rw [there, missing] at same
  cases same

omit matching working in
theorem released_compensated {left : Files} {reports : List WorkspaceAuditRecord}
    (locks : left.top .locks = (lockTaken disk project).top .locks)
    (unharmed : Unharmed (lockTaken disk project) left)
    (staging : ∀ report ∈ reports, report.data.cleaned = some true →
      left.top .staging = (lockTaken disk project).top .staging) :
    Compensated ⟨disk, records⟩ ⟨left.unbind (projectChild .locks project), records ++ reports⟩
      project where
  root := by
    have apart : Slot.projects ≠ Slot.locks := by decide
    have kept : (left.unbind (projectChild .locks project)).find (projectChild .projects project) =
        left.find (projectChild .projects project) := Disk.find_unbind_other _ _ apart
    rw [kept]
    exact Disk.find_congr (unharmed.projects.trans (lockTaken_other apart))
  lock := by
    have top : (lockTaken disk project).top .locks =
        disk.top .locks ++ [(.project project, .directory [])] := bind_direct free
    have gone : (left.unbind (projectChild .locks project)).top .locks = disk.top .locks :=
      unbind_direct (locks.trans top) free
    exact Disk.find_congr gone
  files place inode found := by
    have known : inode < (lockTaken disk project).fresh := by
      rw [lockTaken_known free]
      exact Disk.find_below_fresh _ _ found
    exact unharmed.files inode known
  staging report among told token := by
    have apart : Slot.staging ≠ Slot.locks := by decide
    rw [List.drop_left] at among
    have kept : (left.unbind (projectChild .locks project)).find
        (operationDirectory .staging project token) =
          left.find (operationDirectory .staging project token) := Disk.find_unbind_other _ _ apart
    rw [kept]
    exact Disk.find_congr ((staging report among told).trans (lockTaken_other apart))

omit matching working free in
theorem exposed_uncompensated {left : Files} {later : List WorkspaceAuditRecord}
    (exposed : Exposed (lockTaken disk project) left project) :
    ¬ Compensated ⟨disk, records⟩ ⟨left.unbind (projectChild .locks project), later⟩ project := by
  intro compensated
  have apart : Slot.projects ≠ Slot.locks := by decide
  obtain ⟨fresh, entries, there⟩ := exposed
  rw [lockTaken_other apart] at fresh
  have missing : disk.find (projectChild .projects project) = .error .missing := find_fresh fresh
  have found : left.find (projectChild .projects project) = .ok (.directory entries) :=
    find_direct there
  have kept : (left.unbind (projectChild .locks project)).find (projectChild .projects project) =
      left.find (projectChild .projects project) := Disk.find_unbind_other _ _ apart
  have same := compensated.root
  rw [kept, found, missing] at same
  cases same

theorem provision_released (releases : Releases (host.faults .releaseLock)) :
    Compensates host ⟨disk, records⟩ project audit request ↔
      ConcludesAll host disk project audit request := by
  obtain ⟨outcome, left, reports, run, locks, settles⟩ :
      ∃ outcome left reports, provisionHandled host project audit request
        ⟨lockTaken disk project, records⟩ = (outcome, ⟨left, records ++ reports⟩) ∧
          left.top .locks = (lockTaken disk project).top .locks ∧
            Settles host (lockTaken disk project) project audit request left reports outcome :=
    provisionHandled_settles
  have held : Assoc.get (.project project) (left.top .locks) = some (.directory []) := by
    rw [locks, lockTaken_held free]
  have ends := (provision_valid matching).trans (underLock_released working free run held releases)
  rw [compensates_run ends]
  cases outcome with
  | ok workspace => exact ⟨fun _ => (concludesAll_lockTaken free).mp settles, fun _ => nofun⟩
  | error e =>
      rw [← concludesAll_lockTaken free]
      rcases settles with ⟨all, unharmed, staging⟩ | ⟨open_, exposed⟩
      · exact ⟨fun _ => all, fun _ _ _ => released_compensated free locks unharmed staging⟩
      · exact ⟨fun holds => absurd (holds e rfl) (exposed_uncompensated exposed),
          fun all => absurd all open_⟩

end Locked

/-- A provisioning that raises leaves no trace exactly when it is compensable. -/
theorem provision_compensates (host : ManagerHost) (desk : Desk) (project : UUID)
    (audit : WorkspaceAuditContext) (request : Provisioning) :
    Compensates host desk project audit request ↔
      Compensable host desk.disk project audit request := by
  obtain ⟨disk, records⟩ := desk
  unfold Compensable
  by_cases matching : audit.projectId = project
  · by_cases busy : host.faults .acquireLock .mkdir = true ∨ ¬ LockFree disk project
    · exact ⟨fun _ => .inr (or_assoc.mp (.inl busy)), fun _ => provision_busy matching busy⟩
    · obtain ⟨working, free⟩ := not_or.mp busy
      rw [Bool.not_eq_true] at working
      rw [not_not] at free
      simp only [matching, ne_eq, not_true_eq_false, working, Bool.false_eq_true, free, false_or]
      by_cases releases : Releases (host.faults .releaseLock)
      · rw [provision_released matching working free releases]
        exact ⟨fun all => ⟨releases, all⟩, fun both => both.2⟩
      · exact ⟨fun compensates =>
          absurd compensates (provision_kept matching working free releases),
          fun both => absurd both.1 releases⟩
  · refine ⟨fun _ => .inl matching, fun _ => ?_⟩
    rw [compensates_run (provision_invalid matching)]
    have still : Compensated ⟨disk, records⟩ ⟨disk, records ++ []⟩ project :=
      compensated_still fun report among => absurd among List.not_mem_nil
    rw [List.append_nil] at still
    exact fun _ _ => still

def sampleLost : ManagerHost :=
  { sampleManager with
    faults := fun step call => decide (step = .promote .moved) && decide (call = .resolve) }

def sampleRequest : Provisioning := ⟨.create, .empty, none⟩

def sampleBase : Desk := ⟨⟨fun _ => [], fun _ => ⟨.empty, 0o644, 1⟩⟩, []⟩

/-- When the lookup after the rename fails, the promoted root stays behind. -/
theorem provision_uncompensated :
    ∃ e after, provision sampleLost 1 sampleAudit sampleRequest sampleBase = (.error e, after) ∧
      ¬ Compensated sampleBase after 1 := by
  have promotes : Promotes sampleLost sampleBase.disk 1 sampleRequest {} := by
    refine ⟨⟨rfl, rfl⟩, rfl, rfl, ⟨rfl, rfl⟩, ?_, ⟨rfl, rfl⟩, rfl, rfl, rfl⟩
    simp [Visitor.run, Visitor.list, usageVisitor, Provisioning.entries, sampleRequest, sampleLost]
  have free : LockFree sampleBase.disk 1 := rfl
  have released : Compensates sampleLost sampleBase 1 sampleAudit sampleRequest ↔
      ConcludesAll sampleLost sampleBase.disk 1 sampleAudit sampleRequest :=
    provision_released rfl rfl free ⟨rfl, rfl, rfl⟩
  have leaves : ¬ Compensates sampleLost sampleBase 1 sampleAudit sampleRequest := by
    intro compensates
    have resolved := (released.mp compensates {} promotes).1
    cases resolved
  unfold Compensates at leaves
  simp only [not_forall, exists_prop] at leaves
  exact leaves

end Theorem

end SynapseOS.Workspaces
