import SynapseOS.LocalGit.Provider

/-! What git documents of the processes of a commit, for a repository of trees, and what the steps
of `commit_changes` that only read leave as it was. -/

namespace SynapseOS.LocalGit

open Execution Program
open Workspaces (pathParts asPosix)

abbrev Tree := PyStr → Option Nat

structure Commit where
  parents : List PyStr
  tree : Tree

@[ext]
structure Repository where
  branch : Option PyStr
  head : Option PyStr
  commits : PyStr → Option Commit
  index : Tree
  worktree : Tree

namespace Repository

def headTree (repository : Repository) : Tree := fun path =>
  repository.head.bind fun sha => (repository.commits sha).bind fun commit => commit.tree path

variable (chosen : PyStr → Bool) (repository : Repository)

/-- `git add --all`: the index takes the chosen paths from the worktree. -/
def added : Repository :=
  { repository with
    index := fun path =>
      if chosen path = true then repository.worktree path else repository.index path }

/-- `git reset HEAD`: the index takes the chosen paths from the commit. -/
def unstaged : Repository :=
  { repository with
    index := fun path =>
      if chosen path = true then repository.headTree path else repository.index path }

/-- The tree of `git commit --only`: the worktree at the chosen paths that the index or the commit
knows. -/
def onlyTree : Tree := fun path =>
  if chosen path = true ∧ (repository.index path ≠ none ∨ repository.headTree path ≠ none) then
    repository.worktree path
  else repository.headTree path

def committed (sha : PyStr) : Repository :=
  { repository with
    head := some sha
    commits := fun other =>
      if other = sha then some ⟨repository.head.toList, repository.onlyTree chosen⟩
      else repository.commits other
    index := fun path =>
      if chosen path = true then repository.onlyTree chosen path else repository.index path }

end Repository

inductive ReadOnly : List PyStr → Prop
  | status : ReadOnly statusArguments
  | staged (paths : List PyStr) : ReadOnly (diffArguments .staged paths)
  | head : ReadOnly headArguments
  | parents : ReadOnly parentArguments
  | subject : ReadOnly subjectArguments

/-- Git does what it documents: what exits with 0 has taken effect, and what ends in another way has
taken effect or none. A pathspec says which paths a list of arguments matches. -/
structure Faithful {R : Type} (machine : Machine R) (view : R → Repository)
    (pathspec : List PyStr → PyStr → Bool) : Prop where
  rooted : ∀ r sha, (view r).head = some sha → (view r).commits sha ≠ none
  reads : ∀ n r arguments, ReadOnly arguments → view (machine.git n arguments r).1 = view r
  status : ∀ n r output marks report,
    (machine.git n statusArguments r).2 = .exits 0 output →
    parseStatus marks ⟨output, output.size, false⟩ = .ok report →
    report.headSha = (view r).head ∧ (report.stagedCount = 0 → (view r).index = (view r).headTree)
  add : ∀ n r paths,
    view (machine.git n (addArguments paths) r).1 = (view r).added (pathspec paths) ∨
      view (machine.git n (addArguments paths) r).1 = view r ∧
        ∀ output, (machine.git n (addArguments paths) r).2 ≠ .exits 0 output
  commit : ∀ n r request paths,
    (∃ sha, (view r).commits sha = none ∧ view (machine.git n (commitArguments request paths) r).1 =
      (view r).committed (pathspec paths) sha) ∨
      view (machine.git n (commitArguments request paths) r).1 = view r ∧
        ∀ output, (machine.git n (commitArguments request paths) r).2 ≠ .exits 0 output

section Steps

variable {R : Type} {machine : Machine R} {view : R → Repository}
  {pathspec : List PyStr → PyStr → Bool} {limits : GitProcessLimits} {timeout : ℚ}
  {request : CommitRequest}

theorem process_cases (machine : Machine R) (timeout : ℚ) (arguments : List PyStr) (limit : Nat)
    (world : GitWorld R) :
    (timeout ≤ 0 ∧ run machine timeout arguments limit [0] world =
        (.error (failure .invalidRequest), world)) ∨
      0 < timeout ∧
        (run machine timeout arguments limit [0] world).2 =
          ⟨(machine.git world.processes arguments world.repository).1, world.processes + 1⟩ ∧
        ((∃ output, (machine.git world.processes arguments world.repository).2 = .exits 0 output ∧
            (run machine timeout arguments limit [0] world).1 = .ok ⟨0, bounded limit output⟩) ∨
          (∀ output, (machine.git world.processes arguments world.repository).2 ≠ .exits 0 output) ∧
            ∃ raised, raised ≠ .invalid ∧
              (run machine timeout arguments limit [0] world).1 = .error raised) := by
  unfold run
  by_cases refused : timeout ≤ 0
  · rw [if_pos refused]
    exact .inl ⟨refused, rfl⟩
  · rw [if_neg refused, look_run]
    simp only [update_run]
    refine .inr ⟨not_le.mp refused, ?_⟩
    cases ending : (machine.git world.processes arguments world.repository).2 with
    | cancelled => exact ⟨rfl, .inr ⟨nofun, .cancelled, nofun, rfl⟩⟩
    | timedOut => exact ⟨rfl, .inr ⟨nofun, failure .timedOut, nofun, rfl⟩⟩
    | failed => exact ⟨rfl, .inr ⟨nofun, failure .gitFailed, nofun, rfl⟩⟩
    | exits code output =>
        by_cases accepted : code = 0
        · subst accepted
          exact ⟨rfl, .inl ⟨output, rfl, rfl⟩⟩
        · have refuses : code ∉ ([0] : List Int) := by simpa using accepted
          dsimp only
          rw [if_neg refuses]
          exact ⟨rfl,
            .inr ⟨fun _ same => accepted (by cases same; rfl), failure .gitFailed, nofun, rfl⟩⟩

theorem process_ok {arguments : List PyStr} {limit : Nat} {world after : GitWorld R}
    {result : ProcessResult}
    (ok : run machine timeout arguments limit [0] world = (.ok result, after)) :
    0 < timeout ∧
      after = ⟨(machine.git world.processes arguments world.repository).1, world.processes + 1⟩ ∧
      ∃ output, (machine.git world.processes arguments world.repository).2 = .exits 0 output ∧
        result = ⟨0, bounded limit output⟩ := by
  rcases process_cases machine timeout arguments limit world with
    ⟨_, refused⟩ | ⟨positive, last, ⟨output, ending, outcome⟩ | ⟨_, raised, _, outcome⟩⟩
  · rw [ok] at refused
    cases refused
  · rw [ok] at last outcome
    cases outcome
    exact ⟨positive, last, output, ending, rfl⟩
  · rw [ok] at outcome
    cases outcome

theorem bounded_whole {limit : Nat} {output : ByteArray}
    (whole : (bounded limit output).truncated ≠ true) :
    bounded limit output = ⟨output, output.size, false⟩ := by
  have few : output.size ≤ limit := by
    unfold bounded at whole
    simpa using whole
  have content : output.extract 0 limit = output := by
    rw [← max_eq_left few, ByteArray.extract_zero_max_size]
  unfold bounded
  rw [content, decide_eq_false (Nat.not_lt.mpr few)]

section Runs

variable {world : GitWorld R} {arguments : List PyStr} {output : ByteArray}

def processed (machine : Machine R) (arguments : List PyStr) (world : GitWorld R) : GitWorld R :=
  ⟨(machine.git world.processes arguments world.repository).1, world.processes + 1⟩

theorem process_exits {limit : Nat} (positive : 0 < timeout)
    (ends : (machine.git world.processes arguments world.repository).2 = .exits 0 output)
    (fits : output.size ≤ limit) :
    run machine timeout arguments limit [0] world =
      (.ok ⟨0, output, output.size, false⟩, processed machine arguments world) := by
  have whole : bounded limit output = ⟨output, output.size, false⟩ :=
    bounded_whole (by unfold bounded; simpa using fits)
  unfold run
  rw [if_neg (not_le.mpr positive), look_run]
  simp only [update_run]
  rw [ends]
  dsimp only
  rw [if_pos (List.mem_singleton.mpr rfl), whole]
  rfl

theorem scalar_exits {value : PyStr} (positive : 0 < timeout)
    (ends : (machine.git world.processes arguments world.repository).2 = .exits 0 output)
    (fits : output.size ≤ limits.stderrBytes)
    (parsed : parseScalar ⟨output, output.size, false⟩ = .ok value) :
    readScalar machine limits timeout arguments world = (.ok value,
      processed machine arguments world) := by
  unfold readScalar
  rw [run_ok (process_exits positive ends fits)]
  dsimp only
  rw [parsed]
  rfl

theorem status_exits {report : GitRepositoryStatus}
    (managed : machine.managed world.repository = true)
    (positive : 0 < timeout)
    (ends : (machine.git world.processes statusArguments world.repository).2 = .exits 0 output)
    (fits : output.size ≤ limits.statusBytes)
    (parsed : parseStatus (machine.marks (processed machine statusArguments world).repository)
      ⟨output, output.size, false⟩ = .ok report) :
    status machine limits timeout world = (.ok report,
      processed machine statusArguments world) := by
  have repository : requireRepository machine world = (.ok (), world) := by
    unfold requireRepository
    rw [look_run, if_pos managed]
    rfl
  unfold status
  rw [run_ok repository, run_ok (process_exits positive ends fits)]
  dsimp only
  rw [if_neg Bool.false_ne_true, look_run, parsed]
  rfl

end Runs

def SameView (view : R → Repository) (before after : GitWorld R) : Prop :=
  view after.repository = view before.repository

theorem sameView_refl (world : GitWorld R) : SameView view world world := rfl

theorem sameView_trans (first second third : GitWorld R) (left : SameView view first second)
    (right : SameView view second third) : SameView view first third :=
  Eq.trans right left

variable (faithful : Faithful machine view pathspec)

include faithful

theorem keeps_run {arguments : List PyStr} (reads : ReadOnly arguments) (limit : Nat) :
    Keeps (SameView view) (run machine timeout arguments limit [0]) := by
  intro world
  rcases process_cases machine timeout arguments limit world with
    ⟨_, refused⟩ | ⟨_, last, _⟩
  · rw [refused]
    rfl
  · rw [last]
    exact faithful.reads _ _ _ reads

theorem keeps_readScalar {arguments : List PyStr} (reads : ReadOnly arguments) :
    Keeps (SameView view) (readScalar machine limits timeout arguments) :=
  keeps_bind sameView_trans (keeps_run faithful reads _) fun _ =>
    keeps_still sameView_refl (still_resume _)

omit faithful in
theorem still_requireRepository (machine : Machine R) : Still (requireRepository machine) :=
  still_bind (fun _ => rfl) fun _ => still_ite (still_pure _) (still_raise _)

omit faithful in
theorem still_resolvePaths (machine : Machine R) (paths : List PyStr) :
    Still (resolvePaths machine paths) :=
  still_bind (fun _ => rfl) fun _ => still_resume _

theorem keeps_status (limits : GitProcessLimits) (timeout : ℚ) : Keeps (SameView view)
    (status machine limits timeout) := by
  refine keeps_bind sameView_trans (keeps_still sameView_refl (still_requireRepository _)) fun _ =>
    keeps_bind sameView_trans (keeps_run faithful .status _) fun _ => ?_
  exact keeps_still sameView_refl
    (still_ite (still_raise _) (still_bind (fun _ => rfl) fun _ => still_resume _))

theorem keeps_diff (paths : List PyStr) :
    Keeps (SameView view) (diff machine limits timeout .staged paths) := by
  refine keeps_bind sameView_trans (keeps_still sameView_refl (still_requireRepository _)) fun _ =>
    keeps_bind sameView_trans (keeps_still sameView_refl (still_resolvePaths _ paths))
      fun selected =>
    keeps_bind sameView_trans (keeps_run faithful (.staged selected) _) fun _ =>
    keeps_bind sameView_trans (keeps_still sameView_refl (still_resume _)) fun _ =>
    keeps_bind sameView_trans (keeps_still sameView_refl (still_resolvePaths _ _)) fun _ => ?_
  exact keeps_still sameView_refl
    (still_ite (still_raise _) (still_ite (still_pure _) (still_raise _)))

theorem keeps_openCommit (limits : GitProcessLimits) (timeout : ℚ) (request : CommitRequest) :
    Keeps (SameView view) (openCommit machine limits timeout request) :=
  keeps_bind sameView_trans (keeps_still sameView_refl (still_requireRepository _)) fun _ =>
    keeps_bind sameView_trans (keeps_status faithful _ _) fun _ =>
    keeps_bind sameView_trans (keeps_still sameView_refl (still_resume _)) fun _ =>
    keeps_bind sameView_trans (keeps_still sameView_refl (still_resolvePaths _ _)) fun _ =>
    keeps_still sameView_refl (still_pure _)

theorem keeps_inspectStaged (limits : GitProcessLimits) (timeout : ℚ)
    (policy : PyStr → PolicyAnswer) (initial : GitRepositoryStatus)
    (paths : List PyStr) :
    Keeps (SameView view) (inspectStaged machine limits timeout policy initial paths) := by
  unfold inspectStaged
  split
  · exact keeps_still sameView_refl (still_raise _)
  refine keeps_bind sameView_trans (keeps_diff faithful paths) fun staged => ?_
  split
  · exact keeps_still sameView_refl (still_raise _)
  split
  · exact keeps_still sameView_refl (still_raise _)
  refine keeps_bind sameView_trans (keeps_still sameView_refl (still_resume _)) fun _ =>
    keeps_bind sameView_trans (keeps_status faithful _ _) fun _ => ?_
  exact keeps_still sameView_refl (still_ite (still_pure _) (still_raise _))

theorem keeps_verifyCommit (limits : GitProcessLimits) (timeout : ℚ) (request : CommitRequest)
    (initial : GitRepositoryStatus) (paths : List PyStr) :
    Keeps (SameView view) (verifyCommit machine limits timeout request initial paths) :=
  keeps_bind sameView_trans (keeps_readScalar faithful .head) fun _ =>
    keeps_bind sameView_trans (keeps_readScalar faithful .parents) fun _ =>
    keeps_bind sameView_trans (keeps_readScalar faithful .subject) fun _ =>
    keeps_still sameView_refl (still_resume _)

theorem status_ok {world after : GitWorld R} {report : GitRepositoryStatus}
    (ok : status machine limits timeout world = (.ok report, after)) :
    SameView view world after ∧ after.processes = world.processes + 1 ∧
      report.headSha = (view world.repository).head ∧
      (report.stagedCount = 0 → (view world.repository).index =
        (view world.repository).headTree) := by
  have same : SameView view world after := by
    have kept := keeps_status faithful limits timeout world
    rwa [ok] at kept
  obtain ⟨_, first, required, rest⟩ := run_returned ok
  obtain rfl := still_end (still_requireRepository machine) required
  obtain ⟨result, second, ran, last⟩ := run_returned rest
  obtain ⟨_, rfl, output, ending, rfl⟩ := process_ok ran
  split at last
  · cases last
  · next whole =>
      rw [look_run, bounded_whole whole] at last
      cases parsed : parseStatus (machine.marks
          (machine.git first.processes statusArguments first.repository).1)
          ⟨output, output.size, false⟩ with
      | error raised =>
          rw [parsed] at last
          cases last
      | ok report =>
          rw [parsed] at last
          cases last
          exact ⟨same, rfl, faithful.status _ _ _ _ _ ending parsed⟩

omit faithful in
theorem spelled_ok {allowed : PyStr → Bool} {paths spelled : List PyStr}
    (safe : paths.all safeRelativePath = true)
    (ok : (paths.mapM fun path =>
      if allowed path = true then Except.ok (asPosix (pathParts path))
      else Except.error (failure .unsafePath)) = .ok spelled) : spelled = paths := by
  induction paths generalizing spelled with
  | nil =>
      cases ok
      rfl
  | cons path rest ih =>
      rw [List.all_cons, Bool.and_eq_true] at safe
      rw [List.mapM_cons] at ok
      obtain ⟨first, one, ok⟩ := bind_ok ok
      obtain ⟨others, later, ok⟩ := bind_ok ok
      cases ok
      split at one
      · cases one
        have own : path = asPosix (pathParts path) := by
          have checks := safe.1
          simp only [safeRelativePath, Bool.and_eq_true, decide_eq_true_eq] at checks
          exact checks.1.2
        rw [← own, ih safe.2 later]
      · cases one

omit faithful in
theorem resolvePaths_ok {paths resolved : List PyStr} {world after : GitWorld R}
    (safe : paths.all safeRelativePath = true)
    (ok : resolvePaths machine paths world = (.ok resolved, after)) : resolved = paths ∧
    after = world := by
  refine ⟨?_, still_end (still_resolvePaths machine paths) ok⟩
  unfold resolvePaths at ok
  rw [look_run] at ok
  cases spelled : paths.mapM fun path =>
      if machine.allowed world.repository path = true then Except.ok (asPosix (pathParts path))
      else Except.error (failure .unsafePath) with
  | error raised =>
      rw [spelled] at ok
      cases ok
  | ok others =>
      rw [spelled] at ok
      cases ok
      exact spelled_ok safe spelled

omit faithful in
theorem commitAllowed_ok {report : GitRepositoryStatus}
    (checks : commitAllowed request report = .ok ()) :
    report.headSha ≠ none ∧ report.stagedCount = 0 := by
  unfold commitAllowed at checks
  split at checks
  · cases checks
  split at checks
  · cases checks
  · next allowed =>
      simp only [not_or, Bool.not_eq_true, ne_eq, Decidable.not_not] at allowed
      exact ⟨allowed.2.1, allowed.2.2.1⟩

structure Opened (view : R → Repository) (request : CommitRequest) (start : GitWorld R)
    (initial : GitRepositoryStatus) (paths : List PyStr) (opened : GitWorld R) : Prop where
  same : SameView view start opened
  processes : opened.processes = start.processes + 1
  head : initial.headSha = (view start.repository).head
  born : ∃ sha, (view start.repository).head = some sha
  clean : (view start.repository).index = (view start.repository).headTree
  paths : paths = request.paths

theorem openCommit_ok {start opened : GitWorld R} {initial : GitRepositoryStatus}
    {paths : List PyStr}
    (ok : openCommit machine limits timeout request start = (.ok (initial, paths), opened)) :
    Opened view request start initial paths opened := by
  obtain ⟨_, first, required, rest⟩ := run_returned ok
  obtain rfl := still_end (still_requireRepository machine) required
  obtain ⟨report, second, read, allowed⟩ := run_returned rest
  obtain ⟨same, processes, head, clean⟩ := status_ok faithful read
  cases checks : commitAllowed request report with
  | error raised =>
      rw [checks] at allowed
      cases allowed
  | ok _ =>
      rw [checks, resume_ok_run] at allowed
      obtain ⟨resolved, third, spelled, last⟩ := run_returned allowed
      obtain ⟨rfl, rfl⟩ := resolvePaths_ok request.paths_safe spelled
      cases last
      obtain ⟨born, unstaged⟩ := commitAllowed_ok checks
      exact ⟨same, processes, head, Option.ne_none_iff_exists'.mp (head ▸ born),
        clean unstaged, rfl⟩

end Steps

end SynapseOS.LocalGit
