import SynapseOS.LocalGit.Rollback

/-! Other writers of the worktree, between the processes of `commit_changes`. -/

namespace SynapseOS.LocalGit

open Execution Program

def difference (old new : Tree) : PyStr → Option (Option Nat × Option Nat) := fun path =>
  if old path = new path then none else some (old path, new path)

theorem difference_inj {old new other : Tree} :
    difference old new = difference old other ↔ new = other := by
  refine ⟨fun same => funext fun path => ?_, fun same => by rw [same]⟩
  have here := congrFun same path
  unfold difference at here
  split at here
  · next first =>
      split at here
      · next second => exact first.symm.trans second
      · cases here
  · split at here
    · cases here
    · exact congrArg Prod.snd (Option.some.inj here)

/-- Git of a workspace in which others write before each process. -/
def interleaved {R : Type} (machine : Machine R) (write : Nat → R → R) : Machine R :=
  { machine with git := fun n arguments r => machine.git n arguments (write n r) }

def written (worktrees : Nat → Tree → Tree) (first : Nat) : Nat → Tree → Tree
  | 0, tree => tree
  | count + 1, tree => worktrees (first + count) (written worktrees first count tree)

theorem written_add (worktrees : Nat → Tree → Tree) (first count more : Nat) (tree : Tree) :
    written worktrees (first + count) more (written worktrees first count tree) =
      written worktrees first (count + more) tree := by
  induction more with
  | zero => rfl
  | succ more ih =>
      show worktrees (first + count + more) _ = worktrees (first + (count + more)) _
      rw [ih, Nat.add_assoc]
      rfl

def Repository.withWorktree (repository : Repository) (tree : Tree) : Repository :=
  { repository with worktree := tree }

section Writers

variable {R : Type} {machine : Machine R} {view : R → Repository}
  {pathspec : List PyStr → PyStr → Bool} {write : Nat → R → R} {worktrees : Nat → Tree → Tree}
  {limits : GitProcessLimits} {timeout : ℚ} {request : CommitRequest}

def WritesWorktree (view : R → Repository) (write : Nat → R → R) (worktrees : Nat → Tree → Tree) :
    Prop :=
  ∀ n r, view (write n r) = (view r).withWorktree (worktrees n (view r).worktree)

structure Elapsed (view : R → Repository) (worktrees : Nat → Tree → Tree) (count : Nat)
    (before after : GitWorld R) : Prop where
  processes : after.processes = before.processes + count
  seen : view after.repository = (view before.repository).withWorktree
    (written worktrees before.processes count (view before.repository).worktree)

theorem Elapsed.trans {first second third : GitWorld R} {count more : Nat}
    (left : Elapsed view worktrees count first second)
    (right : Elapsed view worktrees more second third) :
    Elapsed view worktrees (count + more) first third := by
  refine ⟨by rw [right.processes, left.processes, Nat.add_assoc], ?_⟩
  rw [right.seen, left.seen, left.processes]
  show (view first.repository).withWorktree (written worktrees (first.processes + count) more
    (written worktrees first.processes count (view first.repository).worktree)) = _
  rw [written_add]

variable (faithful : Faithful machine view pathspec) (writes : WritesWorktree view write worktrees)

include faithful writes

theorem elapsed_run {arguments : List PyStr} {limit : Nat} {world after : GitWorld R}
    {result : ProcessResult} (reads : ReadOnly arguments)
    (ok : run (interleaved machine write) timeout arguments limit [0] world = (.ok result, after)) :
    Elapsed view worktrees 1 world after := by
  obtain ⟨_, rfl, _⟩ := process_ok ok
  refine ⟨rfl, ?_⟩
  show view (machine.git _ _ (write _ _)).1 = _
  rw [faithful.reads _ _ _ reads, writes]
  rfl

theorem elapsed_readScalar {arguments : List PyStr} {world after : GitWorld R} {value : PyStr}
    (reads : ReadOnly arguments)
    (ok : readScalar (interleaved machine write) limits timeout arguments world =
      (.ok value, after)) :
    Elapsed view worktrees 1 world after := by
  obtain ⟨result, middle, ran, rest⟩ := run_returned ok
  obtain rfl := still_end (still_resume _) rest
  exact elapsed_run faithful writes reads ran

theorem status_reads {world after : GitWorld R} {report : GitRepositoryStatus}
    (ok : status (interleaved machine write) limits timeout world = (.ok report, after)) :
    Elapsed view worktrees 1 world after ∧ report.headSha = (view world.repository).head ∧
      (report.stagedCount = 0 → (view world.repository).index =
        (view world.repository).headTree) := by
  obtain ⟨_, first, required, rest⟩ := run_returned ok
  obtain rfl := still_end (still_requireRepository _) required
  obtain ⟨result, second, ran, last⟩ := run_returned rest
  have elapsed := elapsed_run faithful writes .status ran
  obtain ⟨_, rfl, output, ending, rfl⟩ := process_ok ran
  split at last
  · cases last
  · next whole =>
      rw [look_run, bounded_whole whole] at last
      cases parsed : parseStatus ((interleaved machine write).marks
          ((interleaved machine write).git first.processes statusArguments first.repository).1)
          ⟨output, output.size, false⟩ with
      | error raised =>
          rw [parsed] at last
          cases last
      | ok report =>
          rw [parsed] at last
          cases last
          have known := faithful.status _ _ _ _ _ ending parsed
          rw [writes] at known
          exact ⟨elapsed, known⟩

theorem diff_reads {paths : List PyStr} {world after : GitWorld R} {result : GitDiffResult}
    (ok : diff (interleaved machine write) limits timeout .staged paths world =
      (.ok result, after)) :
    Elapsed view worktrees 1 world after := by
  obtain ⟨_, first, required, rest⟩ := run_returned ok
  obtain rfl := still_end (still_requireRepository _) required
  obtain ⟨selected, second, resolved, reading⟩ := run_returned rest
  obtain rfl := still_end (still_resolvePaths _ _) resolved
  obtain ⟨shown, third, ran, last⟩ := run_returned reading
  have elapsed := elapsed_run faithful writes (.staged selected) ran
  refine still_end (still_bind (still_resume _) fun _ =>
    still_bind (still_resolvePaths _ _) fun _ =>
    still_ite (still_raise _) (still_ite (still_pure _) (still_raise _))) last ▸ ?_
  exact elapsed

theorem inspectStaged_reads {policy : PyStr → PolicyAnswer} {initial : GitRepositoryStatus}
    {paths : List PyStr} {world after : GitWorld R} {shown : GitDiffResult}
    (ok : inspectStaged (interleaved machine write) limits timeout policy initial paths world =
      (.ok shown, after)) :
    Elapsed view worktrees 2 world after ∧ policy shown.patch = .allow ∧
      ∃ middle, diff (interleaved machine write) limits timeout .staged paths world =
        (.ok shown, middle) := by
  unfold inspectStaged at ok
  split at ok
  · cases ok
  obtain ⟨staged, middle, read, rest⟩ := run_returned ok
  have first := diff_reads faithful writes read
  split at rest
  · cases rest
  split at rest
  · cases rest
  cases answer : policy staged.patch with
  | deny reason =>
      rw [answer] at rest
      cases rest
  | other =>
      rw [answer] at rest
      cases rest
  | raises =>
      rw [answer] at rest
      cases rest
  | allow =>
      rw [answer] at rest
      obtain ⟨rechecked, last, again, rest⟩ := run_returned (resume_ok_run middle () _ ▸ rest)
      have second := (status_reads faithful writes again).1
      split at rest
      · cases rest
        exact ⟨first.trans second, answer, middle, read⟩
      · cases rest

theorem verifyCommit_reads {initial : GitRepositoryStatus} {paths : List PyStr}
    {world after : GitWorld R} {result : GitCommitResult}
    (ok : verifyCommit (interleaved machine write) limits timeout request initial paths world =
      (.ok result, after)) :
    Elapsed view worktrees 3 world after := by
  obtain ⟨_, _, one, rest⟩ := run_returned ok
  obtain ⟨_, _, two, rest⟩ := run_returned rest
  obtain ⟨_, _, three, rest⟩ := run_returned rest
  obtain rfl := still_end (still_resume _) rest
  exact ((elapsed_readScalar faithful writes .head one).trans
    (elapsed_readScalar faithful writes .parents two)).trans
    (elapsed_readScalar faithful writes .subject three)

theorem openCommit_reads {start opened : GitWorld R} {initial : GitRepositoryStatus}
    {paths : List PyStr} (ok : openCommit (interleaved machine write) limits timeout request start =
      (.ok (initial, paths), opened)) :
    Elapsed view worktrees 1 start opened ∧ paths = request.paths ∧
      (∃ parent, (view start.repository).head = some parent) ∧
      (view start.repository).index = (view start.repository).headTree := by
  obtain ⟨_, first, required, rest⟩ := run_returned ok
  obtain rfl := still_end (still_requireRepository _) required
  obtain ⟨report, second, read, allowed⟩ := run_returned rest
  obtain ⟨elapsed, head, clean⟩ := status_reads faithful writes read
  cases checks : commitAllowed request report with
  | error raised =>
      rw [checks] at allowed
      cases allowed
  | ok _ =>
      rw [checks, resume_ok_run] at allowed
      obtain ⟨resolved, third, spelled, last⟩ := run_returned allowed
      obtain ⟨rfl, rfl⟩ := resolvePaths_ok request.paths_safe spelled
      cases last
      obtain ⟨born, unstaged⟩ := commitAllowed_ok checks
      exact ⟨elapsed, rfl, Option.ne_none_iff_exists'.mp (head ▸ born), clean unstaged⟩

end Writers

/-- With a later worktree the commit is the staged tree if the files that it takes are the same. -/
theorem onlyTree_staged (repository : Repository) (chosen : PyStr → Bool) (late : Tree)
    (clean : repository.index = repository.headTree) :
    ((repository.added chosen).withWorktree late).onlyTree chosen =
        (repository.added chosen).index ↔
      ∀ path, chosen path = true → repository.worktree path ≠ none ∨
      repository.headTree path ≠ none →
        late path = repository.worktree path := by
  have taken : ∀ path, ((repository.added chosen).withWorktree late).onlyTree chosen path =
      if chosen path = true ∧ ((repository.added chosen).index path ≠ none ∨
        repository.headTree path ≠ none) then late path else repository.headTree path :=
          fun _ => rfl
  have staged : ∀ path, chosen path = true →
      (repository.added chosen).index path = repository.worktree path := fun _ among => if_pos among
  constructor
  · intro same path among known
    rw [← staged path among] at known ⊢
    have here := congrFun same path
    rwa [taken, if_pos ⟨among, known⟩] at here
  · intro unchanged
    funext path
    rw [taken]
    by_cases among : chosen path = true
    · rw [staged path among]
      split
      · next both => exact unchanged path among both.2
      · next unknown =>
          simp only [among, true_and, not_or, Decidable.not_not] at unknown
          rw [unknown.1, unknown.2]
    · rw [if_neg fun both => among both.1, ← clean]
      exact (if_neg among).symm

section Claim

variable {R : Type} (machine : Machine R) (view : R → Repository) (limits : GitProcessLimits)
  (timeout : ℚ) (request : CommitRequest) (policy : PyStr → PolicyAnswer) (start : GitWorld R)

/-- The world whose staged difference the policy is shown, as a patch. -/
def ShowsPatch (shown : GitWorld R) (patch : PyStr) : Prop :=
  ∃ initial paths opened result difference last,
    openCommit machine limits timeout request start = (.ok (initial, paths), opened) ∧
    run machine timeout (addArguments paths) limits.stderrBytes [0] opened = (.ok result, shown) ∧
    diff machine limits timeout .staged paths shown = (.ok difference, last) ∧
    difference.patch = patch

/-- What a call that returns has committed is the staged difference that the policy allowed. -/
def CommitsInspected : Prop :=
  ∀ made after shown patch,
    commitChanges machine limits timeout request policy start = (.ok made, after) →
    ShowsPatch machine limits timeout request start shown patch → policy patch = .allow →
    ∃ sha commit, (view after.repository).head = some sha ∧
      (view after.repository).commits sha = some commit ∧
      commit.parents = (view start.repository).head.toList ∧
      difference (view start.repository).headTree commit.tree =
        difference (view shown.repository).headTree (view shown.repository).index

theorem ShowsPatch.unique {shown other : GitWorld R} {patch again : PyStr}
    (first : ShowsPatch machine limits timeout request start shown patch)
    (second : ShowsPatch machine limits timeout request start other again) : shown = other := by
  obtain ⟨_, _, _, _, _, _, opens, stages, _, _⟩ := first
  obtain ⟨_, _, _, _, _, _, opensAgain, stagesAgain, _, _⟩ := second
  obtain ⟨opened, rfl⟩ := Prod.mk.inj (opens.symm.trans opensAgain)
  obtain ⟨-, rfl⟩ := Prod.mk.inj (Except.ok.inj opened)
  exact (Prod.mk.inj (stages.symm.trans stagesAgain)).2

end Claim

/-- Between the staging and the commit nobody changes a file that the commit takes. -/
def SelectedKept (repository : Repository) (worktrees : Nat → Tree → Tree) (chosen : PyStr → Bool)
    (first : Nat) : Prop :=
  ∀ path, chosen path = true →
    written worktrees first 2 repository.worktree path ≠ none ∨ repository.headTree path ≠ none →
    written worktrees first 5 repository.worktree path =
      written worktrees first 2 repository.worktree path

section Inspection

variable {R : Type} {machine : Machine R} {view : R → Repository}
  {pathspec : List PyStr → PyStr → Bool} {write : Nat → R → R} {worktrees : Nat → Tree → Tree}
  {limits : GitProcessLimits} {timeout : ℚ} {request : CommitRequest}
  {policy : PyStr → PolicyAnswer} {start after : GitWorld R} {made : GitCommitResult}

theorem returned_view (faithful : Faithful machine view pathspec)
    (writes : WritesWorktree view write worktrees)
    (returned : commitChanges (interleaved machine write) limits timeout request policy start =
      (.ok made, after)) :
    ∃ shown patch sha,
      ShowsPatch (interleaved machine write) limits timeout request start shown patch ∧
      policy patch = .allow ∧ (view start.repository).index = (view start.repository).headTree ∧
      view shown.repository = ((view start.repository).withWorktree
        (written worktrees start.processes 2 (view start.repository).worktree)).added
          (pathspec request.paths) ∧
      (view after.repository).head = some sha ∧
      (view after.repository).commits sha = some ⟨(view start.repository).head.toList,
        ((view shown.repository).withWorktree
          (written worktrees start.processes 5 (view start.repository).worktree)).onlyTree
            (pathspec request.paths)⟩ := by
  obtain ⟨initial, paths, opened, result, staged, shownDifference, inspected, last,
    committed, opens, stages, inspects, commits, verifies⟩ := commitChanges_returned returned
  obtain ⟨first, rfl, _, clean⟩ := openCommit_reads faithful writes opens
  obtain ⟨second, allowed, middle, shows⟩ := inspectStaged_reads faithful writes inspects
  have third := verifyCommit_reads faithful writes verifies
  obtain ⟨_, stagedIs, output, ending, _⟩ := process_ok stages
  have adds : view staged.repository = ((view start.repository).withWorktree
      (written worktrees start.processes 2 (view start.repository).worktree)).added
        (pathspec request.paths) := by
    rw [stagedIs]
    rcases faithful.add opened.processes (write opened.processes opened.repository) request.paths
      with effect | ⟨_, none_⟩
    · refine effect.trans ?_
      rw [writes, first.seen, first.processes]
      rfl
    · exact absurd ending (none_ output)
  have late : view (write inspected.processes inspected.repository) =
      (view staged.repository).withWorktree
        (written worktrees start.processes 5 (view start.repository).worktree) := by
    have counts : staged.processes = start.processes + 2 := by rw [stagedIs, first.processes]
    have tree : (view staged.repository).worktree =
        written worktrees start.processes 2 (view start.repository).worktree := by rw [adds]; rfl
    rw [writes, second.seen, second.processes, counts, tree, written_add]
    rfl
  obtain ⟨_, committedIs, output, ending, _⟩ := process_ok commits
  rcases faithful.commit inspected.processes
    (write inspected.processes inspected.repository) request
    request.paths with ⟨sha, _, effect⟩ | ⟨_, none_⟩
  · rw [late] at effect
    have seen : view committed.repository = ((view staged.repository).withWorktree
        (written worktrees start.processes 5 (view start.repository).worktree)).committed
          (pathspec request.paths) sha := by
      rw [committedIs]
      exact effect
    refine ⟨staged, shownDifference.patch, sha,
      ⟨initial, request.paths, opened, result, shownDifference,
      middle, opens, stages, shows, rfl⟩, allowed, clean, adds, ?_, ?_⟩
    · rw [third.seen, seen]
      rfl
    · have head : (view staged.repository).head = (view start.repository).head := by rw [adds]; rfl
      rw [third.seen, seen, ← head]
      exact if_pos rfl
  · exact absurd ending (none_ output)

/-- A call that commits what the policy allowed has left its files alone meanwhile. -/
theorem inspected_kept (faithful : Faithful machine view pathspec)
    (writes : WritesWorktree view write worktrees)
    (returned : commitChanges (interleaved machine write) limits timeout request policy start =
      (.ok made, after))
    (inspected : CommitsInspected (interleaved machine write) view limits timeout request
      policy start) :
    SelectedKept (view start.repository) worktrees (pathspec request.paths) start.processes := by
  obtain ⟨shown, patch, sha, shows, allowed, clean, staged, head, commits⟩ :=
    returned_view faithful writes returned
  obtain ⟨_, commit, headAgain, commitAgain, _, same⟩ :=
    inspected made after shown patch returned shows allowed
  obtain rfl := Option.some.inj (head.symm.trans headAgain)
  obtain rfl := Option.some.inj (commits.symm.trans commitAgain)
  rw [staged] at same
  have trees := difference_inj.mp same
  exact (onlyTree_staged ((view start.repository).withWorktree
    (written worktrees start.processes 2 (view start.repository).worktree)) _ _ clean).mp trees

theorem kept_inspected (faithful : Faithful machine view pathspec)
    (writes : WritesWorktree view write worktrees)
    (returned : commitChanges (interleaved machine write) limits timeout request policy start =
      (.ok made, after))
    (kept : SelectedKept (view start.repository) worktrees
      (pathspec request.paths) start.processes) :
    CommitsInspected (interleaved machine write) view limits timeout request policy start := by
  intro again last shown patch returnedAgain shows allowed
  obtain ⟨_, rfl⟩ := Prod.mk.inj (returned.symm.trans returnedAgain)
  obtain ⟨_, _, sha, showsAgain, _, clean, staged, head, commits⟩ :=
    returned_view faithful writes returned
  obtain rfl := shows.unique _ _ _ _ _ showsAgain
  have trees := (onlyTree_staged ((view start.repository).withWorktree
    (written worktrees start.processes 2 (view start.repository).worktree)) _ _ clean).mpr kept
  refine ⟨sha, _, head, commits, rfl, ?_⟩
  rw [staged]
  exact difference_inj.mpr trees

/-- A call commits what the policy allowed exactly when the files it takes are kept meanwhile. -/
theorem inspected_committed (faithful : Faithful machine view pathspec)
    (writes : WritesWorktree view write worktrees) :
    CommitsInspected (interleaved machine write) view limits timeout request policy start ↔
      ((∃ made after, commitChanges (interleaved machine write) limits timeout request
        policy start =
          (.ok made, after)) →
        SelectedKept (view start.repository) worktrees
          (pathspec request.paths) start.processes) := by
  constructor
  · intro inspected ⟨made, after, returned⟩
    exact inspected_kept faithful writes returned inspected
  · intro kept made after shown patch returned
    exact kept_inspected faithful writes returned (kept ⟨made, after, returned⟩) made after shown
      patch returned

end Inspection

def sampleWrite (before : Nat) : Nat → SampleState → SampleState := fun n state =>
  if n = before then { state with worktree := 2 } else state

def sampleWorktrees (before : Nat) : Nat → Tree → Tree := fun n tree =>
  if n = before then sampleTree (some 2) else tree

theorem sample_writes (before : Nat) :
    WritesWorktree sampleView (sampleWrite before) (sampleWorktrees before) := by
  intro n state
  unfold sampleWrite sampleWorktrees
  split <;> rfl

theorem sample_rewritten :
    (commitChanges (interleaved (sampleMachine fun _ => false) (sampleWrite 4))
      sampleLimits 1 sampleRequest (fun _ => .allow) ⟨{}, 0⟩).1 =
      .ok ⟨sampleRequest.expectedBranch, sampleSecond, sampleFirst, sampleRequest.subject, 1⟩ := by
  let machine := interleaved (sampleMachine fun _ => false) (sampleWrite 4)
  let staged : SampleState := { index := some 1 }
  let last : SampleState := ⟨some 2, some 2, 2⟩
  let difference : GitDiffResult := ⟨.staged, .ofString "+x", [sampleFile], 1, 0, false,
    (bytesOf sampleOutput).size⟩
  obtain ⟨plain, short, parsed⟩ := sampleOutput_parsed
  have size : (bytesOf sampleOutput).size ≤ 1024 := (size_bytesOf plain).trans_le short
  have resolves : ∀ world, resolvePaths machine [sampleFile] world = (.ok [sampleFile], world) :=
    sample_resolves fun _ _ => rfl
  have adds : run machine 1 (addArguments [sampleFile]) sampleLimits.stderrBytes [0] ⟨{}, 1⟩ =
      (.ok ⟨0, ⟨bytesOf [], 0, false⟩⟩, ⟨staged, 2⟩) := rfl
  have shows : diff machine sampleLimits 1 .staged [sampleFile] ⟨staged, 2⟩ = (.ok difference,
      ⟨staged, 3⟩) := by
    have repository : requireRepository machine ⟨staged, 2⟩ = (.ok (), ⟨staged, 2⟩) := rfl
    have process : run machine 1 (diffArguments .staged [sampleFile]) sampleLimits.diffBytes
        [0] ⟨staged, 2⟩ =
        (.ok ⟨0, bytesOf sampleOutput, (bytesOf sampleOutput).size, false⟩, ⟨staged, 3⟩) :=
      process_exits one_pos rfl size
    have valid : difference.check = true := by
      have patch : (PyStr.ofString "+x").length ≤ 2 := by decide
      unfold GitDiffResult.check
      rw [decide_eq_true_eq]
      dsimp only [difference, List.length_singleton]
      omega
    unfold diff
    rw [run_ok repository, run_ok (resolves _), run_ok process]
    dsimp only
    rw [parsed, resume_ok_run]
    refine (run_ok (resolves _)).trans ?_
    rw [if_neg fun other => other rfl, if_pos valid]
    rfl
  have rechecks : status machine sampleLimits 1 ⟨staged, 3⟩ = (.ok (sampleReport false true),
      ⟨staged, 4⟩) :=
    status_exits rfl one_pos rfl (sample_size false true) (sample_report false true)
  have inspects :
    inspectStaged machine sampleLimits 1 (fun _ => .allow) (sampleReport false false) [sampleFile]
      ⟨staged, 2⟩ = (.ok difference, ⟨staged, 4⟩) := by
    have patch : difference.patch ≠ [] := by
      dsimp only [difference]
      rw [PyStr.ofString_ofList]
      exact List.cons_ne_nil _ _
    have known :
        ¬ ([sampleFile].all safeRelativePath = false ∨ ¬ [sampleFile].Nodup ∨
          128 < [sampleFile].length) := by
      have safe : [sampleFile].all safeRelativePath = true := sampleRequest.paths_safe
      rw [safe]
      simp
    unfold inspectStaged
    split
    · next refused => exact absurd refused known
    · refine (run_ok shows).trans ?_
      rw [if_neg Bool.false_ne_true, if_neg patch]
      dsimp only [policyAllows]
      rw [resume_ok_run]
      refine (run_ok rechecks).trans ?_
      rw [if_pos (by simp [unchangedSince, sampleReport, GitRepositoryStatus.operationInProgress])]
      rfl
  have commits : runCommit machine sampleLimits 1 sampleRequest [sampleFile] ⟨staged, 4⟩ =
      (.ok ⟨0, ⟨bytesOf [], 0, false⟩⟩, ⟨last, 5⟩) := rfl
  have verifies :
    verifyCommit machine sampleLimits 1 sampleRequest (sampleReport false false) [sampleFile]
      ⟨last, 5⟩ =
        (.ok ⟨sampleRequest.expectedBranch, sampleSecond, sampleFirst, sampleRequest.subject, 1⟩,
        ⟨last, 8⟩) := by
    have scalar : ∀ {n arguments text}, machine.git n arguments last = (last,
        .exits 0 (bytesOf text)) →
        ascii text = true ∧ text ≠ [] ∧ text.length ≤ 1024 ∧ strip text = text ∧ 0 ∉ text ∧
        0x0A ∉ text → 
        readScalar machine sampleLimits 1 arguments ⟨last, n⟩ = (.ok text, ⟨last, n + 1⟩) := by
      intro n arguments text ends ⟨plain, some_, short, stripped, single⟩
      have after : processed machine arguments ⟨last, n⟩ = ⟨last, n + 1⟩ := by
        unfold processed
        rw [ends]
      rw [← after]
      exact scalar_exits one_pos (congrArg Prod.snd ends) ((size_bytesOf plain).trans_le short)
        (sample_scalar plain some_ stripped single)
    obtain ⟨plain, some_, short, stripped, single, few⟩ := sampleSubject_plain
    have head : readScalar machine sampleLimits 1 headArguments ⟨last, 5⟩ =
        (.ok sampleSecond, ⟨last, 6⟩) :=
      scalar rfl (by decide)
    have parents : readScalar machine sampleLimits 1 parentArguments ⟨last, 6⟩ =
        (.ok (sampleSecond ++ 0x20 :: sampleFirst), ⟨last, 7⟩) := scalar rfl (by decide)
    have subject : readScalar machine sampleLimits 1 subjectArguments ⟨last, 7⟩ =
        (.ok sampleRequest.subject, ⟨last, 8⟩) := scalar rfl ⟨plain, some_, short, stripped, single⟩
    have parts : words (sampleSecond ++ 0x20 :: sampleFirst) = [sampleSecond, sampleFirst] := by
      decide
    have made : commitResult sampleRequest (sampleReport false false) [sampleFile] sampleSecond
        (sampleSecond ++ 0x20 :: sampleFirst) sampleRequest.subject =
          .ok ⟨sampleRequest.expectedBranch, sampleSecond, sampleFirst,
            sampleRequest.subject, 1⟩ := by
      have second : shaText sampleSecond = true := (sampleSha_valid true).1
      have first : shaText sampleFirst = true := (sampleSha_valid false).1
      have valid : GitCommitResult.check ⟨sampleRequest.expectedBranch, sampleSecond, sampleFirst,
          sampleRequest.subject, 1⟩ = true := by
        unfold GitCommitResult.check
        simp only [sampleBranch_valid.1, second, first, Bool.true_and, decide_eq_true_eq]
        exact ⟨List.length_pos_of_ne_nil some_, few, le_rfl, by omega⟩
      unfold commitResult
      rw [parts]
      dsimp only
      rw [if_neg]
      · exact if_pos valid
      · rintro (itself | parent | subject)
        · exact itself rfl
        · exact parent rfl
        · exact subject rfl
    unfold verifyCommit
    rw [run_ok head, run_ok parents, run_ok subject, made]
    rfl
  have body : (do
      let _ ← inspectStaged machine sampleLimits 1 (fun _ => .allow)
        (sampleReport false false) [sampleFile]
      runCommit machine sampleLimits 1 sampleRequest [sampleFile]) ⟨staged, 2⟩ =
      (.ok ⟨0, ⟨bytesOf [], 0, false⟩⟩, ⟨last, 5⟩) := (run_ok inspects).trans commits
  have whole : commitChanges machine sampleLimits 1 sampleRequest (fun _ => .allow) ⟨{}, 0⟩ =
      (.ok ⟨sampleRequest.expectedBranch, sampleSecond, sampleFirst, sampleRequest.subject, 1⟩,
        ⟨last, 8⟩) := by
    refine (run_ok (sample_opens (fun _ => rfl) (fun _ _ => rfl) rfl rfl)).trans
      ((run_attempt adds).trans ?_)
    exact (run_attempt body).trans verifies
  rw [whole]

/-- A file rewritten after the policy allowed its patch is committed as it then is. -/
theorem commits_uninspected :
    ¬ CommitsInspected (interleaved (sampleMachine fun _ => false) (sampleWrite 4)) sampleView
      sampleLimits 1 sampleRequest (fun _ => .allow) ⟨{}, 0⟩ := by
  intro inspected
  have returned := sample_rewritten
  generalize whole :
    commitChanges (interleaved (sampleMachine fun _ => false) (sampleWrite 4)) sampleLimits 1
    sampleRequest (fun _ => .allow) ⟨{}, 0⟩ = result at returned
  obtain ⟨outcome, after⟩ := result
  obtain rfl : outcome = _ := returned
  have kept := inspected_kept (sample_faithful _) (sample_writes 4) whole inspected
  exact absurd (kept sampleFile (by decide) (by decide)) (by decide)

theorem inspected_committed_sample :
    CommitsInspected (interleaved (sampleMachine fun _ => false) (sampleWrite 0)) sampleView
      sampleLimits 1
        sampleRequest (fun _ => .allow) ⟨{}, 0⟩ ↔
      ((∃ made after, commitChanges (interleaved (sampleMachine fun _ => false) (sampleWrite 0))
        sampleLimits 1
          sampleRequest (fun _ => .allow) ⟨{}, 0⟩ = (.ok made, after)) →
        SelectedKept (sampleView {}) (sampleWorktrees 0) (samplePathspec sampleRequest.paths) 0) :=
  inspected_committed (sample_faithful _) (sample_writes 0)

end SynapseOS.LocalGit
