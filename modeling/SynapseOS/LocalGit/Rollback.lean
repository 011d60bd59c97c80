import SynapseOS.LocalGit.Repository

/-! What `commit_changes` leaves behind when it raises, and when it returns. -/

namespace SynapseOS.LocalGit

open Execution Program

/-- The path is one of the requested ones or below one of them. -/
def LiesUnder (paths : List PyStr) (path : PyStr) : Prop :=
  ∃ root ∈ paths, root = .ofString "." ∨ path = root ∨ root ++ [0x2F] <+: path

/-- A call that raises leaves the index and the head; one that returns adds a commit of the
paths. -/
def KeepsPromise (request : CommitRequest) (before after : Repository) :
    Except Raised GitCommitResult → Prop
  | .error _ =>
      after.index = before.index ∧ after.branch = before.branch ∧ after.head = before.head
  | .ok _ => ∃ sha commit parent, before.head = some parent ∧ before.commits sha = none ∧
      after.commits = Function.update before.commits sha (some commit) ∧
      after.branch = before.branch ∧ after.head = some sha ∧ commit.parents = [parent] ∧
      ∀ path, commit.tree path ≠ before.headTree path → LiesUnder request.paths path

def Restores {R : Type} (machine : Machine R) (view : R → Repository)
    (pathspec : List PyStr → PyStr → Bool) : Prop :=
  ∀ n r paths, (∃ output, (machine.git n (resetArguments paths) r).2 = .exits 0 output) ∧
    view (machine.git n (resetArguments paths) r).1 = (view r).unstaged (pathspec paths)

section Repositories

variable {repository : Repository} {chosen : PyStr → Bool}

/-- A staging of paths of a clean index is undone by taking them from the commit. -/
theorem unstaged_added (clean : repository.index = repository.headTree) :
    ((repository.added chosen).unstaged chosen).index = repository.index := by
  funext path
  show (if chosen path = true then repository.headTree path
    else if chosen path = true then repository.worktree path else repository.index path) =
      repository.index path
  split
  · rw [clean]
  · rfl

/-- After a staging the commit takes the same paths from the worktree. -/
theorem onlyTree_added (repository : Repository) (chosen : PyStr → Bool) (path : PyStr) :
    (repository.added chosen).onlyTree chosen path =
      if chosen path = true then repository.worktree path else repository.headTree path := by
  unfold Repository.onlyTree
  by_cases taken : chosen path = true
  · have staged : (repository.added chosen).index path = repository.worktree path := if_pos taken
    rw [if_pos taken]
    split
    · rfl
    · next unknown =>
        simp only [taken, true_and, not_or, Decidable.not_not] at unknown
        rw [unknown.2, ← staged, unknown.1]
  · rw [if_neg taken, if_neg fun both => taken both.1]
    rfl

end Repositories

section Courses

variable {R : Type} (machine : Machine R) (view : R → Repository)
  (pathspec : List PyStr → PyStr → Bool) (limits : GitProcessLimits) (timeout : ℚ)
  (request : CommitRequest) (policy : PyStr → PolicyAnswer) (start : GitWorld R)

def ReachesCommit (initial : GitRepositoryStatus) (paths : List PyStr) (inspected : GitWorld R) :
    Prop :=
  ∃ opened result staged difference,
    openCommit machine limits timeout request start = (.ok (initial, paths), opened) ∧
    run machine timeout (addArguments paths) limits.stderrBytes [0] opened = (.ok result, staged) ∧
    inspectStaged machine limits timeout policy initial paths staged = (.ok difference, inspected)

/-- No process is reported as failed after its effect, no check fails after the commit, and the
pathspec selects no changed file that is not under the requested paths. -/
structure Undisturbed : Prop where
  staging : ∀ initial paths opened,
    openCommit machine limits timeout request start = (.ok (initial, paths), opened) →
    ∀ raised staged,
      run machine timeout (addArguments paths) limits.stderrBytes [0] opened =
        (.error raised, staged) →
      (view staged.repository).index = (view start.repository).index
  committing : ∀ initial paths inspected,
    ReachesCommit machine limits timeout request policy start initial paths inspected →
    ∀ raised committed,
      runCommit machine limits timeout request paths inspected = (.error raised, committed) →
      (view committed.repository).head = (view start.repository).head
  verifying : ∀ initial paths inspected,
    ReachesCommit machine limits timeout request policy start initial paths inspected →
    ∀ result committed,
      runCommit machine limits timeout request paths inspected = (.ok result, committed) →
      ∃ commit verified,
        verifyCommit machine limits timeout request initial paths committed = (.ok commit, verified)
  selecting : ∀ initial paths inspected,
    ReachesCommit machine limits timeout request policy start initial paths inspected →
    ∀ result committed,
      runCommit machine limits timeout request paths inspected = (.ok result, committed) →
      ∀ path, pathspec request.paths path = true →
        (view start.repository).worktree path ≠ (view start.repository).headTree path →
        LiesUnder request.paths path

end Courses

section Stages

variable {R : Type} {machine : Machine R} {view : R → Repository}
  {pathspec : List PyStr → PyStr → Bool} {limits : GitProcessLimits} {timeout : ℚ}
  {request : CommitRequest} {policy : PyStr → PolicyAnswer} {start : GitWorld R}
  {initial : GitRepositoryStatus} {paths : List PyStr}

section Equations

variable {opened staged inspected committed : GitWorld R} {raised : Raised}
  {result : ProcessResult} {difference : GitDiffResult}

theorem commitChanges_closed
    (closed : openCommit machine limits timeout request start = (.error raised, opened)) :
    commitChanges machine limits timeout request policy start = (.error raised, opened) := by
  unfold commitChanges
  rw [run_error closed]

variable (opens : openCommit machine limits timeout request start = (.ok (initial, paths), opened))

include opens

theorem commitChanges_unstaged
    (fails_ : run machine timeout (addArguments paths) limits.stderrBytes [0] opened =
      (.error raised, staged)) :
    commitChanges machine limits timeout request policy start =
      (.error (handled raised), staged) := by
  unfold commitChanges
  rw [run_ok opens]
  dsimp only
  rw [run_attempt fails_]
  rfl

variable (stages : run machine timeout (addArguments paths) limits.stderrBytes [0] opened =
  (.ok result, staged))

include stages

theorem commitChanges_restored
    (fails_ : (inspectStaged machine limits timeout policy initial paths >>= fun _ =>
      runCommit machine limits timeout request paths) staged = (.error raised, committed)) :
    commitChanges machine limits timeout request policy start =
      (restoreIndex machine limits timeout paths >>= fun _ => raise (handled raised))
        committed := by
  unfold commitChanges
  rw [run_ok opens]
  dsimp only
  rw [run_attempt stages]
  dsimp only
  rw [run_attempt fails_]

theorem commitChanges_committed
    (inspects : inspectStaged machine limits timeout policy initial paths staged =
      (.ok difference, inspected))
    {last : ProcessResult}
    (commits : runCommit machine limits timeout request paths inspected = (.ok last, committed)) :
    commitChanges machine limits timeout request policy start =
      verifyCommit machine limits timeout request initial paths committed := by
  have both : (inspectStaged machine limits timeout policy initial paths >>= fun _ =>
      runCommit machine limits timeout request paths) staged = (.ok last, committed) :=
    (run_ok inspects).trans commits
  unfold commitChanges
  rw [run_ok opens]
  dsimp only
  rw [run_attempt stages]
  dsimp only
  rw [run_attempt both]

omit opens stages in
theorem commitChanges_returned {made : GitCommitResult} {after : GitWorld R}
    (returned : commitChanges machine limits timeout request policy start = (.ok made, after)) :
    ∃ initial paths opened result staged difference inspected last committed,
      openCommit machine limits timeout request start = (.ok (initial, paths), opened) ∧
      run machine timeout (addArguments paths) limits.stderrBytes [0] opened =
        (.ok result, staged) ∧
      inspectStaged machine limits timeout policy initial paths staged =
        (.ok difference, inspected) ∧
      runCommit machine limits timeout request paths inspected = (.ok last, committed) ∧
      verifyCommit machine limits timeout request initial paths committed = (.ok made, after) := by
  rcases opens : openCommit machine limits timeout request start
    with ⟨raised | ⟨initial, paths⟩, opened⟩
  · rw [commitChanges_closed opens] at returned
    cases returned
  rcases stages : run machine timeout (addArguments paths) limits.stderrBytes [0] opened with
    ⟨raised | result, staged⟩
  · rw [commitChanges_unstaged opens stages] at returned
    cases returned
  rcases both : (inspectStaged machine limits timeout policy initial paths >>= fun _ =>
      runCommit machine limits timeout request paths) staged with ⟨raised | last, committed⟩
  · rw [commitChanges_restored opens stages both] at returned
    obtain ⟨_, _, _, raises⟩ := run_returned returned
    cases raises
  · obtain ⟨difference, inspected, inspects, commits⟩ := run_returned both
    rw [commitChanges_committed opens stages inspects commits] at returned
    exact ⟨initial, paths, opened, result, staged, difference, inspected, last,
      committed, rfl, stages, inspects, commits, returned⟩

end Equations

section Effects

variable (faithful : Faithful machine view pathspec)
    {opened staged inspected committed : GitWorld R}
  {result : ProcessResult} {difference : GitDiffResult}

include faithful

theorem added_view
    (stages : run machine timeout (addArguments paths) limits.stderrBytes [0] opened =
      (.ok result, staged)) :
    0 < timeout ∧ view staged.repository = (view opened.repository).added (pathspec paths) := by
  obtain ⟨positive, rfl, output, ending, _⟩ := process_ok stages
  rcases faithful.add opened.processes opened.repository paths with effect | ⟨_, none_⟩
  · exact ⟨positive, effect⟩
  · exact absurd ending (none_ output)

theorem commit_view (request : CommitRequest) (paths : List PyStr) (positive : 0 < timeout) :
    (∃ sha, (view inspected.repository).commits sha = none ∧
      view (runCommit machine limits timeout request paths inspected).2.repository =
        (view inspected.repository).committed (pathspec paths) sha) ∨
    view (runCommit machine limits timeout request paths inspected).2.repository =
        view inspected.repository ∧
      ∃ raised, (runCommit machine limits timeout request paths inspected).1 = .error raised := by
  rcases process_cases machine timeout (commitArguments request paths)
    limits.statusBytes inspected with ⟨refused, _⟩ | ⟨_, last, ends⟩
  · exact absurd positive (not_lt.mpr refused)
  · unfold runCommit
    rw [last]
    rcases faithful.commit inspected.processes inspected.repository request paths with
      ⟨sha, fresh, effect⟩ | ⟨effect, none_⟩
    · exact .inl ⟨sha, fresh, effect⟩
    · rcases ends with ⟨output, ending, _⟩ | ⟨_, raised, _, outcome⟩
      · exact absurd ending (none_ output)
      · exact .inr ⟨effect, raised, outcome⟩

omit faithful in
theorem restored_view (limits : GitProcessLimits) (restores : Restores machine view pathspec)
    (positive : 0 < timeout) (world : GitWorld R) :
    ∃ after, restoreIndex machine limits timeout paths world = (.ok (), after) ∧
      view after.repository = (view world.repository).unstaged (pathspec paths) := by
  obtain ⟨⟨output, ending⟩, effect⟩ := restores world.processes world.repository paths
  rcases process_cases machine timeout (resetArguments paths)
    limits.stderrBytes world with ⟨refused, _⟩ | ⟨_, last, ⟨_, _, outcome⟩ | ⟨none_, _⟩⟩
  · exact absurd positive (not_lt.mpr refused)
  · refine ⟨⟨_, world.processes + 1⟩, ?_, effect⟩
    unfold restoreIndex
    rw [run_attempt (Prod.ext outcome last)]
    rfl
  · exact absurd ending (none_ output)

theorem reached_view
    (reaches : ReachesCommit machine limits timeout request policy start initial paths inspected) :
    0 < timeout ∧ paths = request.paths ∧
      (∃ parent, (view start.repository).head = some parent) ∧
      (view start.repository).index = (view start.repository).headTree ∧
      view inspected.repository = (view start.repository).added (pathspec paths) := by
  obtain ⟨opened, result, staged, difference, opens, stages, inspects⟩ := reaches
  have known := openCommit_ok faithful opens
  obtain ⟨positive, effect⟩ := added_view faithful stages
  have kept := keeps_inspectStaged faithful limits timeout policy initial paths staged
  rw [inspects] at kept
  exact ⟨positive, known.paths, known.born, known.clean, by rw [kept, effect, known.same]⟩

end Effects

section Cases

variable (faithful : Faithful machine view pathspec) (restores : Restores machine view pathspec)
  {opened staged inspected committed : GitWorld R} {raised : Raised} {result : ProcessResult}
  {difference : GitDiffResult}

abbrev Promised (request : CommitRequest) (view : R → Repository) (start : GitWorld R)
    (left : Except Raised GitCommitResult × GitWorld R) : Prop :=
  KeepsPromise request (view start.repository) (view left.2.repository) left.1

include faithful

theorem promised_unstaged
    (opens : openCommit machine limits timeout request start = (.ok (initial, paths), opened))
    (fails_ : run machine timeout (addArguments paths) limits.stderrBytes [0] opened =
      (.error raised, staged)) :
    Promised request view start (commitChanges machine limits timeout request policy start) ↔
      (view staged.repository).index = (view start.repository).index := by
  have known := openCommit_ok faithful opens
  rw [commitChanges_unstaged opens fails_]
  have still : (view staged.repository).branch = (view start.repository).branch ∧
      (view staged.repository).head = (view start.repository).head := by
    rw [← show view opened.repository = view start.repository from known.same]
    rcases process_cases machine timeout (addArguments paths) limits.stderrBytes opened with
      ⟨_, refused⟩ | ⟨_, last, _⟩
    · rw [fails_] at refused
      cases refused
      exact ⟨rfl, rfl⟩
    · rw [fails_] at last
      obtain rfl := last
      rcases faithful.add opened.processes opened.repository paths with effect | ⟨effect, _⟩
      · rw [effect]
        exact ⟨rfl, rfl⟩
      · rw [effect]
        exact ⟨rfl, rfl⟩
  exact ⟨fun kept => kept.1, fun same => ⟨same, still⟩⟩

include restores

theorem promised_restored
    (opens : openCommit machine limits timeout request start = (.ok (initial, paths), opened))
    (stages : run machine timeout (addArguments paths) limits.stderrBytes [0] opened =
      (.ok result, staged))
    (fails_ : (inspectStaged machine limits timeout policy initial paths >>= fun _ =>
      runCommit machine limits timeout request paths) staged = (.error raised, committed))
    (left : view committed.repository = (view start.repository).added (pathspec paths)) :
    Promised request view start (commitChanges machine limits timeout request policy start) := by
  have known := openCommit_ok faithful opens
  obtain ⟨positive, _⟩ := added_view faithful stages
  obtain ⟨after, restored, effect⟩ := restored_view limits restores positive committed
  rw [commitChanges_restored opens stages fails_, run_ok restored]
  show (view after.repository).index = _ ∧ (view after.repository).branch = _ ∧
    (view after.repository).head = _
  rw [effect, left]
  exact ⟨unstaged_added known.clean, rfl, rfl⟩

theorem broken_committing
    (reaches : ReachesCommit machine limits timeout request policy start initial paths inspected)
    (fails_ : runCommit machine limits timeout request paths inspected = (.error raised, committed))
    (moved : (view committed.repository).head ≠ (view start.repository).head) :
    ¬ Promised request view start (commitChanges machine limits timeout request policy start) := by
  obtain ⟨positive, _⟩ := reached_view faithful reaches
  obtain ⟨opened, result, staged, difference, opens, stages, inspects⟩ := reaches
  obtain ⟨after, restored, effect⟩ := restored_view limits restores positive committed
  rw [commitChanges_restored opens stages ((run_ok inspects).trans fails_), run_ok restored]
  intro kept
  have head : (view after.repository).head = (view start.repository).head := kept.2.2
  rw [effect] at head
  exact moved head

omit restores

theorem committed_view
    (reaches : ReachesCommit machine limits timeout request policy start initial paths inspected)
    {last : ProcessResult}
    (commits : runCommit machine limits timeout request paths inspected = (.ok last, committed)) :
    ∃ sha parent, (view start.repository).head = some parent ∧
      (view start.repository).commits sha = none ∧ sha ≠ parent ∧
      view committed.repository =
        ((view start.repository).added (pathspec paths)).committed (pathspec paths) sha := by
  obtain ⟨positive, _, ⟨parent, born⟩, _, staged⟩ := reached_view faithful reaches
  rcases commit_view faithful request paths positive with
    ⟨sha, fresh, effect⟩ | ⟨_, raised, outcome⟩
  · rw [commits] at effect
    rw [staged] at fresh effect
    have held := faithful.rooted _ parent born
    exact ⟨sha, parent, born, fresh, fun same => held (same ▸ fresh), effect⟩
  · rw [commits] at outcome
    cases outcome

theorem broken_verifying
    (reaches : ReachesCommit machine limits timeout request policy start initial paths inspected)
    {last : ProcessResult} {verified : GitWorld R}
    (commits : runCommit machine limits timeout request paths inspected = (.ok last, committed))
    (fails_ : verifyCommit machine limits timeout request initial paths committed =
      (.error raised, verified)) :
    ¬ Promised request view start (commitChanges machine limits timeout request policy start) := by
  obtain ⟨sha, parent, born, _, other, effect⟩ := committed_view faithful reaches commits
  obtain ⟨opened, result, staged, difference, opens, stages, inspects⟩ := reaches
  rw [commitChanges_committed opens stages inspects commits, fails_]
  intro kept
  have kept_ := keeps_verifyCommit faithful limits timeout request initial paths committed
  rw [fails_] at kept_
  have head : (view verified.repository).head = (view start.repository).head := kept.2.2
  rw [kept_, effect, born] at head
  exact other (Option.some.inj head)

theorem promised_verified
    (reaches : ReachesCommit machine limits timeout request policy start initial paths inspected)
    {last : ProcessResult} {verified : GitWorld R} {commit : GitCommitResult}
    (commits : runCommit machine limits timeout request paths inspected = (.ok last, committed))
    (verifies : verifyCommit machine limits timeout request initial paths committed =
      (.ok commit, verified)) :
    Promised request view start (commitChanges machine limits timeout request policy start) ↔
      ∀ path, pathspec request.paths path = true →
        (view start.repository).worktree path ≠ (view start.repository).headTree path →
        LiesUnder request.paths path := by
  obtain ⟨_, rfl, _⟩ := reached_view faithful reaches
  obtain ⟨sha, parent, born, fresh, _, effect⟩ := committed_view faithful reaches commits
  have left : view verified.repository =
      ((view start.repository).added (pathspec request.paths)).committed
        (pathspec request.paths) sha := by
    have kept := keeps_verifyCommit faithful limits timeout request initial request.paths committed
    rw [verifies] at kept
    exact kept.trans effect
  obtain ⟨opened, result, staged, difference, opens, stages, inspects⟩ := reaches
  rw [commitChanges_committed opens stages inspects commits, verifies]
  show KeepsPromise request _ (view verified.repository) (.ok commit) ↔ _
  rw [left]
  constructor
  · rintro ⟨other, made, _, _, _, commits, _, head, _, under⟩ path matches_ changed
    have own : other = sha := (Option.some.inj head).symm
    have tree := congrFun commits sha
    rw [own, Function.update_self] at tree
    have made_ := Option.some.inj ((if_pos rfl).symm.trans tree)
    refine under path fun same => changed ?_
    rw [← made_] at same
    have taken := onlyTree_added (view start.repository) (pathspec request.paths) path
    rw [if_pos matches_] at taken
    exact taken.symm.trans same
  · intro selects
    refine ⟨sha, ⟨(view start.repository).head.toList,
      ((view start.repository).added (pathspec request.paths)).onlyTree (pathspec request.paths)⟩,
      parent, born, fresh, ?_, rfl, rfl, ?_, fun path changed => ?_⟩
    · funext other
      rw [Function.update_apply]
      rfl
    · show (view start.repository).head.toList = [parent]
      rw [born]
      rfl
    · have taken := onlyTree_added (view start.repository) (pathspec request.paths) path
      by_cases matches_ : pathspec request.paths path = true
      · rw [if_pos matches_] at taken
        exact selects path matches_ fun same => changed (taken.trans same)
      · rw [if_neg matches_] at taken
        exact absurd taken changed

end Cases

section Conditions

variable {opened staged inspected : GitWorld R} {raised : Raised} {result : ProcessResult}

theorem undisturbed_unreached
    (none_ : ∀ initial paths inspected,
      ¬ ReachesCommit machine limits timeout request policy start initial paths inspected) :
    Undisturbed machine view pathspec limits timeout request policy start ↔
      ∀ initial paths opened,
        openCommit machine limits timeout request start = (.ok (initial, paths), opened) →
        ∀ raised staged,
          run machine timeout (addArguments paths) limits.stderrBytes [0] opened =
            (.error raised, staged) →
          (view staged.repository).index = (view start.repository).index :=
  ⟨fun held => held.staging, fun staging =>
    ⟨staging, fun _ _ _ reaches => absurd reaches (none_ _ _ _),
      fun _ _ _ reaches => absurd reaches (none_ _ _ _),
      fun _ _ _ reaches => absurd reaches (none_ _ _ _)⟩⟩

theorem reaches_unique {other : GitRepositoryStatus} {others : List PyStr} {last : GitWorld R}
    (first : ReachesCommit machine limits timeout request policy start initial paths inspected)
    (second : ReachesCommit machine limits timeout request policy start other others last) :
    other = initial ∧ others = paths ∧ last = inspected := by
  obtain ⟨_, _, _, _, opens, stages, inspects⟩ := first
  obtain ⟨_, _, _, _, opens', stages', inspects'⟩ := second
  rw [opens] at opens'
  cases opens'
  rw [stages] at stages'
  cases stages'
  rw [inspects] at inspects'
  cases inspects'
  exact ⟨rfl, rfl, rfl⟩

theorem undisturbed_reached
    (reaches : ReachesCommit machine limits timeout request policy start initial paths inspected) :
    Undisturbed machine view pathspec limits timeout request policy start ↔
      (∀ raised committed,
        runCommit machine limits timeout request paths inspected = (.error raised, committed) →
        (view committed.repository).head = (view start.repository).head) ∧
      ∀ result committed,
        runCommit machine limits timeout request paths inspected = (.ok result, committed) →
        (∃ commit verified,
          verifyCommit machine limits timeout request initial paths committed =
            (.ok commit, verified)) ∧
        ∀ path, pathspec request.paths path = true →
          (view start.repository).worktree path ≠ (view start.repository).headTree path →
          LiesUnder request.paths path := by
  constructor
  · intro held
    exact ⟨held.committing _ _ _ reaches, fun result committed commits =>
      ⟨held.verifying _ _ _ reaches _ _ commits, held.selecting _ _ _ reaches _ _ commits⟩⟩
  · rintro ⟨committing, verifying⟩
    refine ⟨fun other others opened opens raised staged fails_ => ?_,
      fun other others last again => ?_, fun other others last again => ?_,
      fun other others last again => ?_⟩
    · obtain ⟨_, _, _, _, opens', stages, _⟩ := reaches
      rw [opens'] at opens
      cases opens
      rw [stages] at fails_
      cases fails_
    · obtain ⟨rfl, rfl, rfl⟩ := reaches_unique reaches again
      exact committing
    · obtain ⟨rfl, rfl, rfl⟩ := reaches_unique reaches again
      exact fun result committed commits => (verifying result committed commits).1
    · obtain ⟨rfl, rfl, rfl⟩ := reaches_unique reaches again
      exact fun result committed commits => (verifying result committed commits).2

end Conditions

end Stages

section Promise

variable {R : Type} {machine : Machine R} {view : R → Repository}
  {pathspec : List PyStr → PyStr → Bool} (faithful : Faithful machine view pathspec)
  (restores : Restores machine view pathspec) {limits : GitProcessLimits} {timeout : ℚ}
  {request : CommitRequest} {policy : PyStr → PolicyAnswer} {start : GitWorld R}
  {initial : GitRepositoryStatus} {paths : List PyStr}

include faithful restores

/-- The calls that get as far as `git commit`. -/
theorem reached_promise {inspected : GitWorld R}
    (reaches : ReachesCommit machine limits timeout request policy start initial paths inspected) :
    Promised request view start (commitChanges machine limits timeout request policy start) ↔
      Undisturbed machine view pathspec limits timeout request policy start := by
  rw [undisturbed_reached reaches]
  obtain ⟨positive, _, _, _, staged⟩ := reached_view faithful reaches
  rcases commits : runCommit machine limits timeout request paths inspected
    with ⟨raised | last, committed⟩
  · constructor
    · intro kept
      refine ⟨fun e w same => ?_, fun r w other => by cases other⟩
      cases same
      by_contra moved
      exact broken_committing faithful restores reaches commits moved kept
    · rintro ⟨committing, _⟩
      have head := committing _ _ rfl
      rcases commit_view faithful request paths positive with ⟨sha, fresh, effect⟩ | ⟨effect, _⟩
      · rw [commits] at effect
        obtain ⟨_, _, ⟨parent, born⟩, _⟩ := reached_view faithful reaches
        rw [effect, born] at head
        rw [staged] at fresh
        exact absurd (Option.some.inj head ▸ fresh) (faithful.rooted _ parent born)
      · rw [commits, staged] at effect
        obtain ⟨opened, result, middle, difference, opens, stages, inspects⟩ := reaches
        exact promised_restored faithful restores opens stages
          ((run_ok inspects).trans commits) effect
  · rcases verifies : verifyCommit machine limits timeout request initial paths committed with
      ⟨raised | commit, verified⟩
    · constructor
      · exact fun kept => absurd kept (broken_verifying faithful reaches commits verifies)
      · rintro ⟨_, verifying⟩
        obtain ⟨⟨commit, done, verified_⟩, _⟩ := verifying _ _ rfl
        rw [verifies] at verified_
        cases verified_
    · rw [promised_verified faithful reaches commits verifies]
      constructor
      · intro selects
        refine ⟨fun e w other => (by cases other), fun r w same => ?_⟩
        cases same
        exact ⟨⟨commit, verified, verifies⟩, selects⟩
      · exact fun held => (held.2 _ _ rfl).2

end Promise

/-- A call keeps its promise, raised or not, exactly when it is undisturbed. -/
theorem commit_promise {R : Type} (machine : Machine R) (view : R → Repository)
    (pathspec : List PyStr → PyStr → Bool) (faithful : Faithful machine view pathspec)
    (restores : Restores machine view pathspec) (limits : GitProcessLimits) (timeout : ℚ)
    (request : CommitRequest) (policy : PyStr → PolicyAnswer) (start : GitWorld R) :
    KeepsPromise request (view start.repository)
        (view (commitChanges machine limits timeout request policy start).2.repository)
        (commitChanges machine limits timeout request policy start).1 ↔
      Undisturbed machine view pathspec limits timeout request policy start := by
  show Promised request view start (commitChanges machine limits timeout request policy start) ↔ _
  rcases opens : openCommit machine limits timeout request start
    with ⟨raised | ⟨initial, paths⟩, opened⟩
  · have same : SameView view start opened := by
      have kept := keeps_openCommit faithful limits timeout request start
      rwa [opens] at kept
    rw [commitChanges_closed opens, undisturbed_unreached fun _ _ _ ⟨_, _, _, _, other, _⟩ => by
      rw [opens] at other; cases other]
    refine ⟨fun _ _ _ _ other => ?_, fun _ => ?_⟩
    · rw [opens] at other
      cases other
    show (view opened.repository).index = _ ∧ _
    rw [same]
    exact ⟨rfl, rfl, rfl⟩
  rcases stages : run machine timeout (addArguments paths) limits.stderrBytes [0] opened with
    ⟨raised | result, staged⟩
  · rw [promised_unstaged faithful opens stages,
      undisturbed_unreached fun _ _ _ ⟨_, _, _, _, again, other, _⟩ => by
      rw [opens] at again; cases again; rw [stages] at other; cases other]
    refine ⟨fun same _ _ _ again _ _ fails_ => ?_, fun staging => staging _ _ _ opens _ _ stages⟩
    rw [opens] at again
    cases again
    rw [stages] at fails_
    cases fails_
    exact same
  rcases inspects : inspectStaged machine limits timeout policy initial paths staged with
    ⟨raised | difference, inspected⟩
  · have left : view inspected.repository = (view start.repository).added (pathspec paths) := by
      have kept := keeps_inspectStaged faithful limits timeout policy initial paths staged
      rw [inspects] at kept
      rw [kept, (added_view faithful stages).2, (openCommit_ok faithful opens).same]
    have kept := promised_restored faithful restores opens stages (run_error inspects) left
    rw [undisturbed_unreached fun _ _ _ ⟨_, _, _, _, again, more, other⟩ => by
      rw [opens] at again; cases again; rw [stages] at more; cases more; rw [inspects]
        at other; cases other]
    refine ⟨fun _ _ _ _ again _ _ fails_ => ?_, fun _ => kept⟩
    rw [opens] at again
    cases again
    rw [stages] at fails_
    cases fails_
  · exact reached_promise faithful restores ⟨opened, result, staged, difference, opens,
      stages, inspects⟩

section Sample

structure SampleState where
  head : Option Nat := none
  index : Option Nat := none
  worktree : Nat := 1
  deriving DecidableEq

def sampleFile : PyStr := .ofString "f"

def sampleFirst : PyStr := List.replicate 40 0x61

def sampleSecond : PyStr := List.replicate 40 0x62

def sampleTree (blob : Option Nat) : Tree := fun path => if path = sampleFile then blob else none

def sampleRequest : CommitRequest where
  taskId := 7
  branchKind := .feature
  branchSlug := .ofString "s"
  kind := .feat
  scope := none
  summary := .ofString "add"
  paths := [sampleFile]
  identity := ⟨.ofString "Agent", .ofString "agent@host"⟩
  slug_valid := by decide
  scope_valid := by decide
  summary_valid := by decide
  paths_few := by decide
  paths_safe := by decide
  paths_unique := by decide

def sampleLimits : GitProcessLimits where
  statusBytes := 1024
  diffBytes := 1024
  historyBytes := 1024
  stderrBytes := 1024
  maximumPaths := 128
  bytes_valid := by decide
  paths_valid := by decide

def sampleView (state : SampleState) : Repository where
  branch := some sampleRequest.expectedBranch
  head := some (if state.head = none then sampleFirst else sampleSecond)
  commits := fun sha =>
    if sha = sampleSecond then state.head.map fun blob => ⟨[sampleFirst], sampleTree (some blob)⟩
    else if sha = sampleFirst then some ⟨[], sampleTree none⟩ else none
  index := sampleTree state.index
  worktree := sampleTree (some state.worktree)

def bytesOf (text : PyStr) : ByteArray := (String.ofList (text.map Char.ofNat)).toUTF8

def sampleBlob : PyStr := List.replicate 40 0x63

def sampleRecords (moved staged : Bool) : List PyStr :=
  if staged = true then
    if moved = true then
      [PyStr.ofString "1 M. N... 100644 100644 100644 " ++ sampleBlob ++ 0x20 :: sampleBlob ++
        PyStr.ofString " f"]
    else
      [PyStr.ofString "1 A. N... 000000 100644 100644 " ++ List.replicate 40 0x30 ++
        0x20 :: sampleBlob ++ PyStr.ofString " f"]
  else if moved = true then []
  else [PyStr.ofString "? f"]

def sampleText (moved staged : Bool) : PyStr :=
  PyStr.ofString "# branch.oid " ++ (if moved = true then sampleSecond else sampleFirst) ++
    0 :: PyStr.ofString "# branch.head " ++ sampleRequest.expectedBranch ++
    0 :: (sampleRecords moved staged).flatMap fun record => record ++ [0]

def sampleStatus (moved staged : Bool) : ByteArray := bytesOf (sampleText moved staged)

def sampleGit (lost : Nat → Bool) (n : Nat) (arguments : List PyStr) (state : SampleState) :
    SampleState × Ending :=
  let ends (output : PyStr) : Ending := if lost n = true then .timedOut
    else .exits 0 (bytesOf output)
  if arguments.head? = some (.ofString "add") then
    (if sampleFile ∈ arguments.drop 3 then { state with index := some state.worktree } else state,
      ends [])
  else if arguments.head? = some (.ofString "reset") then
    (if sampleFile ∈ arguments.drop 4 then { state with index := state.head } else state,
      .exits 0 (bytesOf []))
  else if arguments.head? = some (.ofString "-c") then
    if state.head = none ∧ state.index ≠ none ∧ sampleFile ∈ arguments.drop 12 then
      ({ state with head := some state.worktree, index := some state.worktree }, ends [])
    else (state, .exits 1 (bytesOf []))
  else if arguments.head? = some (.ofString "status") then
    (state, .exits 0 (sampleStatus state.head.isSome (decide (state.index ≠ state.head))))
  else if arguments.head? = some (.ofString "diff") then
    (state, ends (PyStr.ofString "1" ++ 9 :: PyStr.ofString "0" ++ 9 :: sampleFile ++
      0 :: 0 :: PyStr.ofString "+x"))
  else if arguments = headArguments then (state, ends sampleSecond)
  else if arguments = parentArguments then (state, ends (sampleSecond ++ 0x20 :: sampleFirst))
  else (state, ends sampleRequest.subject)

def sampleMachine (lost : Nat → Bool) : Machine SampleState where
  git := sampleGit lost
  managed := fun _ => true
  allowed := fun _ _ => true
  marks := fun _ => {}
  aware := fun _ => true

def samplePathspec (paths : List PyStr) (path : PyStr) : Bool := decide (path ∈ paths)

section Faithful

variable (lost : Nat → Bool) (n : Nat) (state : SampleState)

theorem sampleGit_reads {arguments : List PyStr} {first : PyStr}
    (head : arguments.head? = some first)
    (other : first ∉ ["add", "reset", "-c"].map PyStr.ofString) :
    (sampleGit lost n arguments state).1 = state := by
  simp only [List.map_cons, List.map_nil, List.mem_cons, List.not_mem_nil, or_false, not_or]
    at other
  unfold sampleGit
  rw [head, if_neg fun same => other.1 (Option.some.inj same),
    if_neg fun same => other.2.1 (Option.some.inj same), if_neg fun same =>
      other.2.2 (Option.some.inj same)]
  split_ifs <;> rfl

theorem sampleGit_add (paths : List PyStr) :
    sampleGit lost n (addArguments paths) state =
      (if sampleFile ∈ paths then { state with index := some state.worktree } else state,
        if lost n = true then .timedOut else .exits 0 (bytesOf [])) := rfl

theorem sampleGit_reset (paths : List PyStr) :
    sampleGit lost n (resetArguments paths) state =
      (if sampleFile ∈ paths then { state with index := state.head } else state,
        .exits 0 (bytesOf [])) := rfl

theorem sampleGit_commit (request : CommitRequest) (paths : List PyStr) :
    sampleGit lost n (commitArguments request paths) state =
      if state.head = none ∧ state.index ≠ none ∧ sampleFile ∈ paths then
        ({ state with head := some state.worktree, index := some state.worktree },
          if lost n = true then .timedOut else .exits 0 (bytesOf []))
      else (state, .exits 1 (bytesOf [])) := rfl

def ascii (text : PyStr) : Bool := text.all fun point => decide (point < 0x80)

theorem char_ascii {point : Nat} (small : point < 0x80) : (Char.ofNat point).toNat = point := by
  have proper : point.isValidChar := .inl (by omega)
  unfold Char.ofNat
  rw [dif_pos proper]
  unfold Char.ofNatAux Char.toNat
  simp

theorem decode_bytesOf {text : PyStr} (plain : ascii text = true) :
    decode (bytesOf text) = .ok text := by
  have valid := String.isValidUTF8 (String.ofList (text.map Char.ofNat))
  have points : ∀ point ∈ text, (Char.ofNat point).toNat = point := by
    intro point among
    exact char_ascii (of_decide_eq_true (List.all_eq_true.mp plain point among))
  unfold decode bytesOf String.fromUTF8?
  rw [String.toUTF8_eq_toByteArray, dif_pos valid]
  show Except.ok (PyStr.ofString (String.ofList (text.map Char.ofNat))) = _
  rw [PyStr.ofString_ofList, List.map_map]
  congr 1
  calc
    text.map (Char.toNat ∘ Char.ofNat) = text.map id := List.map_congr_left points
    _ = text := List.map_id text

theorem size_bytesOf {text : PyStr} (plain : ascii text = true) :
    (bytesOf text).size = text.length := by
  unfold bytesOf
  rw [String.toUTF8_eq_toByteArray, String.toByteArray_ofList]
  induction text with
  | nil => rfl
  | cons point rest ih =>
      simp only [ascii, List.all_cons, Bool.and_eq_true, decide_eq_true_eq] at plain
      have one : (Char.ofNat point).utf8Size = 1 := by
        have value : (Char.ofNat point).toNat = point := char_ascii plain.1
        unfold Char.utf8Size
        rw [if_pos]
        rw [UInt32.le_iff_toNat_le]
        exact Nat.le_of_lt_succ (value.trans_lt plain.1)
      have width : ([Char.ofNat point].utf8Encode).size = 1 := by
        rw [List.utf8Encode_singleton, List.size_toByteArray, String.length_utf8EncodeChar, one]
      rw [List.map_cons, List.utf8Encode_cons, ByteArray.size_append, width, ih plain.2,
        List.length_cons]
      omega

theorem sampleText_records (moved staged : Bool) :
    ascii (sampleText moved staged) = true ∧ (sampleText moved staged).length ≤ 1024 ∧
      (sampleText moved staged).splitOn 0 =
        (PyStr.ofString "# branch.oid " ++ (if moved = true then sampleSecond else sampleFirst)) ::
          (PyStr.ofString "# branch.head " ++ sampleRequest.expectedBranch) ::
            (sampleRecords moved staged ++ [[]]) := by
  unfold sampleText sampleRecords sampleRequest CommitRequest.expectedBranch taskBranch
  dsimp only [TaskBranchKind.text]
  repeat rw [PyStr.ofString_ofList]
  cases moved <;> cases staged <;> decide +kernel

theorem sampleBranch_valid : branchText sampleRequest.expectedBranch = true ∧
    sampleRequest.expectedBranch ≠ .ofString "(detached)" := by
  unfold sampleRequest CommitRequest.expectedBranch taskBranch
  dsimp only [TaskBranchKind.text]
  repeat rw [PyStr.ofString_ofList]
  decide

theorem sampleSha_valid (moved : Bool) :
    shaText (if moved = true then sampleSecond else sampleFirst) = true ∧
      (if moved = true then sampleSecond else sampleFirst) ≠ .ofString "(initial)" := by
  rw [PyStr.ofString_ofList]
  cases moved <;> decide

theorem sample_records (moved staged : Bool) :
    readRecords {} false ((sampleText moved staged).splitOn 0) =
      .ok ⟨some sampleRequest.expectedBranch,
        some (if moved = true then sampleSecond else sampleFirst),
        if staged = true then 1 else 0, 0, if moved = true ∨ staged = true then 0 else 1⟩ := by
  have file :
    ∀ reading : StatusReading, readRecords reading false (sampleRecords moved staged ++ [[]]) =
      .ok { reading with
        staged := reading.staged + if staged = true then 1 else 0
        untracked := reading.untracked + if moved = true ∨ staged = true then 0 else 1 } := by
    intro reading
    unfold sampleRecords
    cases moved <;> cases staged <;> simp only [Bool.false_eq_true, if_false, if_true,
      List.nil_append, List.cons_append]
    all_goals
      rw [readRecords]
      unfold after
      repeat rw [PyStr.ofString_ofList]
      rfl
  rw [(sampleText_records moved staged).2.2, readRecords_oid _ _ (sampleSha_valid moved).2,
    readRecords_head _ _ sampleBranch_valid.2, file]
  simp

theorem sample_read (moved staged : Bool) :
    (decode (sampleStatus moved staged) >>= fun text => readRecords {} false (text.splitOn 0)) =
      .ok ⟨some sampleRequest.expectedBranch,
        some (if moved = true then sampleSecond else sampleFirst),
        if staged = true then 1 else 0, 0, if moved = true ∨ staged = true then 0 else 1⟩ := by
  have decoded : decode (sampleStatus moved staged) = .ok (sampleText moved staged) :=
    decode_bytesOf (sampleText_records moved staged).1
  rw [decoded]
  exact sample_records moved staged

theorem sample_size (moved staged : Bool) : (sampleStatus moved staged).size ≤ 1024 :=
  (size_bytesOf (sampleText_records moved staged).1).trans_le (sampleText_records moved staged).2.1

def sampleReport (moved staged : Bool) : GitRepositoryStatus where
  branch := some sampleRequest.expectedBranch
  headSha := some (if moved = true then sampleSecond else sampleFirst)
  detached := false
  clean := moved && !staged
  stagedCount := if staged = true then 1 else 0
  unstagedCount := 0
  untrackedCount := if moved = true ∨ staged = true then 0 else 1
  marks := {}
  outputBytes := (sampleStatus moved staged).size

theorem sample_report (moved staged : Bool) :
    parseStatus {} ⟨sampleStatus moved staged, (sampleStatus moved staged).size, false⟩ =
      .ok (sampleReport moved staged) := by
  have decoded : decode (sampleStatus moved staged) = .ok (sampleText moved staged) :=
    decode_bytesOf (sampleText_records moved staged).1
  have size := sample_size moved staged
  have valid : (sampleReport moved staged).check = true := by
    unfold GitRepositoryStatus.check sampleReport
    simp only [Option.all_some, sampleSha_valid moved, sampleBranch_valid.1, Bool.true_and,
      decide_eq_true_eq]
    cases moved <;> cases staged <;> simp <;> omega
  have clean :
    decide ((if staged = true then 1 else 0) + 0 + (if moved = true ∨ staged = true then 0 else 1) =
      0) = (moved && !staged) := by
    cases moved <;> cases staged <;> rfl
  unfold parseStatus
  dsimp only
  rw [decoded]
  show (readRecords {} false ((sampleText moved staged).splitOn 0) >>= _) = _
  rw [sample_records]
  show (if _ then _ else _) = _
  rw [clean]
  exact if_pos valid

def sampleOutput : PyStr :=
  PyStr.ofString "1" ++ 9 :: PyStr.ofString "0" ++ 9 :: sampleFile ++ 0 :: 0 :: PyStr.ofString "+x"

theorem sampleOutput_parsed : ascii sampleOutput = true ∧ sampleOutput.length ≤ 1024 ∧
    parseDiffOutput (bytesOf sampleOutput) = .ok (PyStr.ofString "+x", [sampleFile], 1, 0) := by
  unfold sampleOutput sampleFile
  repeat rw [PyStr.ofString_ofList]
  decide

theorem sampleSubject_plain : ascii sampleRequest.subject = true ∧ sampleRequest.subject ≠ [] ∧
    sampleRequest.subject.length ≤ 1024 ∧ strip sampleRequest.subject = sampleRequest.subject ∧
    (0 ∉ sampleRequest.subject ∧ 0x0A ∉ sampleRequest.subject) ∧
    sampleRequest.subject.length ≤ 200 := by
  unfold sampleRequest CommitRequest.subject
  dsimp only [CommitKind.text]
  repeat rw [PyStr.ofString_ofList]
  decide

theorem sample_scalar {text : PyStr} (plain : ascii text = true) (some_ : text ≠ [])
    (stripped : strip text = text)
    (single : 0 ∉ text ∧ 0x0A ∉ text) : parseScalar ⟨bytesOf text, (bytesOf text).size, false⟩ =
      .ok text := by
  unfold parseScalar
  dsimp only
  rw [if_neg Bool.false_ne_true, decode_bytesOf plain]
  show (if strip text = [] ∨ 0 ∈ strip text ∨ 0x0A ∈ strip text then _ else _) = _
  rw [stripped,
    if_neg (by rintro (none_ | zero | line); exacts [some_ none_, single.1 zero, single.2 line])]
  rfl

section Opened

variable {machine : Machine SampleState} (managed : ∀ state, machine.managed state = true)
  (allowed : ∀ state path, machine.allowed state path = true)

include allowed

theorem sample_resolves (world : GitWorld SampleState) :
    resolvePaths machine [sampleFile] world = (.ok [sampleFile], world) := by
  have same : Workspaces.asPosix (Workspaces.pathParts sampleFile) = sampleFile := by decide
  unfold resolvePaths
  rw [look_run, List.mapM_cons, List.mapM_nil, if_pos (allowed _ _), same]
  rfl

include managed

theorem sample_opens (marks : machine.marks {} = {})
    (first : machine.git 0 statusArguments {} = ({}, .exits 0 (sampleStatus false false))) :
    openCommit machine sampleLimits 1 sampleRequest ⟨{}, 0⟩ =
      (.ok (sampleReport false false, [sampleFile]), ⟨{}, 1⟩) := by
  have repository : requireRepository machine ⟨{}, 0⟩ = (.ok (), ⟨{}, 0⟩) := by
    unfold requireRepository
    rw [look_run, if_pos (managed _)]
    rfl
  have world : processed machine statusArguments ⟨{}, 0⟩ = ⟨{}, 1⟩ := by
    unfold processed
    rw [first]
  have reads : status machine sampleLimits 1 ⟨{}, 0⟩ = (.ok (sampleReport false false),
      ⟨{}, 1⟩) := by
    rw [← world]
    refine status_exits (managed _) one_pos (by rw [first]) (sample_size _ _) ?_
    rw [world, marks]
    exact sample_report false false
  have agrees : commitAllowed sampleRequest (sampleReport false false) = .ok () := by
    unfold commitAllowed
    rw [if_neg fun other => other rfl, if_neg]
    rintro (detached | none_ | staged | marked)
    · cases detached
    · cases none_
    · exact staged rfl
    · cases marked
  unfold openCommit
  rw [run_ok repository, run_ok reads, agrees, resume_ok_run]
  exact (run_ok (sample_resolves allowed _)).trans rfl

end Opened

theorem sample_overlay (paths : List PyStr) (top base : Option Nat) (path : PyStr) :
    (if samplePathspec paths path = true then sampleTree top path else sampleTree base path) =
      sampleTree (if sampleFile ∈ paths then top else base) path := by
  unfold sampleTree samplePathspec
  by_cases own : path = sampleFile
  · subst own
    simp
  · simp only [if_neg own, ite_self]

theorem sample_headTree : (sampleView state).headTree = sampleTree state.head := by
  funext path
  obtain ⟨head, index, worktree⟩ := state
  cases head with
  | none => rfl
  | some blob => rfl

theorem sample_faithful : Faithful (sampleMachine lost) sampleView samplePathspec where
  rooted := by
    intro state sha head
    obtain ⟨blob, index, worktree⟩ := state
    cases blob <;> cases head <;> exact nofun
  reads := by
    intro n state arguments reads
    have same : (sampleGit lost n arguments state).1 = state := by
      cases reads with
      | status => exact sampleGit_reads lost n state rfl (by decide)
      | staged paths => exact sampleGit_reads lost n state rfl (by decide)
      | head => exact sampleGit_reads lost n state rfl (by decide)
      | parents => exact sampleGit_reads lost n state rfl (by decide)
      | subject => exact sampleGit_reads lost n state rfl (by decide)
    exact congrArg sampleView same
  status := by
    intro n state output marks report ending parsed
    cases ending
    obtain ⟨text, reading, decoded, read, rfl⟩ := parseStatus_ok parsed
    have known := sample_read state.head.isSome (decide (state.index ≠ state.head))
    rw [show decode (sampleStatus state.head.isSome (decide (state.index ≠ state.head))) = .ok text
      from decoded] at known
    obtain rfl := Except.ok.inj (read.symm.trans known)
    refine ⟨?_, fun none_ => ?_⟩
    · show _ = some (if state.head = none then sampleFirst else sampleSecond)
      cases state.head <;> rfl
    · rw [sample_headTree]
      show sampleTree state.index = _
      by_cases same : state.index = state.head
      · rw [same]
      · rw [decide_eq_true same] at none_
        cases none_
  add := by
    intro n state paths
    refine .inl ?_
    show sampleView (sampleGit lost n (addArguments paths) state).1 = _
    rw [sampleGit_add]
    have index := sample_overlay paths (some state.worktree) state.index
    by_cases among : sampleFile ∈ paths
    · rw [if_pos among] at index ⊢
      exact Repository.ext rfl rfl rfl (funext fun path => (index path).symm) rfl
    · rw [if_neg among] at index ⊢
      exact Repository.ext rfl rfl rfl (funext fun path => (index path).symm) rfl
  commit := by
    intro n state request paths
    show (∃ sha, _ ∧ sampleView (sampleGit lost n (commitArguments request paths) state).1 = _) ∨
      sampleView (sampleGit lost n (commitArguments request paths) state).1 = _ ∧
        ∀ output, (sampleGit lost n (commitArguments request paths) state).2 ≠ _
    rw [sampleGit_commit]
    split
    · next commits =>
        obtain ⟨head, index, worktree⟩ := state
        obtain ⟨rfl, some_, among⟩ := commits
        have only : (sampleView ⟨none, index, worktree⟩).onlyTree (samplePathspec paths) =
            sampleTree (some worktree) := by
          funext path
          by_cases own : path = sampleFile
          · subst own
            have known : (sampleView ⟨none, index, worktree⟩).index sampleFile ≠ none := by
              have held : sampleTree index sampleFile = index := if_pos rfl
              show sampleTree index sampleFile ≠ none
              rw [held]
              exact some_
            exact if_pos ⟨decide_eq_true among, .inl known⟩
          · have none_ : ∀ blob, sampleTree blob path = none := fun _ => if_neg own
            unfold Repository.onlyTree
            rw [sample_headTree, none_, none_, if_neg fun both => ?_]
            exact both.2.elim (fun known => known (none_ _)) fun known => known rfl
        refine .inl ⟨sampleSecond, rfl, Repository.ext rfl rfl ?_ ?_ rfl⟩
        · funext sha
          show _ = if sha = sampleSecond then _ else _
          rw [only]
          show (if sha = sampleSecond then _ else _) = _
          split
          · rfl
          · next other => exact (if_neg other).symm
        · funext path
          show sampleTree (some worktree) path = if samplePathspec paths path = true then _
            else sampleTree index path
          rw [only, sample_overlay, if_pos among]
    · exact .inr ⟨rfl, fun _ same => by cases same⟩

theorem sample_restores : Restores (sampleMachine lost) sampleView samplePathspec := by
  intro n state paths
  refine ⟨⟨_, rfl⟩, ?_⟩
  show sampleView (sampleGit lost n (resetArguments paths) state).1 = _
  rw [sampleGit_reset]
  have index := sample_overlay paths state.head state.index
  rw [← sample_headTree] at index
  by_cases among : sampleFile ∈ paths
  · rw [if_pos among] at index ⊢
    exact Repository.ext rfl rfl rfl (funext fun path => (index path).symm) rfl
  · rw [if_neg among] at index ⊢
    exact Repository.ext rfl rfl rfl (funext fun path => (index path).symm) rfl

end Faithful

/-- A staging that times out after its effect leaves its index behind. -/
theorem staging_left :
    ¬ KeepsPromise sampleRequest (sampleView {})
      (sampleView
        (commitChanges (sampleMachine fun n => decide (n = 1)) sampleLimits 1 sampleRequest
        (fun _ => .allow) ⟨{}, 0⟩).2.repository)
      (commitChanges (sampleMachine fun n => decide (n = 1)) sampleLimits 1 sampleRequest
        (fun _ => .allow) ⟨{}, 0⟩).1 := by
  have adds :
    run (sampleMachine fun n => decide (n = 1)) 1
      (addArguments [sampleFile]) sampleLimits.stderrBytes
      [0] ⟨{}, 1⟩ = (.error (.git .timedOut), ⟨{ index := some 1 }, 2⟩) := rfl
  have raised : commitChanges (sampleMachine fun n => decide (n = 1)) sampleLimits 1 sampleRequest
      (fun _ => .allow) ⟨{}, 0⟩ = (.error (.git .timedOut), ⟨{ index := some 1 }, 2⟩) := by
    exact (run_ok (sample_opens (fun _ => rfl) (fun _ _ => rfl) rfl rfl)).trans
      ((run_attempt adds).trans rfl)
  rw [raised]
  intro kept
  have same : sampleTree (some 1) = sampleTree none := kept.1
  exact absurd (congrFun same sampleFile) (by decide)

theorem commit_promise_sample :
    KeepsPromise sampleRequest (sampleView {})
        (sampleView (commitChanges (sampleMachine fun _ => false) sampleLimits 1 sampleRequest
          (fun _ => .allow) ⟨{}, 0⟩).2.repository)
        (commitChanges (sampleMachine fun _ => false) sampleLimits 1 sampleRequest
          (fun _ => .allow) ⟨{}, 0⟩).1 ↔
      Undisturbed (sampleMachine fun _ => false) sampleView samplePathspec sampleLimits
        1 sampleRequest (fun _ => .allow) ⟨{}, 0⟩ :=
  commit_promise (sampleMachine fun _ => false) sampleView samplePathspec (sample_faithful _)
    (sample_restores _) sampleLimits 1 sampleRequest (fun _ => .allow) ⟨{}, 0⟩

end Sample

end SynapseOS.LocalGit
