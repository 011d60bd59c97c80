import SynapseOS.Workflows.StageRelease

/-! How long a task stays in the waiting status of a stage before a run of the stage completes. -/

namespace SynapseOS.Workflows

open Execution Program Tasks Tools Transition

section Visits

variable {task : UUID} {runs : StageRuns task} {w t : StageWorld} {action : StageAction} {id : Nat}

def WaitsSince (runs : StageRuns task) (id : Nat) (before : List StageEntry) : Prop :=
  ∃ first start rest, before = first ++ start :: rest ∧ start.act = .started id ∧
    ∀ entry ∈ start :: rest, entry.status = some (runs.run id).stage.waiting

/-- A completion follows one stay in the waiting status of its stage. -/
def OneVisit (runs : StageRuns task) (before : List StageEntry) (entry : StageEntry) : Prop :=
  ∀ id result, entry.act = .completed id result → WaitsSince runs id before

/-- No step brings the task into the waiting status of a stage while a run of that stage is at
work. -/
def Unvisited (runs : StageRuns task) (w : StageWorld) (action : StageAction) : Prop :=
  ∀ id t, Claims runs (runs.run id).stage w.phase id → stageStep runs w action = some t →
    statusOf t.db task = some (runs.run id).stage.waiting →
      statusOf w.db task = some (runs.run id).stage.waiting

structure Visiting (runs : StageRuns task) (w : StageWorld) : Prop where
  visits : Always (OneVisit runs) w.log
  since : ∀ id, Claims runs (runs.run id).stage w.phase id →
    ∃ first start rest, w.log = first ++ start :: rest ∧ start.act = .started id ∧
      start.status = some (runs.run id).stage.waiting ∧
        (statusOf w.db task = some (runs.run id).stage.waiting →
          ∀ entry ∈ rest, entry.status = some (runs.run id).stage.waiting)

theorem since_grows {more : List StageEntry} {db : Database}
    (visiting : Visiting runs w) (claims : Claims runs (runs.run id).stage w.phase id)
    (stays : statusOf db task = some (runs.run id).stage.waiting →
      statusOf w.db task = some (runs.run id).stage.waiting)
    (fresh : ∀ entry ∈ more, entry.status = statusOf db task) :
    ∃ first start rest, w.log ++ more = first ++ start :: rest ∧ start.act = .started id ∧
      start.status = some (runs.run id).stage.waiting ∧
        (statusOf db task = some (runs.run id).stage.waiting →
          ∀ entry ∈ rest, entry.status = some (runs.run id).stage.waiting) := by
  obtain ⟨first, start, rest, log, starts, waited, kept⟩ := visiting.since id claims
  refine ⟨first, start, rest ++ more, by rw [log, List.append_assoc]; rfl, starts, waited, ?_⟩
  intro waits entry member
  rcases List.mem_append.mp member with early | late
  · exact kept (stays waits) entry early
  · exact (fresh entry late).trans waits

theorem ready_waits {row : TaskRow} (visiting : Visiting runs w)
    (claims : Claims runs (runs.run id).stage w.phase id)
    (ready : Ready (runs.run id).stage (runs.run id).scope w.db row) :
    WaitsSince runs id w.log := by
  obtain ⟨first, start, rest, log, starts, waited, kept⟩ := visiting.since id claims
  have waits : statusOf w.db task = some (runs.run id).stage.waiting := by
    have held := ready.held
    rw [runs.own id] at held
    unfold statusOf
    rw [held, ← ready.waits]
    rfl
  refine ⟨first, start, rest, log, starts, ?_⟩
  intro entry member
  rcases List.mem_cons.mp member with rfl | late
  · exact waited
  · exact kept waits entry late

theorem visiting_moves (visiting : Visiting runs w) (unvisited : Unvisited runs w action)
    (taken : stageStep runs w action = some t) (moves : StageMoves runs w action t) :
    Visiting runs t := by
  have stays (id : Nat) (claims : Claims runs (runs.run id).stage w.phase id)
      (waits : statusOf t.db task = some (runs.run id).stage.waiting) :
      statusOf w.db task = some (runs.run id).stage.waiting := unvisited id t claims taken waits
  -- The entries of a step that is no start: none completes a run, or the one that does was at work.
  have grow {more : List StageEntry} (log : t.log = w.log ++ more)
      (fresh : ∀ entry ∈ more, entry.status = statusOf t.db task)
      (known : ∀ id, Claims runs (runs.run id).stage t.phase id →
        Claims runs (runs.run id).stage w.phase id)
      (visits : Always (OneVisit runs) (w.log ++ more)) : Visiting runs t := by
    refine ⟨by rw [log]; exact visits, fun id claims => ?_⟩
    rw [log]
    exact since_grows visiting (known id claims) (stays id (known id claims)) fresh
  have silent (log : t.log = w.log)
      (known : ∀ id, Claims runs (runs.run id).stage t.phase id →
        Claims runs (runs.run id).stage w.phase id) :
      Visiting runs t := by
    have same : t.log = w.log ++ [] := by rw [log, List.append_nil]
    refine grow same (fun _ member => absurd member List.not_mem_nil) known ?_
    rw [List.append_nil]
    exact visiting.visits
  have ended {other : Nat} {phase : StagePhase} (working : phase.working → (w.phase other).working)
      (id : Nat) (claims : Claims runs (runs.run id).stage (w.set other phase).phase id) :
      Claims runs (runs.run id).stage w.phase id := claims_known (fun _ => working) claims
  cases moves with
  | other row events plain held =>
      refine grow rfl ?_ (fun _ claims => claims)
        (always_concat visiting.visits fun id result act => nomatch act)
      intro entry member
      rw [List.mem_singleton.mp member]
      rfl
  | refused id preflight calls e idle => exact silent rfl (ended fun working => working.elim)
  | begun id preflight calls row after idle ready admitted wrote =>
      have visits : Always (OneVisit runs) (w.log ++
          [observe task (.started id) w.db after, observe task (.invoked id) after after]) := by
        have both := always_concat (always_concat visiting.visits
          (fun _ _ act => nomatch act : OneVisit runs w.log
            (observe task (.started id) w.db after)))
          (fun _ _ act => nomatch act : OneVisit runs _ (observe task (.invoked id) after after))
        rw [List.append_assoc] at both
        exact both
      refine ⟨visits, fun other claims => ?_⟩
      rcases claims_update claims with ⟨rfl, _, _⟩ | ⟨_, kept⟩
      · have waits : statusOf after task = some (runs.run other).stage.waiting := by
          unfold statusOf
          rw [wrote.own, ← ready.waits]
          rfl
        refine ⟨w.log, _, [observe task (.invoked other) after after], rfl, rfl, waits, ?_⟩
        intro _ entry member
        rw [List.mem_singleton.mp member]
        exact waits
      · refine since_grows visiting kept (stays other kept) ?_
        intro entry member
        rcases List.mem_pair.mp member with rfl | rfl
        · rfl
        · rfl
  | failed id reply calls reread e executing why =>
      exact silent rfl (ended fun _ => executing ▸ trivial)
  | completed id calls reread result row after executing inScope ready matching wrote =>
      have claims : Claims runs (runs.run id).stage w.phase id := ⟨rfl, executing ▸ trivial⟩
      refine grow rfl ?_ (ended fun working => absurd working (resultPhase_idle _ _ _))
        (always_concat visiting.visits ?_)
      · intro entry member
        rw [List.mem_singleton.mp member]
        rfl
      · intro other result act
        cases act
        exact ready_waits visiting claims ready
  | abandoned id calls code completed e fails why =>
      exact silent rfl (ended fun working => working.elim)
  | escalated id calls code completed row after fails clear ready matching wrote =>
      refine grow rfl ?_ (ended fun working => working.elim)
        (always_concat visiting.visits fun id result act => nomatch act)
      intro entry member
      rw [List.mem_singleton.mp member]
      rfl

/-- A completion is accepted only if the task waited for the stage ever since the run started. -/
theorem completions_one_visit {db : Database}
    (run : Reaches (stageStep runs) (Unvisited runs) (opening db) w)
    {before after : List StageEntry} {entry : StageEntry} (log : w.log = before ++ entry :: after)
    {result : StageResult} (act : entry.act = .completed id result) :
    ∃ first start rest, before = first ++ start :: rest ∧ start.act = .started id ∧
      ∀ entry ∈ start :: rest, entry.status = some (runs.run id).stage.waiting := by
  have opens : Visiting runs (opening db) :=
    ⟨always_nil, fun id claims => absurd claims.2 fun working => working⟩
  have visiting : Visiting runs w := run.invariant (Visiting runs) opens
    fun u action v visiting unvisited taken => visiting_moves visiting unvisited taken
      (stageStep_moves taken)
  exact visiting.visits before entry after log id result act

end Visits

section Sample

theorem sample_finishes {w : StageWorld} {rest : List AuditEvent}
    (executing : w.phase 0 = .executing)
    (there : w.db.tasks.get 1 = some (sampleRow .waitingSecurity))
    (audits : w.db.audits = [startedEvent .security (sampleScope 0) (sampleRow .waitingSecurity)] ++
      rest)
    (plain : ∀ event ∈ rest, event.resourceType = none ∧ event.correlationId = none) :
    ∃ t, stageStep (sampleRuns .security) w
      (.finish 0 (.returned (.security samplePass)) sampleCalls
        (.ok .completed)) = some t ∧
      t.log = w.log ++ [observe 1 (.completed 0 (.security samplePass)) w.db t.db] ∧
      statusOf t.db 1 = some .completed := by
  have ready : Ready .security (sampleScope 0) w.db (sampleRow .waitingSecurity) :=
    ⟨there, rfl, rfl⟩
  have matching : hasMatchingStart w.db.audits (sampleScope 0) .security = true := by
    have absent : securityRows rest (sampleScope 0).task = [] :=
      foreign_without fun event member => by rw [(plain event member).1]; nofun
    rw [audits, matching_append absent]
    decide
  obtain ⟨t, taken, _, log, wrote⟩ :=
    finish_works (sampleRuns .security) sampleCalls_quiet executing
    samplePass_inScope sample_named ready matching (.ok .completed)
  refine ⟨t, taken, log, ?_⟩
  unfold statusOf
  rw [wrote.own]
  rfl

/-- Another actor writes the task while the run is at work, and moves it on after the completion. -/
theorem completions_one_visit_sample : ∃ w : StageWorld, ∃ before last after first start rest,
    w.log = before ++ last :: after ∧ before.length = 3 ∧ after.length = 1 ∧
      last.act = .completed 0 (.security samplePass) ∧ before = first ++ start :: rest ∧
        ∀ entry ∈ start :: rest, entry.status = some .waitingSecurity := by
  obtain ⟨w, begun, phase, _, there, audits, _, began⟩ := sample_begun .security
  have waits : statusOf w.db 1 = some .waitingSecurity := by
    unfold statusOf
    rw [there]
    rfl
  obtain ⟨u, written, executing, held, rows, log⟩ : ∃ u,
      stageStep (sampleRuns .security) w (.other (sampleRow .waitingSecurity) []) = some u ∧
        u.phase 0 = .executing ∧ u.db.tasks.get 1 = some (sampleRow .waitingSecurity) ∧
          u.db.audits = [startedEvent .security (sampleScope 0) (sampleRow .waitingSecurity)] ++
            [] ∧
            u.log.length = 3 := by
    refine ⟨_, other_works (sampleRuns .security) _ [] rfl (by rw [there]; rfl), ?_, ?_, ?_, ?_⟩
    · show w.phase 0 = _
      rw [phase]
      exact Function.update_self ..
    · exact Dict.get_set_self ..
    · exact congrArg (fun rows => rows ++ []) audits
    · show (w.log ++ [_]).length = 3
      rw [began]
      rfl
  obtain ⟨t, taken, ends, status⟩ :=
    sample_finishes executing held rows fun _ member => absurd member List.not_mem_nil
  have present : (t.db.tasks.get 1).isSome = true := by
    obtain ⟨row, found, _⟩ := Option.map_eq_some_iff.mp status
    rw [found]
    rfl
  obtain ⟨v, later, moved, appended, away⟩ : ∃ v later,
      stageStep (sampleRuns .security) t (.other (sampleRow .inProgress) []) = some v ∧
        v.log = t.log ++ [later] ∧ statusOf v.db 1 = some .inProgress := by
    refine ⟨_, _, other_works (sampleRuns .security) _ [] rfl present, rfl, ?_⟩
    unfold statusOf changed
    rw [Dict.get_set_self]
    rfl
  have first : Unvisited (sampleRuns .security) (opening (sampleBase .waitingSecurity))
      (.begin 0 none sampleCalls) := fun _ _ claims => absurd claims.2 fun working => working
  have second : Unvisited (sampleRuns .security) w (.other (sampleRow .waitingSecurity) []) :=
    fun _ _ _ _ _ => waits
  have third : Unvisited (sampleRuns .security) u
      (.finish 0 (.returned (.security samplePass)) sampleCalls (.ok .completed)) := by
    intro id v _ also waits
    have same : v = t := Option.some.inj (also.symm.trans taken)
    rw [same, status] at waits
    cases waits
  have fourth : Unvisited (sampleRuns .security) t (.other (sampleRow .inProgress) []) := by
    intro id other _ also waits
    obtain rfl := Option.some.inj (also.symm.trans moved)
    cases away.symm.trans waits
  have run : Reaches (stageStep (sampleRuns .security)) (Unvisited (sampleRuns .security))
      (opening (sampleBase .waitingSecurity)) v :=
    .tail (.tail (.tail (.tail .refl first begun) second written) third taken) fourth moved
  rw [ends, List.append_assoc] at appended
  obtain ⟨early, start, rest, split, _, waited⟩ := completions_one_visit run appended rfl
  exact ⟨v, u.log, _, _, early, start, rest, appended, log, rfl, rfl, split, waited⟩

/-- A Security run completes a task that had left the stage and come back. -/
theorem second_visit_completed : ∃ w start rest last, Reaches (stageStep (sampleRuns .security))
      (fun _ _ => True) (opening (sampleBase .waitingSecurity)) w ∧
    w.log = start :: rest ++ [last] ∧ start.act = .started 0 ∧
    (∃ entry ∈ rest, entry.status = some .changesRequested) ∧
      last.act = .completed 0 (.security samplePass) ∧ last.status = some .completed := by
  obtain ⟨w, begun, phase, _, there, audits, _, began⟩ := sample_begun .security
  obtain ⟨u, more, back, kept, rows, plain, ⟨added, log, statuses⟩, returned⟩ :=
    moves_reach .security (fun _ _ => True)
      [.changesRequested, .inProgress, .waitingReview, .waitingQa,
        .waitingSecurity] there fun _ _ _ _ => trivial
  have executing : u.phase 0 = .executing := by
    rw [kept, phase]
    exact Function.update_self ..
  rw [audits] at rows
  obtain ⟨t, taken, ends, status⟩ := sample_finishes executing returned rows plain
  have run : Reaches (stageStep (sampleRuns .security)) (fun _ _ => True)
      (opening (sampleBase .waitingSecurity)) t :=
    .tail ((Reaches.tail .refl trivial begun).trans back) trivial taken
  refine ⟨t, observe 1 (.started 0) (sampleBase .waitingSecurity) w.db,
    observe 1 (.invoked 0) w.db w.db :: added,
    observe 1 (.completed 0 (.security samplePass)) u.db t.db, run, ?_, rfl, ?_, rfl, status⟩
  · rw [ends, log, began]
    rfl
  · have left : some TaskStatus.changesRequested ∈ added.map StageEntry.status := by
      rw [statuses]
      simp
    obtain ⟨entry, member, same⟩ := List.mem_map.mp left
    exact ⟨entry, List.mem_cons_of_mem _ member, same⟩

end Sample

end SynapseOS.Workflows
