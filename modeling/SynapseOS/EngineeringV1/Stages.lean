import SynapseOS.EngineeringV1.Orchestrator

/-! The stages of a run whose audit sink accepts every record. -/

namespace SynapseOS.EngineeringV1

section Chain

variable (request : EngineeringV1Request)

def verdict (runner : EngineeringStageRunner) (before : List EngineeringStageEvidence) :
    Except Failure EngineeringStageEvidence :=
  (runner.run request before).value.bind (canonicalStageResult runner.stage)

theorem verdict_stage {request : EngineeringV1Request} {runner : EngineeringStageRunner}
    {before : List EngineeringStageEvidence} {evidence : EngineeringStageEvidence}
    (reached : verdict request runner before = .ok evidence) : evidence.stage = runner.stage := by
  unfold verdict at reached
  cases returned : (runner.run request before).value with
  | error failure =>
      rw [returned] at reached
      cases reached
  | ok value =>
      rw [returned] at reached
      change canonicalStageResult runner.stage value = .ok evidence at reached
      unfold canonicalStageResult at reached
      split at reached
      · cases reached
      · split at reached
        · split at reached
          · next own =>
              cases reached
              exact own
          · cases reached
        · cases reached

def Chained : List EngineeringStageRunner → List EngineeringStageEvidence →
    List EngineeringStageEvidence → Prop
  | [], _, added => added = []
  | runner :: rest, before, added => ∃ evidence later, added = evidence :: later ∧
      verdict request runner before = .ok evidence ∧
      (evidence.stage = runner.stage ∧ evidence.passed = true) ∧
      Chained rest (before ++ [evidence]) later

def callsOf : List EngineeringStageRunner → List EngineeringStageEvidence →
    List EngineeringStageEvidence →
    List (EngineeringStage × List EngineeringStageEvidence)
  | runner :: rest, before, evidence :: later =>
      (runner.stage, before) :: callsOf rest (before ++ [evidence]) later
  | _, _, _ => []

def recordsOf : List EngineeringStageRunner → Nat → List EngineeringAuditEvent
  | [], _ => []
  | runner :: rest, count =>
      auditEvent request runner.stage .started count :: auditEvent request runner.stage .passed
        (count + 1) :: recordsOf rest (count + 1)

def overranIn : List EngineeringStageRunner → List EngineeringStageEvidence →
    List EngineeringStageEvidence →
    Bool
  | runner :: rest, before, evidence :: later =>
      (runner.run request before).overran || overranIn rest (before ++ [evidence]) later
  | _, _, _ => false

variable {request} {runner : EngineeringStageRunner}
    {front back later : List EngineeringStageRunner}
  {before added other : List EngineeringStageEvidence} {evidence : EngineeringStageEvidence}

theorem chained_unique (first : Chained request front before added)
    (second : Chained request front before other) : added = other := by
  induction front generalizing before added other with
  | nil => rw [first, second]
  | cons runner rest ih =>
      obtain ⟨evidence, later, rfl, reached, _, chained⟩ := first
      obtain ⟨again, others, rfl, same, _, others_⟩ := second
      rw [reached] at same
      cases same
      rw [ih chained others_]

theorem chained_append : Chained request (front ++ back) before added ↔
    ∃ first second, added = first ++ second ∧ Chained request front before first ∧
      Chained request back (before ++ first) second := by
  induction front generalizing before added with
  | nil =>
      constructor
      · intro chained
        exact ⟨[], added, rfl, rfl, by rwa [List.append_nil]⟩
      · rintro ⟨first, second, rfl, rfl, chained⟩
        rwa [List.append_nil] at chained
  | cons runner rest ih =>
      constructor
      · rintro ⟨evidence, later, rfl, reached, passes, chained⟩
        obtain ⟨first, second, rfl, lead, tail⟩ := ih.mp chained
        refine ⟨evidence :: first, second, rfl, ⟨evidence, first, rfl, reached, passes, lead⟩, ?_⟩
        rwa [List.append_assoc] at tail
      · rintro ⟨first, second, rfl, ⟨evidence, later, rfl, reached, passes, lead⟩, tail⟩
        refine ⟨evidence, later ++ second, rfl, reached, passes,
          ih.mpr ⟨later, second, rfl, lead, ?_⟩⟩
        rwa [List.append_assoc]

theorem chained_length (chained : Chained request front before added) :
    added.length = front.length := by
  induction front generalizing before added with
  | nil => rw [chained]; rfl
  | cons runner rest ih =>
      obtain ⟨evidence, later, rfl, _, _, chained⟩ := chained
      rw [List.length_cons, List.length_cons, ih chained]

def Stops (request : EngineeringV1Request) (runner : EngineeringStageRunner)
    (before : List EngineeringStageEvidence) : Prop :=
  ∀ evidence, verdict request runner before = .ok evidence → evidence.passed = false

theorem chained_exists (runners : List EngineeringStageRunner)
    (before : List EngineeringStageEvidence) :
    ∃ front back added, runners = front ++ back ∧ Chained request front before added ∧
      (back = [] ∨ ∃ runner later, back = runner :: later ∧
        Stops request runner (before ++ added)) := by
  induction runners generalizing before with
  | nil => exact ⟨[], [], [], rfl, rfl, .inl rfl⟩
  | cons runner rest ih =>
      have stopping :
        Stops request runner before → ∃ front back added, runner :: rest = front ++ back ∧
          Chained request front before added ∧ (back = [] ∨
            ∃ runner later, back = runner :: later ∧ Stops request runner (before ++ added)) := by
        intro stops
        refine ⟨[], runner :: rest, [], rfl, rfl, .inr ⟨runner, rest, rfl, ?_⟩⟩
        rwa [List.append_nil]
      cases reached : verdict request runner before with
      | error failure =>
          refine stopping fun evidence ok => ?_
          rw [reached] at ok
          cases ok
      | ok evidence =>
          cases passes : evidence.passed with
          | false =>
              refine stopping fun other ok => ?_
              rw [reached] at ok
              cases ok
              exact passes
          | true =>
              obtain ⟨front, back, added, rfl, chained, ending⟩ := ih (before ++ [evidence])
              refine ⟨runner :: front, back, evidence :: added, rfl,
                ⟨evidence, added, rfl, reached, ⟨verdict_stage reached, passes⟩, chained⟩, ?_⟩
              rwa [List.append_assoc] at ending

theorem stops_unique {others after : List EngineeringStageRunner} {stopped : EngineeringStageRunner}
    (same : front ++ runner :: later = others ++ stopped :: after)
    (first : Chained request front before added) (second : Chained request others before other)
    (stops : Stops request runner (before ++ added))
    (halts : Stops request stopped (before ++ other)) :
    front = others ∧ runner = stopped ∧ later = after ∧ added = other := by
  rcases List.append_eq_append_iff.mp same with ⟨middle, rfl, rest⟩ | ⟨middle, rfl, rest⟩
  · cases middle with
    | nil =>
        rw [List.append_nil] at second ⊢
        obtain ⟨rfl, rfl⟩ := List.cons.inj rest
        exact ⟨rfl, rfl, rfl, chained_unique first second⟩
    | cons head tail =>
        obtain ⟨rfl, rfl⟩ := List.cons.inj rest
        obtain ⟨lead, tailEvidence, rfl, leads, evidence, _, rfl, reached, ⟨_, passes⟩, _⟩ :=
          chained_append.mp second
        rw [chained_unique first leads] at stops
        rw [stops evidence reached] at passes
        cases passes
  · cases middle with
    | nil =>
        rw [List.append_nil] at first ⊢
        obtain ⟨rfl, rfl⟩ := List.cons.inj rest
        exact ⟨rfl, rfl, rfl, chained_unique first second⟩
    | cons head tail =>
        obtain ⟨rfl, rfl⟩ := List.cons.inj rest
        obtain ⟨lead, tailEvidence, rfl, leads, evidence, _, rfl, reached, ⟨_, passes⟩, _⟩ :=
          chained_append.mp first
        rw [chained_unique second leads] at halts
        rw [halts evidence reached] at passes
        cases passes

end Chain

section Runs

variable {sink : Nat → Option Failure} {request : EngineeringV1Request}
    {runner : EngineeringStageRunner}
  {front later : List EngineeringStageRunner} {added : List EngineeringStageEvidence}
  {progress : Progress}

theorem recordEvent_accepted (accepts : ∀ place, sink place = none) (stage : EngineeringStage)
    (status : EngineeringAuditStatus) : recordEvent sink request stage status progress =
      ({ progress with records :=
        progress.records ++ [auditEvent request stage status progress.evidence.length] },
        none) := by
  rw [recordEvent, accepts]
  rfl

structure After (request : EngineeringV1Request) (front : List EngineeringStageRunner)
    (added : List EngineeringStageEvidence) (progress reached : Progress) : Prop where
  calls : reached.calls = progress.calls ++ callsOf front progress.evidence added
  records : reached.records = progress.records ++ recordsOf request front progress.evidence.length
  evidence : reached.evidence = progress.evidence ++ added
  overran : reached.overran = (progress.overran || overranIn request front progress.evidence added)

/-- The loop goes through runners that pass. -/
theorem runStages_chained (accepts : ∀ place, sink place = none)
    (chained : Chained request front progress.evidence added) : ∃ reached,
      After request front added progress reached ∧
        ∀ back, runStages sink request (front ++ back) progress =
          runStages sink request back reached := by
  induction front generalizing progress added with
  | nil =>
      cases chained
      refine ⟨progress, ⟨?_, ?_, ?_, ?_⟩, fun _ => rfl⟩
      · exact (List.append_nil _).symm
      · exact (List.append_nil _).symm
      · exact (List.append_nil _).symm
      · exact (Bool.or_false _).symm
  | cons runner rest ih =>
      obtain ⟨evidence, others, rfl, passed, ⟨_, passes⟩, chained⟩ := chained
      let next : Progress := {
        calls := progress.calls ++ [(runner.stage, progress.evidence)]
        records :=
          progress.records ++ [auditEvent request runner.stage .started progress.evidence.length] ++
          [auditEvent request runner.stage .passed (progress.evidence.length + 1)]
        evidence := progress.evidence ++ [evidence]
        activeStage := some runner.stage
        overran := progress.overran || (runner.run request progress.evidence).overran }
      have tail : Chained request rest next.evidence others := chained
      obtain ⟨reached, after, goes⟩ := ih tail
      refine ⟨reached, ⟨?_, ?_, ?_, ?_⟩, fun back => ?_⟩
      · rw [after.calls, List.append_assoc]
        rfl
      · have count : next.evidence.length = progress.evidence.length + 1 := by
          rw [List.length_append, List.length_singleton]
        rw [after.records, count, List.append_assoc, List.append_assoc]
        rfl
      · rw [after.evidence, List.append_assoc]
        rfl
      · rw [after.overran, Bool.or_assoc]
        rfl
      · rw [← goes back, List.cons_append, runStages, recordEvent_accepted accepts]
        dsimp only
        unfold verdict at passed
        rw [passed]
        dsimp only
        rw [if_pos passes, recordEvent_accepted accepts, List.length_append, List.length_singleton]

theorem runStages_blocked (accepts : ∀ place, sink place = none)
    {evidence : EngineeringStageEvidence}
    (stopped : verdict request runner progress.evidence = .ok evidence)
    (blocks : evidence.passed = false) : runStages sink request (runner :: later) progress =
      ({ calls := progress.calls ++ [(runner.stage, progress.evidence)]
         records := progress.records ++
           [auditEvent request runner.stage .started progress.evidence.length] ++
          [auditEvent request runner.stage .blocked progress.evidence.length]
         evidence := progress.evidence
         activeStage := some runner.stage
         overran := progress.overran || (runner.run request progress.evidence).overran },
        (makeResult request .blocked (progress.evidence ++ [evidence]) (some runner.stage)
          (stagesOf progress.evidence)).map some) := by
  unfold verdict at stopped
  rw [runStages, recordEvent_accepted accepts]
  dsimp only
  rw [stopped]
  dsimp only
  rw [if_neg (by rw [blocks]; exact Bool.noConfusion), recordEvent_accepted accepts]

theorem runStages_failed (accepts : ∀ place, sink place = none) {failure : Failure}
    (stopped : verdict request runner progress.evidence = .error failure) :
    runStages sink request (runner :: later) progress =
      ({ calls := progress.calls ++ [(runner.stage, progress.evidence)]
         records :=
           progress.records ++ [auditEvent request runner.stage .started progress.evidence.length]
         evidence := progress.evidence
         activeStage := some runner.stage
         overran := progress.overran || (runner.run request progress.evidence).overran },
        .error failure) := by
  unfold verdict at stopped
  rw [runStages, recordEvent_accepted accepts]
  dsimp only
  rw [stopped]

end Runs

section Property

def raisedFor : Failure → Failure
  | .timeout => .engineering .timeout
  | .exception => .engineering .stageFailure
  | failure => failure

/-- No handler records the failure: it is no `Exception`, or the audit is said to have failed. -/
def unrecorded (failure : Failure) : Bool :=
  decide (failure = .cancelled ∨ failure = .fatal ∨ failure = .engineering .auditFailure)

inductive Ends (request : EngineeringV1Request) (front : List EngineeringStageRunner)
    (evidence : List EngineeringStageEvidence) : List EngineeringStageRunner → Trace →
      Except Failure EngineeringV1Result → Prop
  | completed (result : EngineeringV1Result) (outcome : result.outcome = .completed)
      (stages : result.completedStages = stagesOf evidence) (unblocked : result.blockedStage = none)
      (given : result.evidence = evidence) :
      Ends request front evidence [] ⟨callsOf front [] evidence,
        recordsOf request front 0⟩ (.ok result)
  | blocked (runner : EngineeringStageRunner) (later : List EngineeringStageRunner)
      (stopped : EngineeringStageEvidence)
      (verdict_ : verdict request runner evidence = .ok stopped)
      (own : stopped.stage = runner.stage) (blocks : stopped.passed = false)
      (result : EngineeringV1Result) (outcome : result.outcome = .blocked)
      (stages : result.completedStages = stagesOf evidence)
      (stage : result.blockedStage = some runner.stage)
      (given : result.evidence = evidence ++ [stopped]) :
      Ends request front evidence (runner :: later)
        ⟨callsOf front [] evidence ++ [(runner.stage, evidence)],
          recordsOf request front 0 ++ [auditEvent request runner.stage .started evidence.length,
            auditEvent request runner.stage .blocked evidence.length]⟩ (.ok result)
  | failed (runner : EngineeringStageRunner) (later : List EngineeringStageRunner)
      (failure left : Failure) (verdict_ : verdict request runner evidence = .error failure)
      (leaves : left = leaveTimeout (overranIn request front [] evidence ||
        (runner.run request evidence).overran) failure) :
      Ends request front evidence (runner :: later)
        ⟨callsOf front [] evidence ++ [(runner.stage, evidence)],
          recordsOf request front 0 ++ auditEvent request runner.stage .started evidence.length ::
            itemIf (!unrecorded left) (auditEvent request runner.stage .failed evidence.length)⟩
        (.error (raisedFor left))

def Trace.statuses (trace : Trace) (stage : EngineeringStage) : List EngineeringAuditStatus :=
  (trace.records.filter fun event => decide (event.stage = stage)).map fun event => event.status

/-- A started stage has one terminal record after its start, unless the failure that is raised has
none. -/
def Closed (statuses : List EngineeringAuditStatus) (result : Except Failure EngineeringV1Result) :
    Prop :=
  statuses = [.started, .passed] ∨ statuses = [.started, .blocked] ∨
    statuses = [.started, .failed] ∨
    statuses = [.started] ∧ ∃ failure, result = .error failure ∧ unrecorded failure = true

structure Orchestrated (stages : List EngineeringStageRunner) (request : EngineeringV1Request)
    (trace : Trace) (result : Except Failure EngineeringV1Result) : Prop where
  course : ∃ front back evidence, stages = front ++ back ∧ Chained request front [] evidence ∧
    Ends request front evidence back trace result
  ordered : (trace.calls.map Prod.fst).IsPrefix stageOrder
  completed : (∃ made, result = .ok made ∧ made.outcome = .completed) ↔
    ∃ evidence, Chained request stages [] evidence
  blocked : (∃ made, result = .ok made ∧ made.outcome = .blocked) ↔
    ∃ front runner later evidence stopped, stages = front ++ runner :: later ∧
      Chained request front [] evidence ∧ verdict request runner evidence = .ok stopped ∧
      stopped.stage = runner.stage ∧ stopped.passed = false
  paired : ∀ stage ∈ trace.calls.map Prod.fst, Closed (trace.statuses stage) result
  unstarted : ∀ stage, stage ∉ trace.calls.map Prod.fst → trace.statuses stage = []

end Property

section Proofs

variable {request : EngineeringV1Request} {front back : List EngineeringStageRunner}
  {evidence : List EngineeringStageEvidence} {trace : Trace}
  {result : Except Failure EngineeringV1Result}

theorem callsOf_stages {before : List EngineeringStageEvidence}
    (chained : Chained request front before evidence) :
    (callsOf front before evidence).map Prod.fst = front.map fun runner => runner.stage := by
  induction front generalizing before evidence with
  | nil => rfl
  | cons runner rest ih =>
      obtain ⟨item, later, rfl, _, _, chained⟩ := chained
      rw [callsOf, List.map_cons, List.map_cons, ih chained]

theorem handleFailure_accepted {sink : Nat → Option Failure} {progress : Progress}
    {stage : EngineeringStage}
    (accepts : ∀ place, sink place = none) (active : progress.activeStage = some stage)
    (left : Failure) : handleFailure sink request progress left =
      (⟨progress.calls, progress.records ++ itemIf (!unrecorded left)
        (auditEvent request stage .failed progress.evidence.length)⟩, .error (raisedFor left)) := by
  have recorded : ∀ failure, recordFailure sink request progress failure =
      (⟨progress.calls,
        progress.records ++ [auditEvent request stage .failed progress.evidence.length]⟩,
        .error failure) := by
    intro failure
    rw [recordFailure, active]
    dsimp only
    rw [recordEvent_accepted accepts]
    rfl
  have silent : ∀ failure : Failure,
      ((progress.toTrace, .error failure) : Trace × Except Failure EngineeringV1Result) =
        (⟨progress.calls, progress.records ++ []⟩, .error failure) := by
    intro failure
    rw [List.append_nil]
  cases left with
  | engineering code =>
      rw [handleFailure]
      split
      · next audit =>
          subst audit
          exact silent _
      · next other =>
          have known : unrecorded (.engineering code) = false := by
            simp [unrecorded, other]
          rw [recorded, known]
          rfl
  | timeout => exact recorded _
  | exception => exact recorded _
  | cancelled => exact silent _
  | fatal => exact silent _

theorem makeResult_made {outcome : EngineeringV1Outcome} {blockedStage : Option EngineeringStage}
    {completedStages : List EngineeringStage}
    (sizes : completedStages.length ≤ 17 ∧ evidence.length ≤ 17) :
    makeResult request outcome evidence blockedStage completedStages =
      .ok ⟨request.projectId, request.taskId, request.correlationId, outcome,
        completedStages, blockedStage, evidence, sizes⟩ := dif_pos sizes

theorem ends_course (orchestrator : EngineeringV1Orchestrator)
    (accepts : ∀ place, orchestrator.sink place = none) (same : orchestrator.stages = front ++ back)
    (chained : Chained request front [] evidence)
    (ending : back = [] ∨ ∃ runner later, back = runner :: later ∧ Stops request runner evidence) :
    Ends request front evidence back (orchestrator.run request).1 (orchestrator.run request).2 := by
  have size : orchestrator.stages.length = 17 := by
    rw [← List.length_map (f := fun runner : EngineeringStageRunner => runner.stage),
      orchestrator.ordered]
    rfl
  rw [same, List.length_append] at size
  have passed := chained_length chained
  have start : Chained request front Progress.initial.evidence evidence := chained
  obtain ⟨reached, after, goes⟩ := runStages_chained accepts start
  have calls : reached.calls = callsOf front [] evidence := after.calls
  have records : reached.records = recordsOf request front 0 := after.records
  have given : reached.evidence = evidence := after.evidence
  have overran : reached.overran = overranIn request front [] evidence := by
    rw [after.overran]
    rfl
  unfold EngineeringV1Orchestrator.run
  rw [same, goes back]
  rcases ending with rfl | ⟨runner, later, rfl, stops⟩
  · rw [List.length_nil] at size
    have sizes : (stagesOf evidence).length ≤ 17 ∧ evidence.length ≤ 17 := by
      rw [stagesOf, List.length_map]
      omega
    have traced : reached.toTrace = ⟨callsOf front [] evidence, recordsOf request front 0⟩ := by
      rw [← calls, ← records]
    rw [runStages]
    dsimp only
    rw [given, makeResult_made sizes, traced]
    exact .completed _ rfl rfl rfl rfl
  · rw [List.length_cons] at size
    rw [← given] at stops
    cases stopped : verdict request runner reached.evidence with
    | error failure =>
        rw [runStages_failed accepts stopped]
        dsimp only
        rw [handleFailure_accepted accepts rfl, given, calls, records, overran, List.append_assoc]
        exact .failed runner later failure _ (given ▸ stopped) rfl
    | ok item =>
        have blocks := stops item stopped
        have sizes : (stagesOf evidence).length ≤ 17 ∧ (evidence ++ [item]).length ≤ 17 := by
          rw [stagesOf, List.length_map, List.length_append, List.length_singleton]
          omega
        rw [runStages_blocked accepts stopped blocks, given, makeResult_made sizes]
        dsimp only [Except.map]
        rw [calls, records, List.append_assoc]
        exact .blocked runner later item (given ▸ stopped)
          (verdict_stage stopped) blocks _ rfl rfl rfl rfl

theorem ends_stages (chained : Chained request front [] evidence)
    (ends : Ends request front evidence back trace result) :
    trace.calls.map Prod.fst = (front ++ back.take 1).map fun runner => runner.stage := by
  cases ends with
  | completed => rw [callsOf_stages chained, List.take_nil, List.append_nil]
  | blocked runner later => rw [List.map_append, callsOf_stages chained, List.map_append]; rfl
  | failed runner later => rw [List.map_append, callsOf_stages chained, List.map_append]; rfl

theorem statuses_foreign {records : List EngineeringAuditEvent} {stage : EngineeringStage}
    (foreign : ∀ event ∈ records, event.stage ≠ stage) :
    (records.filter fun event => decide (event.stage = stage)) = [] := by
  rw [List.filter_eq_nil_iff]
  intro event among
  rw [decide_eq_true_eq]
  exact foreign event among

theorem recordsOf_stage {count : Nat} {event : EngineeringAuditEvent}
    (among : event ∈ recordsOf request front count) : event.stage ∈ front.map fun runner =>
      runner.stage := by
  induction front generalizing count with
  | nil => cases among
  | cons runner rest ih =>
      rw [recordsOf] at among
      rcases List.mem_cons.mp among with rfl | among
      · exact List.mem_cons_self
      · rcases List.mem_cons.mp among with rfl | among
        · exact List.mem_cons_self
        · exact List.mem_cons_of_mem _ (ih among)

theorem recordsOf_statuses {count : Nat} {stage : EngineeringStage}
    (distinct : (front.map fun runner => runner.stage).Nodup)
    (among : stage ∈ front.map fun runner => runner.stage) :
    ((recordsOf request front count).filter fun event => decide (event.stage = stage)).map
      (fun event => event.status) = [.started, .passed] := by
  induction front generalizing count with
  | nil => cases among
  | cons runner rest ih =>
      rw [List.map_cons, List.nodup_cons] at distinct
      rw [recordsOf]
      rcases List.mem_cons.mp among with rfl | later
      · have others : (recordsOf request rest (count + 1)).filter
            (fun event => decide (event.stage = runner.stage)) = [] :=
          statuses_foreign fun event there same => distinct.1 (same ▸ recordsOf_stage there)
        simp [auditEvent, others]
      · have other : runner.stage ≠ stage := fun same => distinct.1 (same ▸ later)
        have passed :
          ((recordsOf request rest (count + 1)).filter fun event =>
            decide (event.stage = stage)).map
            (fun event => event.status) = [.started, .passed] := ih distinct.2 later
        simpa [auditEvent, other] using passed

/-- A run that stops at a stage closes those before it and this one. -/
theorem closed_stop {calls : List (EngineeringStage × List EngineeringStageEvidence)}
    {ending : List EngineeringAuditEvent} {stopped : EngineeringStage}
    (distinct : (front.map fun runner => runner.stage).Nodup)
    (fresh : stopped ∉ front.map fun runner => runner.stage)
    (own : ∀ event ∈ ending, event.stage = stopped)
    (closes : Closed (ending.map fun event => event.status) result) :
    (∀ stage ∈ front.map (fun runner => runner.stage) ++ [stopped],
        Closed (Trace.statuses ⟨calls, recordsOf request front 0 ++ ending⟩ stage) result) ∧
      ∀ stage, stage ∉ front.map (fun runner => runner.stage) ++ [stopped] →
        Trace.statuses ⟨calls, recordsOf request front 0 ++ ending⟩ stage = [] := by
  unfold Trace.statuses
  dsimp only
  have absent : ∀ stage, stage ≠ stopped →
      (ending.filter fun event => decide (event.stage = stage)) = [] := fun stage other =>
    statuses_foreign fun event there same => other (same.symm.trans (own event there))
  have before : ∀ stage, stage ∉ front.map (fun runner => runner.stage) →
      ((recordsOf request front 0).filter fun event => decide (event.stage = stage)) = [] :=
        fun stage apart =>
    statuses_foreign fun event there same => apart (same ▸ recordsOf_stage there)
  constructor
  · intro stage among
    rw [List.filter_append]
    rcases List.mem_append.mp among with lead | last
    · have other : stage ≠ stopped := fun same => fresh (same ▸ lead)
      rw [absent stage other, List.append_nil]
      exact .inl (recordsOf_statuses distinct lead)
    · rw [List.mem_singleton.mp last, before stopped fresh, List.nil_append,
        List.filter_eq_self.mpr fun event there => decide_eq_true (own event there)]
      exact closes
  · intro stage apart
    rw [List.mem_append, not_or, List.mem_singleton] at apart
    rw [List.filter_append, before stage apart.1, absent stage apart.2]
    rfl

theorem closed_failed (left : Failure) (stage : EngineeringStage) (count : Nat) :
    Closed ((auditEvent request stage .started count ::
      itemIf (!unrecorded left) (auditEvent request stage .failed count)).map fun event =>
        event.status)
      (.error (raisedFor left)) := by
  cases silent : unrecorded left with
  | false => exact .inr (.inr (.inl rfl))
  | true =>
      refine .inr (.inr (.inr ⟨rfl, raisedFor left, rfl, ?_⟩))
      cases left with
      | timeout => cases silent
      | exception => cases silent
      | _ => exact silent

/-- The stages with records are those of the calls, and each is closed. -/
theorem ends_closed (chained : Chained request front [] evidence)
    (ends : Ends request front evidence back trace result)
    (distinct : ((front ++ back).map fun runner => runner.stage).Nodup) :
    (∀ stage ∈ trace.calls.map Prod.fst, Closed (trace.statuses stage) result) ∧
      ∀ stage, stage ∉ trace.calls.map Prod.fst → trace.statuses stage = [] := by
  rw [ends_stages chained ends, List.map_append]
  rw [List.map_append] at distinct
  obtain ⟨lead, _, apart⟩ := List.nodup_append.mp distinct
  cases ends with
  | completed =>
      rw [List.take_nil, List.map_nil, List.append_nil]
      refine ⟨fun stage among => .inl (recordsOf_statuses lead among), fun stage absent => ?_⟩
      have none_ : (recordsOf request front 0).filter (fun event => decide (event.stage = stage)) =
          [] :=
        statuses_foreign fun event there same => absent (same ▸ recordsOf_stage there)
      exact congrArg (List.map fun event => event.status) none_
  | blocked runner later =>
      have fresh : runner.stage ∉ front.map fun runner => runner.stage := fun among =>
        apart _ among _ List.mem_cons_self rfl
      exact closed_stop lead fresh (by simp [auditEvent]) (.inr (.inl rfl))
  | failed runner later failure left =>
      have fresh : runner.stage ∉ front.map fun runner => runner.stage := fun among =>
        apart _ among _ List.mem_cons_self rfl
      refine closed_stop lead fresh ?_ (closed_failed left runner.stage evidence.length)
      intro event among
      rcases List.mem_cons.mp among with rfl | among
      · rfl
      · cases silent : unrecorded left with
        | false =>
            rw [silent] at among
            rw [List.mem_singleton.mp among]
            rfl
        | true =>
            rw [silent] at among
            cases among

theorem ends_completed (chained : Chained request front [] evidence)
    (ends : Ends request front evidence back trace result) :
    (∃ made, result = .ok made ∧ made.outcome = .completed) ↔
      ∃ all, Chained request (front ++ back) [] all := by
  constructor
  · rintro ⟨made, same, outcome⟩
    cases ends with
    | completed => exact ⟨evidence, by rwa [List.append_nil]⟩
    | blocked runner later stopped verdict_ _ blocks other blocked_ =>
        cases same
        rw [outcome] at blocked_
        cases blocked_
    | failed => cases same
  · rintro ⟨all, whole⟩
    obtain ⟨first, second, rfl, lead, tail⟩ := chained_append.mp whole
    rw [chained_unique chained lead] at ends
    rw [List.nil_append] at tail
    cases ends with
    | completed made outcome => exact ⟨made, rfl, outcome⟩
    | blocked runner later stopped verdict_ _ blocks =>
        obtain ⟨item, others, rfl, reached, ⟨_, passes⟩, _⟩ := tail
        rw [verdict_] at reached
        cases reached
        rw [blocks] at passes
        cases passes
    | failed runner later failure left verdict_ =>
        obtain ⟨item, others, rfl, reached, _⟩ := tail
        rw [verdict_] at reached
        cases reached

theorem ends_blocked (chained : Chained request front [] evidence)
    (ends : Ends request front evidence back trace result) :
    (∃ made, result = .ok made ∧ made.outcome = .blocked) ↔
      ∃ lead runner later given stopped, front ++ back = lead ++ runner :: later ∧
        Chained request lead [] given ∧ verdict request runner given = .ok stopped ∧
        stopped.stage = runner.stage ∧ stopped.passed = false := by
  constructor
  · rintro ⟨made, same, outcome⟩
    cases ends with
    | completed other completed_ =>
        cases same
        rw [outcome] at completed_
        cases completed_
    | blocked runner later stopped verdict_ own blocks =>
        exact ⟨front, runner, later, evidence, stopped, rfl, chained, verdict_, own, blocks⟩
    | failed => cases same
  · rintro ⟨lead, runner, later, given, stopped, same, passed, verdict_, _, blocks⟩
    have stops : Stops request runner ([] ++ given) := by
      intro other reached
      rw [List.nil_append, verdict_] at reached
      cases reached
      exact blocks
    cases ends with
    | completed =>
        rw [List.append_nil] at same
        rw [same] at chained
        obtain ⟨first, second, rfl, leads, item, others, rfl, reached, ⟨_, passes⟩, _⟩ :=
          chained_append.mp chained
        rw [chained_unique passed leads] at stops
        rw [stops item reached] at passes
        cases passes
    | blocked _ _ _ _ _ _ made outcome => exact ⟨made, rfl, outcome⟩
    | failed other after failure left failing =>
        have halts : Stops request other ([] ++ evidence) := by
          intro item reached
          rw [List.nil_append, failing] at reached
          cases reached
        obtain ⟨rfl, rfl, rfl, rfl⟩ := stops_unique same chained passed halts stops
        rw [failing] at verdict_
        cases verdict_

/-- Every run of the stages, where the sink accepts every record. -/
theorem stages_orchestrated (orchestrator : EngineeringV1Orchestrator)
    (request : EngineeringV1Request) (accepts : ∀ place, orchestrator.sink place = none) :
    Orchestrated orchestrator.stages request (orchestrator.run request).1
      (orchestrator.run request).2 := by
  obtain ⟨front, back, evidence, same, chained, ending⟩ := chained_exists orchestrator.stages []
  have ends := ends_course orchestrator accepts same chained ending
  have distinct : ((front ++ back).map fun runner => runner.stage).Nodup := by
    rw [← same, orchestrator.ordered]
    decide
  have closed := ends_closed chained ends distinct
  refine ⟨⟨front, back, evidence, same, chained, ends⟩, ?_, ?_, ?_, closed.1, closed.2⟩
  · rw [ends_stages chained ends, ← orchestrator.ordered, same]
    exact ((List.prefix_append_right_inj front).mpr (List.take_prefix 1 back)).map _
  · rw [same]
    exact ends_completed chained ends
  · rw [same]
    exact ends_blocked chained ends

end Proofs

section Sample

def sampleOrchestrator (reply : EngineeringStage → Reply) : EngineeringV1Orchestrator where
  stages := stageOrder.map fun stage => ⟨stage, fun _ _ => reply stage⟩
  sink := fun _ => none
  ordered := rfl

def sampleRequest : EngineeringV1Request := ⟨1, 2, 3, 60, by norm_num⟩

def blockingAt (blocked : EngineeringStage) : EngineeringV1Orchestrator :=
  sampleOrchestrator fun stage => ⟨.ok (.evidence ⟨stage, decide (stage ≠ blocked), [[0x61]]⟩),
    false⟩

/-- A run that is blocked in the middle. -/
theorem stages_orchestrated_sample :
    ((blockingAt .qa).run sampleRequest).2.toOption.map EngineeringV1Result.blockedStage =
        some (some .qa) ∧
      Orchestrated (blockingAt .qa).stages sampleRequest ((blockingAt .qa).run sampleRequest).1
        ((blockingAt .qa).run sampleRequest).2 :=
  ⟨by decide, stages_orchestrated _ _ fun _ => rfl⟩

def StartAlone (failure : Failure) : Prop :=
  let orchestrator := sampleOrchestrator fun _ => ⟨.error failure, false⟩
  (∀ place, orchestrator.sink place = none) ∧
    (orchestrator.run sampleRequest).1.statuses .specificationAnalysis = [.started] ∧
    (orchestrator.run sampleRequest).2 = .error failure

/-- So does one that is interrupted, is cancelled or tells of an audit failure. -/
theorem stage_unclosed : StartAlone .fatal ∧ StartAlone .cancelled ∧
    StartAlone (.engineering .auditFailure) := by
  refine ⟨⟨fun _ => rfl, ?_, rfl⟩, ⟨fun _ => rfl, ?_, rfl⟩, ⟨fun _ => rfl, ?_, rfl⟩⟩
  · decide
  · decide
  · decide

end Sample

end SynapseOS.EngineeringV1
