import SynapseOS.Workflows.StageOutcomes

/-! How a run of the Security stage claims its task by its audit rows. -/

namespace SynapseOS.Workflows

open Execution Program Tasks Tools Transition

section Counts

def isSecurityStart (type : EventType) : Bool := decide (type = .started .security)

variable (rows more : List AuditEvent) (task : UUID) (correlation : Option UUID)

def startCount : Nat := correlatedCount (securityRows rows task) correlation isSecurityStart

def terminalCount : Nat := correlatedCount (securityRows rows task) correlation isSecurityTerminal

theorem securityRows_append :
    securityRows (rows ++ more) task = securityRows rows task ++ securityRows more task :=
  List.filter_append ..

theorem startCount_append : startCount (rows ++ more) task correlation =
    startCount rows task correlation + startCount more task correlation := by
  unfold startCount correlatedCount
  rw [securityRows_append, List.countP_append]

theorem terminalCount_append : terminalCount (rows ++ more) task correlation =
    terminalCount rows task correlation + terminalCount more task correlation := by
  unfold terminalCount correlatedCount
  rw [securityRows_append, List.countP_append]

variable {rows more task correlation}

theorem securityType_stage {type : EventType} (security : isSecurityType type = true) :
    isStageType type = true := by
  unfold isSecurityType at security
  split at security
  · rfl
  · rfl
  · rfl
  · cases security

theorem securityRows_plain (plain : more.all (fun event => !isStageType event.eventType) = true) :
    securityRows more task = [] := by
  refine List.filter_eq_nil_iff.mpr fun event member kept => ?_
  have other := List.all_eq_true.mp plain event member
  rw [securityType_stage (Bool.and_eq_true_iff.mp kept).2] at other
  cases other

theorem unmatched_iff : hasUnmatchedSecurityStart rows task = false ↔
    ∀ correlation, startCount rows task correlation ≤ terminalCount rows task correlation := by
  unfold hasUnmatchedSecurityStart
  constructor
  · intro matched correlation
    by_cases present : ∃ row ∈ securityRows rows task, row.correlationId = correlation
    · obtain ⟨row, member, rfl⟩ := present
      have each := List.any_eq_false.mp matched row member
      have bound := of_decide_eq_false (Bool.eq_false_iff.mpr each)
      exact Nat.le_of_not_lt bound
    · have absent : startCount rows task correlation = 0 :=
        List.countP_eq_zero.mpr fun row member counted =>
          present ⟨row, member, of_decide_eq_true (Bool.and_eq_true_iff.mp counted).1⟩
      rw [absent]
      exact Nat.zero_le _
  · intro balanced
    refine List.any_eq_false.mpr fun row member unmatched => ?_
    have bound := balanced row.correlationId
    have above := of_decide_eq_true unmatched
    exact absurd bound (Nat.not_le_of_lt above)

end Counts

section Rows

variable {scope : StageScope} {task project : UUID} {data : Metadata} {rows more : List AuditEvent}
  {correlation : Option UUID}

theorem counts_without (absent : securityRows more task = []) :
    startCount more task correlation = 0 ∧ terminalCount more task correlation = 0 := by
  unfold startCount terminalCount
  rw [absent]
  exact ⟨rfl, rfl⟩

theorem foreign_without
    (foreign : ∀ event ∈ more, event.resourceType ≠ some (.stageWorkflow .security)) :
    securityRows more task = [] :=
  List.filter_eq_nil_iff.mpr fun event member kept =>
    foreign event member (of_decide_eq_true (Bool.and_eq_true_iff.mp kept).1).2

theorem matching_append (absent : securityRows more scope.task = []) :
    hasMatchingStart (rows ++ more) scope .security = hasMatchingStart rows scope .security := by
  simp only [hasMatchingStart]
  rw [securityRows_append, absent, List.append_nil]

def Held (rows : List AuditEvent) (scope : StageScope) : Prop :=
  startCount rows scope.task (some scope.correlationId) = 1 ∧
    hasMatchingStart rows scope .security = true

theorem held_append (held : Held rows scope) (absent : securityRows more scope.task = []) :
    Held (rows ++ more) scope := by
  constructor
  · rw [startCount_append, (counts_without absent).1]
    exact held.1
  · rw [matching_append absent]
    exact held.2

theorem matching_terminals (matching : hasMatchingStart rows scope .security = true) :
    terminalCount rows scope.task (some scope.correlationId) = 0 := (of_decide_eq_true matching).2

/-- While a task is held, no run of the stage can start. -/
theorem held_refuses {other : StageScope} (held : Held rows scope)
    (same : other.task = scope.task) : startRefused rows other .security = true := by
  have unmatched : hasUnmatchedSecurityStart rows scope.task = true := by
    cases matched : hasUnmatchedSecurityStart rows scope.task with
    | true => rfl
    | false =>
        have bound := unmatched_iff.mp matched (some scope.correlationId)
        rw [held.1, matching_terminals held.2] at bound
        omega
  show (hasUnmatchedSecurityStart rows other.task || _) = true
  rw [same, unmatched]
  rfl

theorem admitted_balanced (admitted : startRefused rows scope .security = false)
    (correlation : Option UUID) :
    startCount rows scope.task correlation ≤ terminalCount rows scope.task correlation :=
  unmatched_iff.mp (Bool.or_eq_false_iff.mp admitted).1 correlation

theorem securityRows_own {type : EventType} (kept : isSecurityType type = true) :
    securityRows [checkpointEvent .security scope type project data] scope.task =
      [checkpointEvent .security scope type project data] :=
  List.filter_eq_self.mpr fun event member => by
    rw [List.mem_singleton.mp member]
    exact Bool.and_eq_true_iff.mpr ⟨decide_eq_true ⟨rfl, rfl⟩, kept⟩

theorem held_started {row : TaskRow} (admitted : startRefused rows scope .security = false) :
    Held (rows ++ [startedEvent .security scope row]) scope := by
  have fresh : ∀ event ∈ securityRows rows scope.task, event.correlationId ≠
      some scope.correlationId := by
    intro event member same
    have absent := List.any_eq_false.mp (Bool.or_eq_false_iff.mp admitted).2 event member
    exact absent (decide_eq_true same)
  have none (p : AuditEvent → Bool) (own : ∀ event, p event = true →
      event.correlationId = some scope.correlationId) : (securityRows rows scope.task).countP p =
        0 :=
    List.countP_eq_zero.mpr fun event member counted => fresh event member (own event counted)
  have one : securityRows (rows ++ [startedEvent .security scope row]) scope.task =
      securityRows rows scope.task ++ [startedEvent .security scope row] := by
    have own : securityRows [startedEvent .security scope row] scope.task =
        [startedEvent .security scope row] :=
      securityRows_own rfl
    rw [securityRows_append, own]
  have counted (p : AuditEvent → Bool) (own : ∀ event, p event = true →
      event.correlationId = some scope.correlationId) :
      (securityRows (rows ++ [startedEvent .security scope row]) scope.task).countP p =
        if p (startedEvent .security scope row) = true then 1 else 0 := by
    rw [one, List.countP_append, none p own, List.countP_singleton, Nat.zero_add]
  constructor
  · refine (counted _ fun event both => ?_).trans
      (if_pos (Bool.and_eq_true_iff.mpr ⟨decide_eq_true rfl, rfl⟩))
    exact of_decide_eq_true (Bool.and_eq_true_iff.mp both).1
  · have plain : isSecurityTerminal (startedEvent .security scope row).eventType = false := rfl
    refine decide_eq_true
      ⟨(counted _ fun event all => ?_).trans (if_pos (decide_eq_true ⟨rfl, rfl, rfl⟩)),
      (counted _ fun event both => ?_).trans (if_neg ?_)⟩
    · exact (of_decide_eq_true all).1
    · exact of_decide_eq_true (Bool.and_eq_true_iff.mp both).1
    · rw [plain, Bool.and_false]
      nofun

theorem started_counts {row : TaskRow} (other : correlation ≠ some scope.correlationId) :
    startCount [startedEvent .security scope row] scope.task correlation = 0 := by
  refine List.countP_eq_zero.mpr fun event member counted => ?_
  have single : event = startedEvent .security scope row :=
    List.mem_singleton.mp (List.mem_filter.mp member).1
  rw [single] at counted
  exact other (of_decide_eq_true (Bool.and_eq_true_iff.mp counted).1).symm

theorem terminal_counts {moved : AuditEvent} {type : EventType}
    (foreign : moved.resourceType ≠ some (.stageWorkflow .security))
    (terminal : isSecurityTerminal type = true) (plain : isSecurityStart type = false) :
    (∀ correlation, startCount [moved, checkpointEvent .security scope type project data] scope.task
      correlation = 0) ∧
      terminalCount [moved, checkpointEvent .security scope type project data] scope.task
        (some scope.correlationId) = 1 := by
  have kept : isSecurityType type = true := by
    unfold isSecurityTerminal at terminal
    split at terminal
    · rfl
    · rfl
    · cases terminal
  have rows : securityRows [moved, checkpointEvent .security scope type project data] scope.task =
      [checkpointEvent .security scope type project data] := by
    have skipped : securityRows [moved] scope.task = [] :=
      foreign_without fun event member => by rw [List.mem_singleton.mp member]; exact foreign
    have split :=
      securityRows_append [moved] [checkpointEvent .security scope type project data] scope.task
    rw [skipped, securityRows_own kept] at split
    exact split
  unfold startCount terminalCount correlatedCount
  rw [rows]
  constructor
  · intro correlation
    rw [List.countP_singleton]
    refine if_neg fun both => ?_
    have start : isSecurityStart type = true := (Bool.and_eq_true_iff.mp both).2
    rw [plain] at start
    cases start
  · rw [List.countP_singleton]
    exact if_pos (Bool.and_eq_true_iff.mpr ⟨decide_eq_true rfl, terminal⟩)

end Rows

section Exclusive

variable {task : UUID} {runs : StageRuns task} {works : Nat → Prop} {w t : StageWorld}
  {phases : Nat → StagePhase} {phase : StagePhase} {rows base more : List AuditEvent}
  {stage : Stage} {id other : Nat}

def StagePhase.working : StagePhase → Prop
  | .executing | .failing _ false => True
  | _ => False

def Claims (runs : StageRuns task) (stage : Stage) (phases : Nat → StagePhase) (id : Nat) : Prop :=
  (runs.run id).stage = stage ∧ (phases id).working

theorem claims_update (claims : Claims runs stage (Function.update phases id phase) other) :
    (other = id ∧ (runs.run id).stage = stage ∧ phase.working) ∨
      (other ≠ id ∧ Claims runs stage phases other) := by
  by_cases same : other = id
  · subst same
    have working := claims.2
    rw [Function.update_self] at working
    exact .inl ⟨rfl, claims.1, working⟩
  · have working := claims.2
    rw [Function.update_of_ne same] at working
    exact .inr ⟨same, claims.1, working⟩

def Single (runs : StageRuns task) (stage : Stage) (phases : Nat → StagePhase) : Prop :=
  ∀ id other, Claims runs stage phases id → Claims runs stage phases other → id = other

theorem claims_known {phase : StagePhase}
    (known : (runs.run id).stage = stage → phase.working → (phases id).working)
    (claims : Claims runs stage (Function.update phases id phase) other) :
    Claims runs stage phases other := by
  rcases claims_update claims with ⟨rfl, own, working⟩ | ⟨_, kept⟩
  · exact ⟨own, known own working⟩
  · exact kept

theorem single_update (single : Single runs stage phases)
    (known : (runs.run id).stage = stage → phase.working → (phases id).working) :
    Single runs stage (Function.update phases id phase) :=
  fun other third first second => single other third (claims_known known first)
    (claims_known known second)

theorem single_started (free : ∀ other, ¬ Claims runs stage phases other) :
    Single runs stage (Function.update phases id phase) := by
  have only {other : Nat} (claims : Claims runs stage (Function.update phases id phase) other) :
      other = id := by
    rcases claims_update claims with ⟨same, _⟩ | ⟨_, kept⟩
    · exact same
    · exact absurd kept (free other)
  intro other third first second
  rw [only first, only second]

structure Exclusive (runs : StageRuns task) (phases : Nat → StagePhase) (rows : List AuditEvent) :
    Prop where
  held : ∀ id, Claims runs .security phases id → Held rows (runs.run id).scope
  single : Single runs .security phases

theorem exclusive_append (exclusive : Exclusive runs phases rows)
    (absent : securityRows more task = []) : Exclusive runs phases (rows ++ more) where
  held id claims := held_append (exclusive.held id claims) (by rw [runs.own id]; exact absent)
  single := exclusive.single

theorem exclusive_update (exclusive : Exclusive runs phases rows)
    (known : (runs.run id).stage = .security → phase.working → (phases id).working) :
    Exclusive runs (Function.update phases id phase) rows where
  held other claims := exclusive.held other (claims_known known claims)
  single := single_update exclusive.single known

theorem exclusive_ended (exclusive : Exclusive runs phases rows)
    (claims : Claims runs .security phases id) (idle : ¬ phase.working) (after : List AuditEvent) :
    Exclusive runs (Function.update phases id phase) after := by
  have none {other : Nat} (claims' : Claims runs .security (Function.update phases id phase)
      other) : False := by
    rcases claims_update claims' with ⟨_, _, working⟩ | ⟨different, kept⟩
    · exact idle working
    · exact different (exclusive.single other id kept claims)
  exact ⟨fun other claims => (none claims).elim, fun other third claims => (none claims).elim⟩

theorem admitted_free (exclusive : Exclusive runs phases rows)
    (admitted : startRefused rows (runs.run id).scope .security = false) (other : Nat) :
    ¬ Claims runs .security phases other := by
  intro claims
  have same : (runs.run id).scope.task = (runs.run other).scope.task := by rw [runs.own, runs.own]
  rw [held_refuses (exclusive.held other claims) same] at admitted
  cases admitted

theorem exclusive_started (exclusive : Exclusive runs phases rows) {row : TaskRow}
    (admitted : startRefused rows (runs.run id).scope .security = false) :
    Exclusive runs (Function.update phases id .executing)
      (rows ++ [startedEvent .security (runs.run id).scope row]) := by
  have free := admitted_free exclusive admitted
  constructor
  · intro other claims
    rcases claims_update claims with ⟨rfl, _⟩ | ⟨_, kept⟩
    · exact held_started admitted
    · exact absurd kept (free other)
  · exact single_started free

theorem ended_idle (outcome : StageOutcome) : ¬ (StagePhase.ended outcome).working := id

theorem resultPhase_idle (stage : Stage) (result : StageResult) (reread : Except Exn TaskStatus) :
    ¬ (resultPhase stage result reread).working := by
  rcases resultPhase_cases stage result reread with ends | ⟨code, fails⟩ | ⟨e, _, ends⟩
  · rw [ends]
    exact id
  · rw [fails]
    exact id
  · rw [ends]
    exact id

theorem qa_started {row : TaskRow} {scope : StageScope} :
    securityRows [startedEvent .qa scope row] task = [] :=
  foreign_without fun event member => by rw [List.mem_singleton.mp member]; nofun

theorem qa_terminal {row : TaskRow} {scope : StageScope} {target : TaskStatus}
    {context : TransitionContext} {type : EventType} {project : UUID} {data : Metadata} :
    securityRows [movedEvent task row target context,
      checkpointEvent .qa scope type project data] task = [] :=
  foreign_without fun event member => by
    rcases List.mem_pair.mp member with rfl | rfl
    · nofun
    · nofun

theorem exclusive_moves {action : StageAction} (told : Told runs works base w)
    (exclusive : Exclusive runs w.phase w.db.audits) (moves : StageMoves runs w action t) :
    Exclusive runs t.phase t.db.audits := by
  cases moves with
  | other row events plain held => exact exclusive_append exclusive (securityRows_plain plain)
  | refused id preflight calls e idle => exact exclusive_update exclusive fun _ working =>
      working.elim
  | begun id preflight calls row after idle ready admitted wrote =>
      show Exclusive runs (Function.update w.phase id .executing) after.audits
      rw [wrote.audits]
      cases stage : (runs.run id).stage with
      | security =>
          rw [stage] at admitted
          exact exclusive_started exclusive admitted
      | qa =>
          have known : (runs.run id).stage = .security → StagePhase.executing.working →
              (w.phase id).working := fun security => by
            rw [stage] at security
            cases security
          exact exclusive_append (exclusive_update exclusive known) qa_started
  | failed id reply calls reread e executing why =>
      refine exclusive_update exclusive fun _ _ => ?_
      rw [executing]
      trivial
  | completed id calls reread result row after executing inScope ready matching wrote =>
      show Exclusive runs (Function.update w.phase id _) after.audits
      have idle := resultPhase_idle (runs.run id).stage result reread
      cases stage : (runs.run id).stage with
      | security =>
          have claims : Claims runs .security w.phase id := ⟨stage, executing ▸ trivial⟩
          rw [stage] at idle
          exact exclusive_ended exclusive claims idle _
      | qa =>
          rw [wrote.audits, stage]
          rw [stage] at idle
          exact exclusive_append (exclusive_update exclusive fun _ working =>
            absurd working idle) qa_terminal
  | abandoned id calls code completed e fails why =>
      exact exclusive_update exclusive fun _ working => working.elim
  | escalated id calls code completed row after fails clear ready matching wrote =>
      show Exclusive runs (Function.update w.phase id _) after.audits
      cases completed with
      | true =>
          rw [unread_unmatched told fails] at matching
          cases matching
      | false =>
          cases stage : (runs.run id).stage with
          | security =>
              have claims : Claims runs .security w.phase id := ⟨stage, fails ▸ trivial⟩
              exact exclusive_ended exclusive claims (ended_idle _) _
          | qa =>
              rw [wrote.audits, stage]
              exact exclusive_append (exclusive_update exclusive fun _ working =>
                working.elim) qa_terminal

/-- A start of the QA stage that is attempted while a run of the stage is at work repeats one that
was recorded. -/
def Repeats (runs : StageRuns task) (w : StageWorld) (action : StageAction) : Prop :=
  ∀ id preflight calls, action = .begin id preflight calls → (runs.run id).stage = .qa →
    (∃ other, Claims runs .qa w.phase other) →
      hasQaEvent w.db.audits (runs.run id).scope (.started .qa) = true

theorem repeats_free {preflight : Option StageErrorCode} {calls : Calls}
    (repeats : Repeats runs w (.begin id preflight calls)) (own : (runs.run id).stage = .qa)
    (admitted : startRefused w.db.audits (runs.run id).scope .qa = false) (other : Nat) :
    ¬ Claims runs .qa w.phase other := by
  intro claims
  have recorded : startRefused w.db.audits (runs.run id).scope .qa = true :=
    repeats id preflight calls rfl own ⟨other, claims⟩
  rw [recorded] at admitted
  cases admitted

theorem single_moves {action : StageAction} (single : Single runs .qa w.phase)
    (repeats : Repeats runs w action) (moves : StageMoves runs w action t) :
    Single runs .qa t.phase := by
  cases moves with
  | other row events plain held => exact single
  | refused id preflight calls e idle => exact single_update single fun _ working => working.elim
  | begun id preflight calls row after idle ready admitted wrote =>
      cases stage : (runs.run id).stage with
      | qa =>
          rw [stage] at admitted
          exact single_started (repeats_free repeats stage admitted)
      | security =>
          refine single_update single fun own _ => ?_
          rw [stage] at own
          cases own
  | failed id reply calls reread e executing why =>
      refine single_update single fun _ _ => ?_
      rw [executing]
      trivial
  | completed id calls reread result row after executing inScope ready matching wrote =>
      exact single_update single fun _ working => absurd working (resultPhase_idle _ _ _)
  | abandoned id calls code completed e fails why => exact single_update single fun _ working =>
      working.elim
  | escalated id calls code completed row after fails clear ready matching wrote =>
      exact single_update single fun _ working => working.elim

theorem claimed_refuses {preflight : Option StageErrorCode} {calls : Calls}
    (exclusive : Exclusive runs w.phase w.db.audits)
    (repeats : Repeats runs w (.begin other preflight calls))
    (claims : Claims runs stage w.phase id) (own : (runs.run other).stage = stage)
    (moves : StageMoves runs w (.begin other preflight calls) t) :
    t.db = w.db ∧ ∃ e, t.phase other = .ended (.raised e) := by
  cases moves with
  | refused other preflight calls e idle => exact ⟨rfl, e, stage_set_same ..⟩
  | begun other preflight calls row after idle ready admitted wrote =>
      rw [own] at admitted
      cases stage with
      | security => exact absurd claims (admitted_free exclusive admitted id)
      | qa => exact absurd claims (repeats_free repeats own admitted id)

variable {db : Database}

theorem exclusive_opening (db : Database) : Exclusive runs (opening db).phase
    (opening db).db.audits := by
  have free : ∀ id, ¬ Claims runs .security (opening db).phase id := fun _ claims => claims.2
  exact ⟨fun id claims => absurd claims (free id), fun id _ claims => absurd claims (free id)⟩

theorem reaches_exclusive {ok : StageWorld → StageAction → Prop}
    (held : (db.tasks.get task).isSome = true)
    (run : Reaches (stageStep runs) ok (opening db) w) : Exclusive runs w.phase w.db.audits := by
  refine run.invariant_under (Told runs (fun _ => False) db.audits)
    (fun w => Exclusive runs w.phase w.db.audits) (told_opening _ held) (exclusive_opening db) ?_ ?_
  · intro u action v told _ taken
    exact told_moves told (stageStep_moves taken) fun _ _ _ fails => fails.elim
  · intro u action v told exclusive _ taken
    exact exclusive_moves told exclusive (stageStep_moves taken)

/-- One run of each stage at most is at work, and no other can start meanwhile. -/
theorem one_claim_each (held : (db.tasks.get task).isSome = true)
    (run : Reaches (stageStep runs) (Repeats runs) (opening db) w) (stage : Stage) :
    (∀ id other, Claims runs stage w.phase id → Claims runs stage w.phase other → id = other) ∧
      ∀ id other preflight calls t, Claims runs stage w.phase id → (runs.run other).stage = stage →
        Repeats runs w (.begin other preflight calls) →
          stageStep runs w (.begin other preflight calls) = some t →
            t.db = w.db ∧ ∃ e, t.phase other = .ended (.raised e) := by
  have exclusive := reaches_exclusive held run
  constructor
  · cases stage with
    | security => exact exclusive.single
    | qa =>
        refine run.invariant (fun w => Single runs .qa w.phase)
          (fun _ _ claims => absurd claims.2 id) ?_
        intro u action v single repeats taken
        exact single_moves single repeats (stageStep_moves taken)
  · intro id other preflight calls t claims own repeats taken
    exact claimed_refuses exclusive repeats claims own (stageStep_moves taken)

end Exclusive

section Sample

theorem sample_claims (stage : Stage) {w : StageWorld}
    (phase : w.phase = Function.update (fun _ => .idle) 0 .executing) :
    Claims (sampleRuns stage) stage w.phase 0 := by
  refine ⟨rfl, ?_⟩
  rw [phase, Function.update_self]
  trivial

theorem begin_steps {runs : StageRuns 1} {w : StageWorld} {id : Nat} (idle : w.phase id = .idle) :
    ∃ t, stageStep runs w (.begin id none sampleCalls) = some t := by
  simp only [stageStep, idle]
  split
  · exact ⟨_, rfl⟩
  · exact ⟨_, rfl⟩

def repeatedRuns : StageRuns 1 where
  run _ := ⟨.qa, sampleScope 0⟩
  own _ := rfl

/-- A second run of the Security stage finds the task claimed, and a QA run that is delivered twice
is started once. -/
theorem one_claim_each_sample :
    (∃ w t : StageWorld, Claims (sampleRuns .security) .security w.phase 0 ∧
      stageStep (sampleRuns .security) w (.begin 1 none sampleCalls) = some t ∧ t.db = w.db) ∧
    ∃ w t : StageWorld, Claims repeatedRuns .qa w.phase 0 ∧
      stageStep repeatedRuns w (.begin 1 none sampleCalls) = some t ∧ t.db = w.db ∧
        ∃ e, t.phase 1 = .ended (.raised e) := by
  constructor
  · obtain ⟨w, begun, phase, _⟩ := sample_begun .security
    have repeats (u : StageWorld) (action : StageAction) : Repeats
        (sampleRuns .security) u action := by
      intro _ _ _ _ qa
      cases qa
    have run : Reaches (stageStep (sampleRuns .security)) (Repeats (sampleRuns .security))
        (opening (sampleBase .waitingSecurity)) w := .tail .refl (repeats _ _) begun
    have idle : w.phase 1 = .idle := by
      rw [phase]
      exact Function.update_of_ne (by decide) _ _
    obtain ⟨t, taken⟩ := @begin_steps (sampleRuns .security) w 1 idle
    have claims := sample_claims .security phase
    have refused := (one_claim_each rfl run .security).2 0 1 none sampleCalls t claims rfl
      (repeats _ _) taken
    exact ⟨w, t, claims, taken, refused.1⟩
  · have ready : Ready .qa (sampleScope 0) (sampleBase .waitingQa) (sampleRow .waitingQa) :=
      ⟨rfl, rfl, rfl⟩
    obtain ⟨w, begun, phase, _, wrote⟩ :=
      @begin_works 1 repeatedRuns (opening (sampleBase .waitingQa)) 0
      sampleCalls (sampleRow .waitingQa) sampleCalls_quiet rfl ready rfl
    have first : Repeats repeatedRuns (opening (sampleBase .waitingQa))
        (.begin 0 none sampleCalls) := by
      rintro _ _ _ _ _ ⟨other, claims⟩
      exact claims.2.elim
    have second : Repeats repeatedRuns w (.begin 1 none sampleCalls) := by
      intro id preflight calls _ _ _
      rw [wrote.audits]
      show hasQaEvent [startedEvent .qa (sampleScope 0) (sampleRow .waitingQa)] (sampleScope 0)
        (.started .qa) = true
      decide
    have run : Reaches (stageStep repeatedRuns) (Repeats repeatedRuns)
        (opening (sampleBase .waitingQa)) w :=
      .tail .refl first begun
    have idle : w.phase 1 = .idle := by
      rw [phase]
      exact Function.update_of_ne (by decide) _ _
    obtain ⟨t, taken⟩ := @begin_steps repeatedRuns w 1 idle
    have claims : Claims repeatedRuns .qa w.phase 0 := by
      refine ⟨rfl, ?_⟩
      rw [phase, Function.update_self]
      trivial
    obtain ⟨kept, ends⟩ :=
      (one_claim_each rfl run .qa).2 0 1 none sampleCalls t claims rfl second taken
    exact ⟨w, t, claims, taken, kept, ends⟩

/-- Two runs of the QA stage with different correlations are at work at once. -/
theorem two_qa_claims : ∃ w, Reaches (stageStep (sampleRuns .qa)) (fun _ _ => True)
    (opening (sampleBase .waitingQa)) w ∧ Claims (sampleRuns .qa) .qa w.phase 0 ∧
      Claims (sampleRuns .qa) .qa w.phase 1 := by
  obtain ⟨w, begun, phase, _, held, audits, _⟩ := sample_begun .qa
  have idle : w.phase 1 = .idle := by
    rw [phase]
    exact Function.update_of_ne (by decide) _ _
  have ready : Ready .qa (sampleScope 1) w.db (sampleRow .waitingQa) := ⟨held, rfl, rfl⟩
  have admitted : startRefused w.db.audits (sampleScope 1) .qa = false := by
    rw [audits]
    decide
  obtain ⟨t, taken, after, _⟩ := begin_works (sampleRuns .qa) sampleCalls_quiet idle ready admitted
  refine ⟨t, .tail (.tail .refl trivial begun) trivial taken, ⟨rfl, ?_⟩, ⟨rfl, ?_⟩⟩
  · rw [after, Function.update_of_ne (by decide), phase, Function.update_self]
    trivial
  · rw [after, Function.update_self]
    trivial

end Sample

end SynapseOS.Workflows
