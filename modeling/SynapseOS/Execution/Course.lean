import SynapseOS.Execution.Exits

/-! The course of a call: what comes before its tool, and whether a handler names what was
raised. -/

namespace SynapseOS.Execution

open Tools Permissions

def Event.early : Event → Bool
  | .begun _ _ | .requested _ | .permission _ | .evaluated _ | .parsed _ _ | .toolStarted _ _
  | .toolEnded _ => true
  | .interrupted | .finished _ _ _ | .committed _ _ | .rolledBack _ _ => false

def Event.prior : Event → Bool
  | .begun _ _ | .requested _ | .permission _ | .evaluated _ | .parsed _ _ => true
  | .toolStarted _ _ | .toolEnded _ | .interrupted | .finished _ _ _ | .committed _ _
  | .rolledBack _ _ => false

def Event.unexpected : Event → Bool
  | .evaluated (.error (.permission _)) => false
  | .evaluated (.error _) => true
  | .parsed _ (.error e) => !e.malformed
  | .toolEnded (.error e) => !(e.ordinary || decide (e = .cancelled))
  | .begun _ _ | .requested _ | .permission _ | .evaluated (.ok _) | .parsed _ (.ok _)
  | .toolStarted _ _ | .toolEnded (.ok _) | .interrupted | .finished _ _ _ | .committed _ _
  | .rolledBack _ _ => false

section Early

variable {t rest : Trace}

def Early (t : Trace) : Prop := ∀ event ∈ t, event.early = true

def Prior (t : Trace) : Prop := ∀ event ∈ t, event.prior = true

theorem early_of_prior (prior : Prior t) : Early t := by
  intro event member
  have first := prior event member
  cases event <;> simp_all [Event.prior, Event.early]

theorem mem_early (early : Early t) {event : Event} (late : event.early = false) :
    event ∈ t ++ rest ↔ event ∈ rest := by
  constructor
  · intro member
    rcases List.mem_append.mp member with before | after
    · rw [early event before] at late
      cases late
    · exact after
  · exact List.mem_append_right _

theorem interrupted_early (early : Early t) :
    .interrupted ∈ t ++ rest ↔ .interrupted ∈ rest := mem_early early rfl

theorem early_append (first : Early t) (second : Early rest) : Early (t ++ rest) := by
  intro event member
  rcases List.mem_append.mp member with before | after
  · exact first event before
  · exact second event after

def Calm (t : Trace) : Prop := ∀ event ∈ t, event.unexpected = false

theorem not_early_mem {event : Event} (late : ∀ event ∈ rest, event.early = false)
    (soon : event.early = true) : event ∉ rest := by
  intro member
  rw [late event member] at soon
  cases soon

theorem calm_append : Calm (t ++ rest) ↔ Calm t ∧ Calm rest :=
  List.forall_mem_append

theorem calm_single (event : Event) : Calm [event] ↔ event.unexpected = false :=
  List.forall_mem_singleton

theorem prior_append (first : Prior t) (second : Prior rest) : Prior (t ++ rest) := by
  intro event member
  rcases List.mem_append.mp member with before | after
  · exact first event before
  · exact second event after

end Early

def Later (t v : Trace) : Prop := ∃ rest, v = t ++ rest ∧ ∀ event ∈ rest, event.early = false

section Later

variable {env : Collaborators} {handle : ToolAuditHandle} {t u v : Trace}
  {final : Except PyExn ToolResult}

theorem later_refl (t : Trace) : Later t t :=
  ⟨[], (List.append_nil t).symm, fun _ member => nomatch member⟩

theorem later_log (later : Later t u) (event : Event) (late : event.early = false) :
    Later t (u ++ [event]) := by
  obtain ⟨rest, rfl, after⟩ := later
  refine ⟨rest ++ [event], List.append_assoc _ _ _, ?_⟩
  intro other member
  rcases List.mem_append.mp member with before | last
  · exact after other before
  · rw [List.mem_singleton.mp last]
    exact late

theorem later_resolution (later : Later t u) (note : Nat → Option PyExn → Event)
    (late : ∀ pending raised, (note pending raised).early = false) (transaction : Option Nat) :
    Later t (u ++ resolution note transaction) := by
  cases transaction with
  | none =>
      rw [resolution, Option.toList_none, List.map_nil, List.append_nil]
      exact later
  | some pending => exact later_log later _ (late pending none)

theorem refused_later {failure : Failure} (later : Later t u)
    (refused : Refused handle failure u final v) : Later t v := by
  cases refused with
  | returned | untold => exact later_log later _ rfl

theorem withdrawn_later {e : PyExn} (later : Later t u)
    (withdrawn : Withdrawn handle u e final v) : Later t v := by
  cases withdrawn with
  | raised | untold => exact later_log later _ rfl

theorem halted_later {raw : RawValue} {e : PyExn} (halted : Halted env raw t e u) :
    Later t u := by
  cases halted with
  | interrupted => exact later_log (later_refl t) _ rfl
  | rejected => exact later_refl t

theorem told_later {finish : ToolAuditFinish} {outcome : Except PyExn Unit}
    (told : Told handle finish t outcome u) : Later t u := by
  cases told with
  | accepted | refused => exact later_log (later_refl t) _ rfl

theorem settled_later {raw : RawOutput} (settled : Settled env handle raw t final v) :
    Later t v := by
  have back (u : Trace) (later : Later t u) :
      Later t (u ++ resolution .rolledBack (unwrapOutput raw).2) :=
    later_resolution later .rolledBack (fun _ _ => rfl) _
  cases settled with
  | escaped halted => exact halted_later halted
  | unrestored halted => exact later_log (halted_later halted) _ rfl
  | withdrawn halted _ withdrawn => exact withdrawn_later (back _ (halted_later halted)) withdrawn
  | refused halted _ refused => exact refused_later (back _ (halted_later halted)) refused
  | excessive => exact later_refl t
  | told _ _ _ _ finish _ told concluded =>
      have after := told_later told
      cases concluded with
      | returned => exact later_resolution after .committed (fun _ _ => rfl) _
      | uncommitted | unrestored => exact later_log after _ rfl
      | restored => exact back _ after
      | escaped => exact after

theorem ran_later {outcome : Except PyExn RawOutput} (ran : Ran env handle t outcome final v) :
    Later t v := by
  cases ran with
  | settled settled => exact settled_later settled
  | refused _ refused => exact refused_later (later_refl t) refused
  | withdrawn withdrawn => exact withdrawn_later (later_refl t) withdrawn
  | escaped => exact later_refl t

end Later

def Begins (handle : ToolAuditHandle) (t : Trace) : Prop :=
  ∀ start answer, .begun start answer ∈ t → answer = .ok handle

theorem begins_append {handle : ToolAuditHandle} {t rest : Trace} (first : Begins handle t)
    (second : Begins handle rest) : Begins handle (t ++ rest) := by
  intro start answer member
  rcases List.mem_append.mp member with before | after
  · exact first start answer before
  · exact second start answer after

theorem begins_single {handle : ToolAuditHandle} {event : Event}
    (other : ∀ start answer, event ≠ .begun start answer) : Begins handle [event] :=
  fun start answer member => absurd (List.mem_singleton.mp member).symm (other start answer)

section Anatomy

variable {env : Collaborators} {handle : ToolAuditHandle} {tool : Tool} {name : Identifier}
  {arguments : Fields} {submitted : Option ToolExecutionContext} {t u v : Trace}
  {final : Except PyExn ToolResult}

theorem begun_prior (start : ToolAuditStart) (handle : ToolAuditHandle) :
    Prior [.begun start (.ok handle)] := by
  intro event member
  rw [List.mem_singleton.mp member]
  rfl

theorem begun_calm (start : ToolAuditStart) (handle : ToolAuditHandle) :
    Calm [.begun start (.ok handle)] :=
  (calm_single _).mpr rfl

theorem asked_prior {request : PermissionRequest} {outcome : Except PyExn PermissionDecision}
    (asked : Asked env request t (.ok outcome) u) (prior : Prior t) : Prior u := by
  cases asked with
  | evaluated s _ noted =>
      refine prior_append (prior_append (prior_append prior ?_) ?_) ?_
      · intro event member
        rw [List.mem_singleton.mp member]
        rfl
      · intro event member
        obtain ⟨note, _, rfl⟩ := List.mem_map.mp member
        rfl
      · intro event member
        rw [List.mem_singleton.mp member]
        rfl

theorem asked_calm {request : PermissionRequest} {outcome : Except PyExn PermissionDecision}
    (asked : Asked env request t (.ok outcome) u) (calm : Calm t) :
    Calm u ↔ Event.unexpected (.evaluated outcome) = false := by
  cases asked with
  | evaluated s _ noted =>
      have notes : Calm (noted.map .permission) := by
        intro event member
        obtain ⟨note, _, rfl⟩ := List.mem_map.mp member
        rfl
      have requested : Calm [.requested request] := (calm_single _).mpr rfl
      rw [calm_append, calm_append, calm_append]
      constructor
      · exact fun held => (calm_single _).mp held.2
      · exact fun expected => ⟨⟨⟨calm, requested⟩, notes⟩, (calm_single _).mpr expected⟩

theorem begun_begins (start : ToolAuditStart) (handle : ToolAuditHandle) :
    Begins handle [.begun start (.ok handle)] := by
  intro _ answer member
  exact (Event.begun.inj (List.mem_singleton.mp member)).2

theorem asked_begins {request : PermissionRequest} {outcome : Except PyExn PermissionDecision}
    (asked : Asked env request t (.ok outcome) u) (begins : Begins handle t) :
    Begins handle u := by
  cases asked with
  | evaluated s _ noted =>
      have notes : Begins handle (noted.map .permission) := by
        intro start answer member
        obtain ⟨note, _, same⟩ := List.mem_map.mp member
        cases same
      exact begins_append (begins_append (begins_append begins
        (begins_single fun _ _ same => nomatch same)) notes)
          (begins_single fun _ _ same => nomatch same)

theorem parsed_prior (prior : Prior t) (parsed : Except PyExn Input) :
    Prior (t ++ [.parsed arguments parsed]) := by
  apply prior_append prior
  intro event member
  rw [List.mem_singleton.mp member]
  rfl

/-- How a call ends that got past the beginning of its audit: refused before the tool was started,
raising what no handler names, or after the tool was started. -/
inductive Course (env : Collaborators) (handle : ToolAuditHandle) :
    Except PyExn ToolResult → Trace → Prop
  | refused {failure : Failure} {t : Trace} {final : Except PyExn ToolResult} {v : Trace}
      (prior : Prior t) (begins : Begins handle t) (calm : Calm t)
      (refused : Refused handle failure t final v) :
      Course env handle final v
  | escaped (e : PyExn) {t : Trace} (prior : Prior t) (begins : Begins handle t)
      (unexpected : ¬ Calm t) :
      Course env handle (.error e) t
  | started {name : Identifier} {input : Input} {t : Trace} {final : Except PyExn ToolResult}
      {v : Trace} (prior : Prior t) (begins : Begins handle t) (calm : Calm t)
      (started : Started env handle name input t final v) : Course env handle final v

inductive Audited (env : Collaborators) : Except PyExn ToolResult → Trace → Prop
  | rejected (e : PyExn) : Audited env (.error e) []
  | unaudited (start : ToolAuditStart) (raised e : PyExn) :
      Audited env (.error e) [.begun start (.error raised)]
  | audited (handle : ToolAuditHandle) {final : Except PyExn ToolResult} {v : Trace}
      (course : Course env handle final v) : Audited env final v

theorem unexpected_evaluated {outcome : Except PyExn PermissionDecision} :
    Event.unexpected (.evaluated outcome) = false ↔
      ∀ e, outcome = .error e → ∃ kind, e = .permission kind := by
  cases outcome with
  | ok decision => exact ⟨fun _ _ same => (nomatch same), fun _ => rfl⟩
  | error e =>
      cases e with
      | permission kind =>
          exact ⟨fun _ _ same => ⟨kind, (Except.error.inj same).symm⟩, fun _ => rfl⟩
      | tool | typeError | valueError | recursionError | timeoutError | otherError | cancelled
      | expired | fatal =>
          refine ⟨fun other => (nomatch other), fun named => ?_⟩
          obtain ⟨kind, same⟩ := named _ rfl
          cases same

theorem exit_audited {request : Except PyExn (Identifier × Fields)}
    (exit : Exit env request submitted final v) : Audited env final v := by
  cases exit with
  | rejected e => exact .rejected e
  | unaudited start raised e => exact .unaudited start raised e
  | refused start handle refused =>
      exact .audited handle (.refused (begun_prior start handle) (begun_begins start handle)
        (begun_calm start handle) refused)
  | asked start handle tool name context arguments valid same registered declared asked admitted =>
      have prior := asked_prior asked (begun_prior start handle)
      have begins := asked_begins asked (begun_begins start handle)
      have calm := (asked_calm asked (begun_calm start handle)).trans unexpected_evaluated
      apply Audited.audited handle
      cases admitted with
      | refused expected refused => exact .refused prior begins (calm.mpr expected) refused
      | escaped e other =>
          refine .escaped e prior begins fun held => ?_
          obtain ⟨kind, named⟩ := calm.mp held e rfl
          exact other kind named
      | invoked _ invoked =>
          have before := calm.mpr fun e failed => nomatch failed
          have parsed (answer : Except PyExn Input) :
              Begins handle [.parsed arguments answer] :=
            begins_single fun _ _ same => nomatch same
          cases invoked with
          | started _ started =>
              refine .started (parsed_prior prior _) (begins_append begins (parsed _))
                (calm_append.mpr ⟨before, ?_⟩) started
              exact (calm_single _).mpr rfl
          | refused malformed refused =>
              refine .refused (parsed_prior prior _) (begins_append begins (parsed _))
                (calm_append.mpr ⟨before, ?_⟩) refused
              rw [calm_single, Event.unexpected, malformed]
              rfl
          | escaped e other =>
              refine .escaped e (parsed_prior prior _) (begins_append begins (parsed _))
                fun held => ?_
              have expected := (calm_single _).mp (calm_append.mp held).2
              rw [Event.unexpected, other] at expected
              cases expected

theorem execute_exit (env : Collaborators) (toolName : PyValue) (arguments : RawValue)
    (submitted : Option ToolExecutionContext) :
    Exit env (validateRequest toolName arguments) submitted
      (execute env toolName arguments submitted {}).1
      (execute env toolName arguments submitted {}).2.trace := by
  have ran := Program.triple_outcome (execute_ending env toolName arguments submitted)
    (show On [] {} from rfl)
  revert ran
  cases (execute env toolName arguments submitted {}).1 with
  | error e => exact id
  | ok result => exact id

theorem execute_audited (env : Collaborators) (toolName : PyValue) (arguments : RawValue)
    (submitted : Option ToolExecutionContext) :
    Audited env (execute env toolName arguments submitted {}).1
      (execute env toolName arguments submitted {}).2.trace :=
  exit_audited (execute_exit env toolName arguments submitted)

end Anatomy

end SynapseOS.Execution
