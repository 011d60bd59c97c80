import SynapseOS.Execution.Course
import SynapseOS.Execution.Sample
import SynapseOS.Lib.Trace

/-! A tool runs once at most, and only for a call that was admitted. -/

namespace SynapseOS.Execution

open Tools Permissions

def Event.starts : Event → Bool
  | .toolStarted _ _ => true
  | .begun _ _ | .requested _ | .permission _ | .evaluated _ | .parsed _ _ | .toolEnded _
  | .interrupted | .finished _ _ _ | .committed _ _ | .rolledBack _ _ => false

structure Scoped (tool : Tool) (name : Identifier) (context : ToolExecutionContext)
    (asked : PermissionRequest) : Prop where
  permissions : ∀ id, id ∈ asked.requiredPermissionIds.members ↔
    ∃ permission ∈ tool.requiredPermissions.members, permission.identifier = id
  riskLevel : asked.riskLevel = tool.riskLevel
  toolName : asked.toolName = name
  agent : asked.agentId = context.agentId
  agentRun : asked.agentRunId = context.agentRunId
  project : asked.projectId = context.projectId
  task : asked.taskId = context.taskId
  correlation : asked.correlationId = context.correlationId

/-- The trace of a call up to the start of its tool: the request for exactly the permissions of the
tool in the scope of the context was evaluated to ALLOW, that decision was recorded, and the
arguments were parsed. -/
structure Granted (env : Collaborators) (request : Except PyExn (Identifier × Fields))
    (submitted : Option ToolExecutionContext) (name : Identifier) (input : Input) (tool : Tool)
    (context : ToolExecutionContext) (arguments : Fields) (asked : PermissionRequest)
    (decision : PermissionDecision) (noted : List PermissionEvent) (start : ToolAuditStart)
    (handle : ToolAuditHandle) (before : Trace) : Prop where
  shape : before = [.begun start (.ok handle)] ++ [.requested asked] ++ noted.map .permission ++
    [.evaluated (.ok decision)] ++ [.parsed arguments (.ok input)]
  scope : Scoped tool name context asked
  valid : request = .ok (name, arguments)
  given : submitted = some context
  registered : env.registry.get name = some tool
  declared : name ∈ context.declaredToolIds
  allowed : decision.outcome = .allow
  recorded : .recorded decision none ∈ noted
  parsed : tool.parse arguments = .ok input

def Admits (env : Collaborators) (request : Except PyExn (Identifier × Fields))
    (submitted : Option ToolExecutionContext) (trace : Trace) : Prop :=
  (trace.filter Event.starts).length ≤ 1 ∧
  ∀ before name input after, trace = before ++ .toolStarted name input :: after →
    ∃ tool context arguments asked decision noted start handle,
      Granted env request submitted name input tool context arguments asked decision noted start
        handle before

theorem permissionRequest_scoped (tool : Tool) (name : Identifier)
    (context : ToolExecutionContext) :
    Scoped tool name context (permissionRequest tool name context) := by
  refine ⟨?_, rfl, rfl, rfl, rfl, rfl, rfl, rfl⟩
  intro id
  exact List.mem_map

section Admission

variable {env : Collaborators} {request : Except PyExn (Identifier × Fields)}
  {submitted : Option ToolExecutionContext} {t v : Trace} {final : Except PyExn ToolResult}

/-- An evaluation that allows was recorded. -/
theorem evaluation_recorded {s : World} {asked : Option PermissionRequest}
    {decision : PermissionDecision} {noted : List PermissionEvent}
    (evaluation : env.engine.Evaluation s asked (.ok decision) noted)
    (allowed : decision.outcome = .allow) : .recorded decision none ∈ noted := by
  cases evaluation with
  | unknown request evaluatedAt => cases allowed
  | consulted request permissions nonempty evaluatedAt parsed consultation =>
      cases consultation with
      | decided fields decision answered validated within =>
          exact List.mem_cons_of_mem _ List.mem_cons_self

theorem admits_quiet (quiet : ∀ event ∈ v, event.starts = false) :
    Admits env request submitted v := by
  constructor
  · have none_ : v.filter Event.starts = [] := by
      apply List.filter_eq_nil_iff.mpr
      intro event member starts
      rw [quiet event member] at starts
      cases starts
    rw [none_]
    exact Nat.zero_le 1
  · rintro before name input after rfl
    exact nomatch quiet _ (List.mem_append_right _ List.mem_cons_self)

theorem prior_quiet (prior : Prior t) : ∀ event ∈ t, event.starts = false := by
  intro event member
  have soon := prior event member
  cases event <;> simp_all [Event.prior, Event.starts]

theorem late_quiet {rest : Trace} (late : ∀ event ∈ rest, event.early = false) :
    ∀ event ∈ rest, event.starts = false := by
  intro event member
  have last := late event member
  cases event <;> simp_all [Event.early, Event.starts]

theorem refused_quiet {handle : ToolAuditHandle} {failure : Failure} (prior : Prior t)
    (refused : Refused handle failure t final v) : ∀ event ∈ v, event.starts = false := by
  obtain ⟨rest, rfl, late⟩ := refused_later (later_refl t) refused
  exact List.forall_mem_append.mpr ⟨prior_quiet prior, late_quiet late⟩

theorem started_admits {handle : ToolAuditHandle} {name : Identifier} {input : Input}
    (prior : Prior t) (started : Started env handle name input t final v)
    (granted : ∃ tool context arguments asked decision noted start handle,
      Granted env request submitted name input tool context arguments asked decision noted start
        handle t) : Admits env request submitted v := by
  cases started with
  | ran outcome ran =>
      obtain ⟨rest, rfl, late⟩ := ran_later ran
      have before := prior_quiet prior
      have after : ∀ event ∈ .toolEnded outcome :: rest, event.starts = false :=
        List.forall_mem_cons.mpr ⟨rfl, late_quiet late⟩
      have shape : t ++ [.toolStarted name input] ++ [.toolEnded outcome] ++ rest =
          t ++ .toolStarted name input :: (.toolEnded outcome :: rest) := by
        simp only [List.append_assoc, List.cons_append, List.nil_append]
      rw [shape]
      constructor
      · rw [List.filter_append, List.filter_eq_nil_iff.mpr fun event member => by
          rw [before event member]
          exact Bool.false_ne_true]
        rw [List.nil_append, List.filter_cons_of_pos rfl, List.filter_eq_nil_iff.mpr
          fun event member => by
            rw [after event member]
            exact Bool.false_ne_true]
        exact Nat.le_refl 1
      · intro front other received back split
        have quiet (x : Event) (no : x.starts = false) : ¬ x.starts = true := by
          rw [no]
          exact Bool.false_ne_true
        obtain ⟨rfl, same, rfl⟩ := split_unique (p := fun event => event.starts = true)
          (fun x member => quiet x (before x member)) (fun x member => quiet x (after x member))
          split rfl
        obtain ⟨rfl, rfl⟩ := Event.toolStarted.inj same
        exact granted

theorem exit_admits (exit : Exit env request submitted final v) :
    Admits env request submitted v := by
  cases exit with
  | rejected e => exact admits_quiet fun event member => nomatch member
  | unaudited start raised e =>
      exact admits_quiet (List.forall_mem_singleton.mpr rfl)
  | refused start handle refused =>
      exact admits_quiet (refused_quiet (begun_prior start handle) refused)
  | asked start handle tool name context arguments valid same registered declared asked admitted =>
      have prior := asked_prior asked (begun_prior start handle)
      cases admitted with
      | refused _ refused => exact admits_quiet (refused_quiet prior refused)
      | escaped e _ => exact admits_quiet (prior_quiet prior)
      | invoked allowed invoked =>
          have further (answer : Except PyExn Input) : Prior (_ ++ [.parsed arguments answer]) :=
            parsed_prior prior answer
          cases invoked with
          | refused _ refused => exact admits_quiet (refused_quiet (further _) refused)
          | escaped e _ => exact admits_quiet (prior_quiet (further _))
          | started parsed started =>
              apply started_admits (further _) started
              cases asked with
              | evaluated s _ noted evaluation =>
                  exact ⟨tool, context, arguments, _, _, noted, start, handle, rfl,
                    permissionRequest_scoped tool name context, valid, same, registered, declared,
                    allowed, evaluation_recorded evaluation allowed, parsed⟩

/-- An engine that answers ALLOW was told ALLOW by its policy, for this request. -/
theorem evaluation_answered {σ : Type} {engine : PermissionEngine σ} {s : σ}
    {asked : Option PermissionRequest} {decision : PermissionDecision}
    {noted : List PermissionEvent}
    (evaluation : engine.Evaluation s asked (.ok decision) noted)
    (allowed : decision.outcome = .allow) :
    ∃ request permissions nonempty evaluatedAt fields, asked = some request ∧
      PermissionEngine.parsePermissions request.requiredPermissionIds.members =
        some permissions ∧
      engine.policy s (.fromRequest request permissions.toFinset nonempty) evaluatedAt =
        .ok (.decision fields) ∧ fields.outcome = .allow := by
  cases evaluation with
  | unknown request evaluatedAt => cases allowed
  | consulted request permissions nonempty evaluatedAt parsed consultation =>
      cases consultation with
      | decided fields decision answered validated within =>
          refine ⟨request, permissions, nonempty, evaluatedAt, fields, rfl, parsed, answered, ?_⟩
          rw [← validate_outcome validated]
          exact allowed

end Admission

/-- A call runs its tool at most once and only as granted, and the engine never allows what its
policy did not allow. -/
theorem tool_admitted :
    (∀ (env : Collaborators) (toolName : PyValue) (arguments : RawValue)
      (context : Option ToolExecutionContext),
      Admits env (validateRequest toolName arguments) context
        (execute env toolName arguments context {}).2.trace) ∧
    (∀ (σ : Type) (engine : PermissionEngine σ) (submitted : Option PermissionRequest) (s : σ)
      (decision : PermissionDecision), (engine.evaluate submitted s).1 = .ok decision →
      decision.outcome = .allow →
      ∃ request permissions nonempty evaluatedAt fields, submitted = some request ∧
        PermissionEngine.parsePermissions request.requiredPermissionIds.members =
          some permissions ∧
        engine.policy s (.fromRequest request permissions.toFinset nonempty) evaluatedAt =
          .ok (.decision fields) ∧ fields.outcome = .allow) := by
  constructor
  · exact fun env toolName arguments context =>
      exit_admits (execute_exit env toolName arguments context)
  · intro σ engine submitted s decision returned allowed
    have ran := Program.triple_outcome (engine.evaluate_triple submitted s) rfl
    rw [returned] at ran
    obtain ⟨noted, _, evaluation⟩ := ran
    exact evaluation_answered evaluation allowed

def allows : Except PyExn PermissionDecision → Bool
  | .ok decision => decide (decision.outcome = .allow)
  | .error _ => false

theorem allows_ok {outcome : Except PyExn PermissionDecision} (allowed : allows outcome = true) :
    ∃ decision, outcome = .ok decision ∧ decision.outcome = .allow := by
  cases outcome with
  | error e => cases allowed
  | ok decision => exact ⟨decision, rfl, of_decide_eq_true allowed⟩

def admittedTool : Tool := sampleTool (.plain .foreign)

theorem tool_admitted_sample :
    (sampleCall (sampleEnv admittedTool)).2.trace.any Event.starts = true ∧
      ∃ request evaluatedAt fields,
        (sampleEnv admittedTool).engine.policy {} request evaluatedAt = .ok (.decision fields) ∧
          fields.outcome = .allow := by
  refine ⟨by decide +kernel, ?_⟩
  have allowed : allows ((sampleEnv admittedTool).engine.evaluate
      (some (permissionRequest admittedTool sampleName sampleContext)) {}).1 = true := by
    decide +kernel
  obtain ⟨decision, returned, granted⟩ := allows_ok allowed
  obtain ⟨_, _, _, evaluatedAt, fields, _, _, answered, told⟩ :=
    tool_admitted.2 World _ _ {} decision returned granted
  exact ⟨_, evaluatedAt, fields, answered, told⟩

end SynapseOS.Execution
