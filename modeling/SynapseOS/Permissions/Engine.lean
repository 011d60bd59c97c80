import SynapseOS.Lib.Program
import SynapseOS.Permissions.Types

/-! Deny-by-default evaluation of permissions (`core/permissions/engine.py`). -/

namespace SynapseOS.Permissions

open Tools Program

inductive PermissionEvent
  /-- `policy.evaluate` was called and answered or raised. -/
  | consulted (request : PolicyRequest) (answer : Except PyExn PolicyAnswer)
  /-- `audit_recorder.record` was called; `raised` is what it raised. -/
  | recorded (decision : PermissionDecision) (raised : Option PyExn)

/-- The collaborators answer as functions of the state, in which the events are noted. -/
structure PermissionEngine (σ : Type) where
  /-- The clock; a naive time is `none`. -/
  clock : σ → Except PyExn (Option ℚ)
  policy : σ → PolicyRequest → ℚ → Except PyExn PolicyAnswer
  record : σ → PermissionDecision → Option PyExn
  note : PermissionEvent → σ → σ

namespace PermissionEngine

variable {σ : Type} (engine : PermissionEngine σ)

def evaluatedAt : Program σ PyExn ℚ := do
  let s ← look
  match engine.clock s with
  | .ok (some instant) => pure instant
  | .ok none => raise (.permission .input)
  | .error e => raise (sanitize e (.permission .input))

def recordDecision (decision : PermissionDecision) : Program σ PyExn Unit := do
  let s ← look
  let raised := engine.record s decision
  update (engine.note (.recorded decision raised))
  match raised with
  | none => pure ()
  | some e => raise (sanitize e (.permission .audit))

def unknownPermission (request : PermissionRequest) (evaluatedAt : ℚ) : PermissionDecision where
  agentId := request.agentId
  agentRunId := request.agentRunId
  projectId := request.projectId
  taskId := request.taskId
  toolName := request.toolName
  outcome := .deny
  requiredPermissions := []
  reasonCode := .unknownPermission
  safeMessage := "A required permission is unknown."
  correlationId := request.correlationId
  evaluatedAt := evaluatedAt
  permission_bounds := by decide
  message_bounds := by decide
  consistent := rfl

def belongs (decision : PermissionDecision) (request : PolicyRequest) (evaluatedAt : ℚ) : Bool :=
  decide (decision.agentId = request.agentId ∧ decision.agentRunId = request.agentRunId ∧
    decision.projectId = request.projectId ∧ decision.taskId = request.taskId ∧
    decision.toolName = request.toolName ∧
    decision.requiredPermissions.toFinset = request.requiredPermissions ∧
    decision.correlationId = request.correlationId ∧ decision.evaluatedAt = evaluatedAt)

def validateDecision (answer : PolicyAnswer) (request : PolicyRequest) (evaluatedAt : ℚ) :
    Except PyExn PermissionDecision :=
  match answer with
  | .foreign => .error (.permission .policy)
  | .decision fields =>
      match fields.validate with
      | .error _ => .error (.permission .policy)
      | .ok decision =>
          if belongs decision request evaluatedAt = true then .ok decision
          else .error (.permission .policy)

def parsePermissions (identifiers : List Identifier) : Option (List Permission) :=
  identifiers.mapM Permission.parse

theorem parsed_nonempty {identifiers : List Identifier} {permissions : List Permission}
    (parsed : parsePermissions identifiers = some permissions) (some_ : 1 ≤ identifiers.length) :
    permissions.toFinset.Nonempty := by
  cases identifiers with
  | nil => exact absurd some_ (by decide)
  | cons head tail =>
      unfold parsePermissions at parsed
      rw [List.mapM_cons] at parsed
      cases first : Permission.parse head with
      | none =>
          rw [first] at parsed
          cases parsed
      | some permission =>
          rw [first] at parsed
          cases others : tail.mapM Permission.parse with
          | none =>
              rw [others] at parsed
              cases parsed
          | some rest =>
              rw [others] at parsed
              obtain rfl := Option.some.inj parsed
              exact ⟨permission, by simp⟩

def consult (policyRequest : PolicyRequest) (evaluatedAt : ℚ) :
    Program σ PyExn PermissionDecision := do
  let s ← look
  let answer := engine.policy s policyRequest evaluatedAt
  update (engine.note (.consulted policyRequest answer))
  match answer with
  | .error e => raise (sanitize e (.permission .policy))
  | .ok answer =>
      let decision ← resume (validateDecision answer policyRequest evaluatedAt)
      engine.recordDecision decision
      pure decision

/-- `evaluate`; a request that is no valid `PermissionRequest` is `none`. -/
def evaluate (submitted : Option PermissionRequest) : Program σ PyExn PermissionDecision :=
  match submitted with
  | none => raise (.permission .input)
  | some request => do
      let evaluatedAt ← engine.evaluatedAt
      match parsed : parsePermissions request.requiredPermissionIds.members with
      | none =>
          let decision := unknownPermission request evaluatedAt
          engine.recordDecision decision
          pure decision
      | some permissions =>
          engine.consult (.fromRequest request permissions.toFinset
            (parsed_nonempty parsed request.id_bounds.1)) evaluatedAt

def noteAll (events : List PermissionEvent) (s : σ) : σ :=
  events.foldl (fun s event => engine.note event s) s

inductive Consultation (s : σ) (policyRequest : PolicyRequest) (evaluatedAt : ℚ) :
    Except PyExn PermissionDecision → List PermissionEvent → Prop
  | unanswered (raised e : PyExn) :
      Consultation s policyRequest evaluatedAt (.error e)
        [.consulted policyRequest (.error raised)]
  | invalid (answer : PolicyAnswer) (e : PyExn) :
      Consultation s policyRequest evaluatedAt (.error e) [.consulted policyRequest (.ok answer)]
  | unaudited (answer : PolicyAnswer) (decision : PermissionDecision) (raised e : PyExn) :
      Consultation s policyRequest evaluatedAt (.error e)
        [.consulted policyRequest (.ok answer), .recorded decision (some raised)]
  | decided (fields : DecisionFields) (decision : PermissionDecision)
      (answered : engine.policy s policyRequest evaluatedAt = .ok (.decision fields))
      (validated : fields.validate = .ok decision)
      (within : belongs decision policyRequest evaluatedAt = true) :
      Consultation s policyRequest evaluatedAt (.ok decision)
        [.consulted policyRequest (.ok (.decision fields)), .recorded decision none]

inductive Evaluation (s : σ) : Option PermissionRequest → Except PyExn PermissionDecision →
    List PermissionEvent → Prop
  | unready (submitted : Option PermissionRequest) (e : PyExn) :
      Evaluation s submitted (.error e) []
  | unknown (request : PermissionRequest) (evaluatedAt : ℚ) :
      Evaluation s (some request) (.ok (unknownPermission request evaluatedAt))
        [.recorded (unknownPermission request evaluatedAt) none]
  | unknownUnaudited (request : PermissionRequest) (decision : PermissionDecision)
      (raised e : PyExn) :
      Evaluation s (some request) (.error e) [.recorded decision (some raised)]
  | consulted (request : PermissionRequest) (permissions : List Permission)
      (nonempty : permissions.toFinset.Nonempty) (evaluatedAt : ℚ)
      (parsed : parsePermissions request.requiredPermissionIds.members = some permissions)
      {outcome : Except PyExn PermissionDecision} {events : List PermissionEvent}
      (consultation : engine.Consultation s (.fromRequest request permissions.toFinset nonempty)
        evaluatedAt outcome events) : Evaluation s (some request) outcome events

theorem evaluatedAt_triple (s : σ) :
    Triple (fun t => t = s) engine.evaluatedAt (fun _ t => t = s) (fun _ t => t = s) := by
  unfold evaluatedAt
  apply triple_look_at
  split
  · exact triple_give _ fun _ held => held
  · exact triple_raise _ fun _ held => held
  · exact triple_raise _ fun _ held => held

theorem recordDecision_triple (decision : PermissionDecision) (s : σ) :
    Triple (fun t => t = s) (engine.recordDecision decision)
      (fun _ t => t = engine.note (.recorded decision none) s)
      (fun _ t => ∃ raised, t = engine.note (.recorded decision (some raised)) s) := by
  unfold recordDecision
  apply triple_look_at
  apply triple_update_at
  cases engine.record s decision with
  | none => exact triple_give _ fun _ held => held
  | some raised => exact triple_raise _ fun _ held => ⟨raised, held⟩

theorem validateDecision_ok {answer : PolicyAnswer} {request : PolicyRequest} {evaluatedAt : ℚ}
    {decision : PermissionDecision}
    (validated : validateDecision answer request evaluatedAt = .ok decision) :
    ∃ fields, answer = .decision fields ∧ fields.validate = .ok decision ∧
      belongs decision request evaluatedAt = true := by
  cases answer with
  | foreign => cases validated
  | decision fields =>
      simp only [validateDecision] at validated
      cases checked : fields.validate with
      | error e =>
          rw [checked] at validated
          cases validated
      | ok found =>
          simp only [checked] at validated
          by_cases within : belongs found request evaluatedAt = true
          · rw [if_pos within] at validated
            obtain rfl := Except.ok.inj validated
            exact ⟨fields, rfl, checked, within⟩
          · rw [if_neg within] at validated
            cases validated

theorem consult_triple (policyRequest : PolicyRequest) (evaluatedAt : ℚ) (s : σ) :
    Triple (fun t => t = s) (engine.consult policyRequest evaluatedAt)
      (fun decision t => ∃ events, t = engine.noteAll events s ∧
        engine.Consultation s policyRequest evaluatedAt (.ok decision) events)
      (fun e t => ∃ events, t = engine.noteAll events s ∧
        engine.Consultation s policyRequest evaluatedAt (.error e) events) := by
  unfold consult
  apply triple_look_at
  apply triple_update_at
  cases answered : engine.policy s policyRequest evaluatedAt with
  | error raised => exact triple_raise _ fun _ held => ⟨[_], held, .unanswered raised _⟩
  | ok answer =>
      apply triple_resumed
      · intro decision checked
        obtain ⟨fields, rfl, validated, within⟩ := validateDecision_ok checked
        apply triple_bind (m := fun _ t => t = engine.note (.recorded decision none)
          (engine.note (.consulted policyRequest (.ok (.decision fields))) s))
        · apply triple_weaken (engine.recordDecision_triple decision _) (fun _ held => held)
            fun _ _ held => held
          rintro e t ⟨raised, held⟩
          exact ⟨[_, _], held, .unaudited _ decision raised e⟩
        · intro _
          exact triple_give _ fun _ held =>
            ⟨[_, _], held, .decided fields decision answered validated within⟩
      · intro e t _ held
        exact ⟨[_], held, .invalid answer e⟩

theorem evaluate_triple (submitted : Option PermissionRequest) (s : σ) :
    Triple (fun t => t = s) (engine.evaluate submitted)
      (fun decision t => ∃ events, t = engine.noteAll events s ∧
        engine.Evaluation s submitted (.ok decision) events)
      (fun e t => ∃ events, t = engine.noteAll events s ∧
        engine.Evaluation s submitted (.error e) events) := by
  cases submitted with
  | none => exact triple_raise _ fun _ held => ⟨[], held, .unready none _⟩
  | some request =>
      unfold evaluate
      apply triple_bind (m := fun _ t => t = s)
      · exact triple_weaken (engine.evaluatedAt_triple s) (fun _ held => held)
          (fun _ _ held => held) fun e _ held => ⟨[], held, .unready _ e⟩
      · intro evaluatedAt
        split
        · apply triple_bind (m := fun _ t =>
            t = engine.note (.recorded (unknownPermission request evaluatedAt) none) s)
          · apply triple_weaken (engine.recordDecision_triple _ s) (fun _ held => held)
              fun _ _ held => held
            rintro e t ⟨raised, held⟩
            exact ⟨[_], held, .unknownUnaudited request _ raised e⟩
          · intro _
            exact triple_give _ fun _ held => ⟨[_], held, .unknown request evaluatedAt⟩
        · next permissions parsed =>
            apply triple_weaken (engine.consult_triple _ evaluatedAt s) (fun _ held => held)
            · rintro decision t ⟨events, held, consultation⟩
              exact ⟨events, held, .consulted request permissions _ evaluatedAt parsed consultation⟩
            · rintro e t ⟨events, held, consultation⟩
              exact ⟨events, held, .consulted request permissions _ evaluatedAt parsed consultation⟩

end PermissionEngine

end SynapseOS.Permissions
