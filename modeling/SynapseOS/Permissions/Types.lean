import SynapseOS.Tools.Errors

/-! Values of permission evaluation (`core/permissions/types.py`, `core/enums.py`). -/

namespace SynapseOS.Permissions

open Tools

inductive Permission
  | filesystemRead
  | filesystemWrite
  | gitRead
  | gitWrite
  | shellExecute
  | testsExecute
  | networkAccess
  | databaseRead
  | databaseWrite
  | deploymentStaging
  | deploymentProduction
  deriving DecidableEq, Repr

def Permission.value : Permission → String
  | .filesystemRead => "filesystem.read"
  | .filesystemWrite => "filesystem.write"
  | .gitRead => "git.read"
  | .gitWrite => "git.write"
  | .shellExecute => "shell.execute"
  | .testsExecute => "tests.execute"
  | .networkAccess => "network.access"
  | .databaseRead => "database.read"
  | .databaseWrite => "database.write"
  | .deploymentStaging => "deployment.staging"
  | .deploymentProduction => "deployment.production"

def Permission.identifier (permission : Permission) : Identifier :=
  ⟨permission.value, by cases permission <;> decide⟩

def allPermissions : List Permission :=
  [.filesystemRead, .filesystemWrite, .gitRead, .gitWrite, .shellExecute, .testsExecute,
    .networkAccess, .databaseRead, .databaseWrite, .deploymentStaging, .deploymentProduction]

def Permission.parse (identifier : Identifier) : Option Permission :=
  allPermissions.find? fun permission => permission.identifier = identifier

theorem parse_identifier (permission : Permission) :
    Permission.parse permission.identifier = some permission := by
  cases permission <;> decide

theorem identifier_injective : Function.Injective Permission.identifier := by
  intro first second same
  have parsed := parse_identifier first
  rw [same, parse_identifier second] at parsed
  exact (Option.some.inj parsed).symm

inductive ToolRiskLevel
  | low
  | medium
  | high
  | critical
  deriving DecidableEq, Repr

inductive PermissionOutcome
  | allow
  | deny
  | ask
  deriving DecidableEq, Repr

inductive PermissionReasonCode
  | granted
  | unknownPermission
  | invalidScope
  | missingPermission
  | humanApprovalRequired
  | autonomyApprovalRequired
  deriving DecidableEq, Repr

/-- `allowed_reasons`. -/
def PermissionOutcome.explains : PermissionOutcome → PermissionReasonCode → Bool
  | .allow, .granted => true
  | .deny, .unknownPermission | .deny, .invalidScope | .deny, .missingPermission => true
  | .ask, .humanApprovalRequired | .ask, .autonomyApprovalRequired => true
  | .allow, _ | .deny, _ | .ask, _ => false

structure FrozenSet (α : Type) where
  members : List α
  nodup : members.Nodup

structure PermissionRequest where
  agentId : Identifier
  agentRunId : UUID
  projectId : UUID
  taskId : UUID
  toolName : Identifier
  riskLevel : ToolRiskLevel
  requiredPermissionIds : FrozenSet Identifier
  correlationId : UUID
  id_bounds : 1 ≤ requiredPermissionIds.members.length ∧
    requiredPermissionIds.members.length ≤ 128

structure PolicyRequest where
  agentId : Identifier
  agentRunId : UUID
  projectId : UUID
  taskId : UUID
  toolName : Identifier
  riskLevel : ToolRiskLevel
  requiredPermissions : Finset Permission
  correlationId : UUID
  nonempty : requiredPermissions.Nonempty

/-- `PolicyRequest.from_request`. The bound of 11 members always holds. -/
def PolicyRequest.fromRequest (request : PermissionRequest) (permissions : Finset Permission)
    (nonempty : permissions.Nonempty) : PolicyRequest where
  agentId := request.agentId
  agentRunId := request.agentRunId
  projectId := request.projectId
  taskId := request.taskId
  toolName := request.toolName
  riskLevel := request.riskLevel
  requiredPermissions := permissions
  correlationId := request.correlationId
  nonempty := nonempty

/-- The fields of a `PermissionDecision`, before they are validated. A naive timestamp is
`none`. -/
structure DecisionFields where
  agentId : String
  agentRunId : UUID
  projectId : UUID
  taskId : UUID
  toolName : String
  outcome : PermissionOutcome
  requiredPermissions : List Permission
  reasonCode : PermissionReasonCode
  safeMessage : String
  correlationId : UUID
  evaluatedAt : Option ℚ

/-- What a policy returns: an instance of `PermissionDecision`, whose fields nobody need have
validated, or anything else. -/
inductive PolicyAnswer
  | decision (fields : DecisionFields)
  | foreign

structure PermissionDecision where
  agentId : Identifier
  agentRunId : UUID
  projectId : UUID
  taskId : UUID
  toolName : Identifier
  outcome : PermissionOutcome
  requiredPermissions : List Permission
  reasonCode : PermissionReasonCode
  safeMessage : String
  correlationId : UUID
  evaluatedAt : ℚ
  permission_bounds : requiredPermissions.length ≤ 11
  message_bounds : 1 ≤ safeMessage.length ∧ safeMessage.length ≤ 255
  consistent : outcome.explains reasonCode = true

def sortPermissions (permissions : List Permission) : List Permission :=
  permissions.mergeSort fun left right => decide (left.value ≤ right.value)

/-- `PermissionDecision.model_validate(decision.__dict__, strict=True)`. -/
def DecisionFields.validate (fields : DecisionFields) : Except PyExn PermissionDecision :=
  if agent : identifierPattern fields.agentId = true then
    if tool : identifierPattern fields.toolName = true then
      if permissions : (sortPermissions fields.requiredPermissions).length ≤ 11 then
        if message : 1 ≤ fields.safeMessage.length ∧ fields.safeMessage.length ≤ 255 then
          match fields.evaluatedAt with
          | none => .error .valueError
          | some evaluatedAt =>
              if consistent : fields.outcome.explains fields.reasonCode = true then
                .ok
                  { agentId := ⟨fields.agentId, agent⟩
                    agentRunId := fields.agentRunId
                    projectId := fields.projectId
                    taskId := fields.taskId
                    toolName := ⟨fields.toolName, tool⟩
                    outcome := fields.outcome
                    requiredPermissions := sortPermissions fields.requiredPermissions
                    reasonCode := fields.reasonCode
                    safeMessage := fields.safeMessage
                    correlationId := fields.correlationId
                    evaluatedAt := evaluatedAt
                    permission_bounds := permissions
                    message_bounds := message
                    consistent := consistent }
              else .error .valueError
        else .error .valueError
      else .error .valueError
    else .error .valueError
  else .error .valueError

theorem validate_outcome {fields : DecisionFields} {decision : PermissionDecision}
    (validated : fields.validate = .ok decision) : decision.outcome = fields.outcome := by
  unfold DecisionFields.validate at validated
  split at validated
  · split at validated
    · split at validated
      · split at validated
        · split at validated
          · cases validated
          · split at validated
            · obtain rfl := Except.ok.inj validated
              rfl
            · cases validated
        · cases validated
      · cases validated
    · cases validated
  · cases validated

end SynapseOS.Permissions
