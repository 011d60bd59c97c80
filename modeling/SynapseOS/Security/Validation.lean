import SynapseOS.Security.Types

/-! The authority and scope of a Security invocation (`core/security/validation.py`). -/

namespace SynapseOS.Security

open Agents Execution Permissions QA Tools

inductive SecurityErrorCode
  | invalidInput
  | invalidRole
  | inactiveAgent
  | invalidPermission
  | invalidTools
  | invalidScope
  | scannerFailure
  | providerFailure
  | invalidAnalysis
  | timeout
  | internalFailure
  deriving DecidableEq, Repr

structure ValidatedSecurityRequest where
  request : SecurityRequest
  permissions : List Permission

def readTools : List String := ["read_file", "list_files", "search_text"]

def gitTools : List String := ["git_status", "git_diff"]

def activeStatus (status : AgentStatus) : Bool := decide (status = .assigned ∨ status = .working)

def sameMembers {α : Type} [DecidableEq α] (first second : List α) : Bool :=
  decide (first ⊆ second ∧ second ⊆ first)

def validateSecurityProfileAuthority (profile : AgentProfile) :
    Except SecurityErrorCode (List Permission) :=
  if profile.role ≠ .ofString "Security" then .error .invalidRole
  else if activeStatus profile.status = false then .error .inactiveAgent
  else if ¬ (profile.autonomyLevel = 0 ∨ profile.autonomyLevel = 1) then .error .invalidPermission
  else
    match profile.permissionIds.mapM Permission.parse with
    | none => .error .invalidPermission
    | some permissions =>
        let tools := profile.toolIds.map Identifier.text
        if Permission.filesystemRead ∉ permissions ∨
            ¬ permissions ⊆ [.filesystemRead, .gitRead] then .error .invalidPermission
        else if ¬ tools ⊆ readTools ++ gitTools ∨ (tools.any readTools.contains) = false then
          .error .invalidTools
        else if (tools.any gitTools.contains) = true ∧ Permission.gitRead ∉ permissions then
          .error .invalidPermission
        else .ok permissions

def hasConsistentScope (request : SecurityRequest) : Bool :=
  let context := request.executionContext
  decide ([request.developerId, request.reviewerId, request.qaId, request.securityId].Nodup) &&
    decide (request.profile.id = request.securityId ∧ request.securityId = context.agentId) &&
    sameMembers request.profile.toolIds context.declaredToolIds &&
    decide (request.taskId = context.taskId ∧ request.projectId = context.projectId) &&
    decide (request.correlationId = context.correlationId ∧
      request.qaResult.correlationId = request.correlationId) &&
    decide (request.qaResult.decision = .passed ∧ request.tests = request.qaResult.tests) &&
    decide ((request.affectedFiles.map fun item => item.path).Nodup)

def validateSecurityRequest (request : SecurityRequest) :
    Except SecurityErrorCode ValidatedSecurityRequest :=
  if hasConsistentScope request = false then .error .invalidScope
  else
    match validateSecurityProfileAuthority request.profile with
    | .error code => .error code
    | .ok permissions => .ok ⟨request, permissions⟩

end SynapseOS.Security
