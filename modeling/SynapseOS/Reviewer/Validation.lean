import SynapseOS.Reviewer.Types

/-! The authority and scope of a Reviewer invocation (`core/reviewer/validation.py`). -/

namespace SynapseOS.Reviewer

open Agents Execution Permissions Tools

inductive ReviewerErrorCode
  | invalidInput
  | invalidRole
  | inactiveAgent
  | invalidScope
  | invalidPermission
  | invalidTools
  | invalidCheck
  | invalidAnalysis
  | providerFailure
  deriving DecidableEq, Repr

structure ScopedRequest extends ReviewerRequest where
  taskId : PyStr
  projectId : PyStr
  profile : AgentProfile
  scope_valid : identifierText true taskId = true ∧ identifierText true projectId = true

def reviewerToolIds : List String :=
  ["read_file", "list_files", "search_text", "git_status", "git_diff"]

def validateReviewerProfileAuthority (profile : AgentProfile) :
    Except ReviewerErrorCode (List Permission) :=
  if profile.role ≠ .ofString "Reviewer" then .error .invalidRole
  else if profile.status ≠ .assigned ∧ profile.status ≠ .working then .error .inactiveAgent
  else
    match profile.permissionIds.mapM Permission.parse with
    | none => .error .invalidPermission
    | some permissions =>
        if Permission.filesystemRead ∉ permissions ∨
            ¬ permissions ⊆ [.filesystemRead, .gitRead] then .error .invalidPermission
        else if ¬ profile.toolIds.map Identifier.text ⊆ reviewerToolIds then .error .invalidTools
        else .ok permissions

def validateReviewerRequest (request : ScopedRequest) :
    Except ReviewerErrorCode (List Permission) :=
  if request.developerId = request.reviewerId then .error .invalidScope
  else if request.profile.role ≠ .ofString "Reviewer" then .error .invalidRole
  else if request.profile.status ≠ .assigned ∧ request.profile.status ≠ .working
    then .error .inactiveAgent
  else if PyStr.ofString request.profile.id.text ≠ request.reviewerId then .error .invalidScope
  else validateReviewerProfileAuthority request.profile

theorem reviewerRequest_ok (request : ScopedRequest) :
    (∃ permissions, validateReviewerRequest request = .ok permissions) ↔
      request.developerId ≠ request.reviewerId ∧
        PyStr.ofString request.profile.id.text = request.reviewerId ∧
        ∃ permissions, validateReviewerProfileAuthority request.profile = .ok permissions := by
  unfold validateReviewerRequest
  constructor
  · rintro ⟨permissions, valid⟩
    split at valid
    · cases valid
    next independent =>
    split at valid
    · cases valid
    split at valid
    · cases valid
    split at valid
    · cases valid
    next own => exact ⟨independent, not_not.mp own, permissions, valid⟩
  · rintro ⟨independent, own, permissions, authorized⟩
    refine ⟨permissions, ?_⟩
    have ready := authorized
    unfold validateReviewerProfileAuthority at ready
    split at ready
    · cases ready
    next role =>
    split at ready
    · cases ready
    next active =>
    rw [if_neg independent, if_neg role, if_neg active, if_neg (not_not.mpr own), authorized]

end SynapseOS.Reviewer
