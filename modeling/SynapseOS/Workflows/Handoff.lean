import SynapseOS.Developer.Truthful
import SynapseOS.Reviewer.Validation
import SynapseOS.Workflows.Errors

/-! The handoff of a developer result to the Reviewer (`core/workflows/handoff.py`). -/

namespace SynapseOS.Workflows

open Agents Commands Developer Execution Reviewer Tools

deriving instance DecidableEq for AgentProfile
deriving instance DecidableEq for AgentReport
deriving instance DecidableEq for ReviewCheck

def hyphenPlaces : List Nat := [8, 13, 18, 23]

/-- `_require_canonical_uuid_text` on a text of 36 points. -/
def canonicalUuidText (text : PyStr) : Bool :=
  decide (text.length = 36) && text.zipIdx.all fun (point, place) =>
    if place ∈ hyphenPlaces then decide (point = 0x2D) else lowerHexPoint point

structure WorkflowHandoffContext where
  taskId : PyStr
  projectId : PyStr
  taskTitle : PyStr
  taskDescription : PyStr
  acceptanceCriteria : List PyStr
  developerId : PyStr
  reviewerId : PyStr
  reviewerProfile : AgentProfile
  requiredCheckProfiles : List CommandProfileId
  scope_valid : canonicalUuidText taskId = true ∧ canonicalUuidText projectId = true
  title_valid : boundedText 255 taskTitle = true
  description_valid : boundedText 8192 taskDescription = true
  criteria_valid : (∀ criterion ∈ acceptanceCriteria, boundedText 1024 criterion = true) ∧
    1 ≤ acceptanceCriteria.length ∧ acceptanceCriteria.length ≤ 16 ∧ acceptanceCriteria.Nodup
  ids_valid : identifierText true developerId = true ∧ identifierText true reviewerId = true
  profiles_valid : 1 ≤ requiredCheckProfiles.length ∧ requiredCheckProfiles.length ≤ 4 ∧
    requiredCheckProfiles.Nodup

def convertCheck (check : DeveloperCheckResult) : ReviewCheck :=
  ⟨check.profileId, check.category, check.status, check.exitCode, check.truncated,
    check.exit_bounds, check.truthful⟩

def convertChecks (result : DeveloperResult) : List ReviewCheck := result.checks.map convertCheck

section Handoff

variable (context : WorkflowHandoffContext) (result : DeveloperResult)

def exactHandoff (request : ScopedRequest) : Bool :=
  decide (request.taskId = context.taskId ∧ request.projectId = context.projectId ∧
      request.developerId = context.developerId ∧ request.reviewerId = context.reviewerId) &&
    decide (request.profile = context.reviewerProfile) &&
    decide (request.taskTitle = context.taskTitle ∧
      request.taskDescription = context.taskDescription ∧
      request.acceptanceCriteria = context.acceptanceCriteria) &&
    decide (request.developerReport = result.report) &&
    decide (request.requiredCheckProfiles = context.requiredCheckProfiles) &&
    decide (result.checks.map DeveloperCheckResult.profileId = context.requiredCheckProfiles) &&
    decide (request.checks = convertChecks result)

def validateReviewerHandoff (request : ScopedRequest) : Except WorkflowErrorCode ScopedRequest :=
  if exactHandoff context result request = false then .error .unsafeHandoff
  else
    match validateReviewerRequest request with
    | .error _ => .error .unsafeHandoff
    | .ok _ => .ok request

end Handoff

section Texts

theorem lowerHex_identifier {point : Nat} (hex : lowerHexPoint point = true) :
    lowerLetter point = true ∨ digit point = true := by
  unfold lowerHexPoint at hex
  rcases (Bool.or_eq_true _ _).mp hex with decimal | letter
  · exact .inr decimal
  · left
    have bounds := of_decide_eq_true letter
    exact decide_eq_true ⟨bounds.1, by omega⟩

theorem uuid_identifier {text : PyStr} (canonical : canonicalUuidText text = true) :
    identifierText true text = true := by
  unfold canonicalUuidText at canonical
  obtain ⟨sized, placed⟩ := (Bool.and_eq_true _ _).mp canonical
  have length := of_decide_eq_true sized
  have each := List.all_eq_true.mp placed
  cases text with
  | nil => cases length
  | cons head tail =>
      have first := each (head, 0) (by simp)
      have lead : lowerLetter head = true ∨ digit head = true := lowerHex_identifier first
      have rest : tail.all identifierPoint = true := by
        apply List.all_eq_true.mpr
        intro point among
        obtain ⟨place, bound, rfl⟩ := List.mem_iff_getElem.mp among
        have there : (tail[place], place + 1) ∈ (head :: tail).zipIdx := by
          apply List.mk_mem_zipIdx_iff_getElem?.mpr
          rw [List.getElem?_cons_succ]
          exact List.getElem?_eq_getElem bound
        have known := each _ there
        unfold identifierPoint
        dsimp only at known
        split at known
        · rw [of_decide_eq_true known]
          rfl
        · rcases lowerHex_identifier known with letter | decimal
          · rw [letter]
            rfl
          · rw [decimal]
            simp
      unfold identifierText
      dsimp only
      rw [List.length_cons] at length
      rw [rest, decide_eq_true (by omega : tail.length ≤ 127)]
      rcases lead with letter | decimal
      · rw [letter]
        rfl
      · rw [decimal]
        simp

end Texts

def ReviewerReady (context : WorkflowHandoffContext) : Prop :=
  context.developerId ≠ context.reviewerId ∧
    PyStr.ofString context.reviewerProfile.id.text = context.reviewerId ∧
    ∃ permissions, validateReviewerProfileAuthority context.reviewerProfile = .ok permissions

section Accepted

variable (context : WorkflowHandoffContext) (result : DeveloperResult)

def requestOf (diff : PyStr) (shown : boundedText 16384 diff = true)
    (exact : result.checks.map DeveloperCheckResult.profileId = context.requiredCheckProfiles) :
    ScopedRequest where
  taskId := context.taskId
  projectId := context.projectId
  profile := context.reviewerProfile
  developerId := context.developerId
  reviewerId := context.reviewerId
  taskTitle := context.taskTitle
  taskDescription := context.taskDescription
  acceptanceCriteria := context.acceptanceCriteria
  diff := diff
  requiredCheckProfiles := context.requiredCheckProfiles
  checks := convertChecks result
  developerReport := result.report
  scope_valid := ⟨uuid_identifier context.scope_valid.1, uuid_identifier context.scope_valid.2⟩
  ids_valid := context.ids_valid
  title_valid := context.title_valid
  description_valid := context.description_valid
  criteria_valid := context.criteria_valid
  diff_valid := shown
  profiles_valid := ⟨context.profiles_valid.1, context.profiles_valid.2.1.trans (by decide),
    context.profiles_valid.2.2⟩
  checks_valid := by
    have sized : (convertChecks result).length = context.requiredCheckProfiles.length := by
      rw [convertChecks, List.length_map, ← exact, List.length_map]
    have named : (convertChecks result).map ReviewCheck.profileId =
        context.requiredCheckProfiles := by
      rw [convertChecks, List.map_map]
      exact exact
    rw [sized, named]
    exact ⟨context.profiles_valid.1, context.profiles_valid.2.1.trans (by decide),
      context.profiles_valid.2.2⟩

theorem exactHandoff_profiles {request : ScopedRequest}
    (exact : exactHandoff context result request = true) :
    request.developerId = context.developerId ∧ request.reviewerId = context.reviewerId ∧
      request.profile = context.reviewerProfile ∧
      result.checks.map DeveloperCheckResult.profileId = context.requiredCheckProfiles := by
  unfold exactHandoff at exact
  simp only [Bool.and_eq_true, decide_eq_true_eq] at exact
  obtain ⟨⟨⟨⟨⟨⟨scope, profile⟩, _⟩, _⟩, _⟩, profiles⟩, _⟩ := exact
  exact ⟨scope.2.2.1, scope.2.2.2, profile, profiles⟩

theorem exactHandoff_own (diff : PyStr) (shown : boundedText 16384 diff = true)
    (exact : result.checks.map DeveloperCheckResult.profileId = context.requiredCheckProfiles) :
    exactHandoff context result (requestOf context result diff shown exact) = true := by
  unfold exactHandoff requestOf
  simp [exact]

theorem accepted_exact {request handed : ScopedRequest}
    (accepted : validateReviewerHandoff context result request = .ok handed) :
    ReviewerReady context ∧
      result.checks.map DeveloperCheckResult.profileId = context.requiredCheckProfiles := by
  unfold validateReviewerHandoff at accepted
  split at accepted
  · cases accepted
  next exact =>
  cases valid : validateReviewerRequest request with
  | error code =>
      rw [valid] at accepted
      cases accepted
  | ok permissions =>
      obtain ⟨developer, reviewer, profile, profiles⟩ :=
        exactHandoff_profiles context result (Bool.eq_true_of_not_eq_false exact)
      have ready := (reviewerRequest_ok request).mp ⟨permissions, valid⟩
      rw [developer, reviewer, profile] at ready
      exact ⟨ready, profiles⟩

/-- Some request is accepted exactly if the Reviewer is ready and the result has one check for each
required profile, in their order. -/
theorem handoff_accepts :
    (∃ request, validateReviewerHandoff context result request = .ok request) ↔
      ReviewerReady context ∧
        result.checks.map DeveloperCheckResult.profileId = context.requiredCheckProfiles := by
  constructor
  · rintro ⟨request, accepted⟩
    exact accepted_exact context result accepted
  · rintro ⟨ready, profiles⟩
    have shown : boundedText 16384 [0x2B] = true := by decide
    refine ⟨requestOf context result [0x2B] shown profiles, ?_⟩
    obtain ⟨permissions, valid⟩ :=
      (reviewerRequest_ok (requestOf context result [0x2B] shown profiles)).mpr ready
    unfold validateReviewerHandoff
    rw [exactHandoff_own, if_neg (by decide), valid]

end Accepted

section Sample

def failedResult : ToolResult :=
  ⟨commandIdentifier, .succeeded,
    [("profile_id", .string "pytest"), ("category", .string "TEST"),
      ("terminal_status", .string "FAILED"),
      ("exit_code", .integer 1), ("truncated", .boolean false)],
    none, none, 0, false, 0, immediate, succeeded_consistent⟩

def repairedAnswer (call : Nat) : ToolResult := if call ≤ 1 then failedResult else passedResult

def sampleUuid : PyStr := .ofString "00000000-0000-0000-0000-000000000001"

theorem reviewer_identifier : identifierPattern "reviewer" = true := by decide

theorem read_permission : identifierPattern "filesystem.read" = true := by decide

theorem read_tool : identifierPattern "read_file" = true := by decide

def sampleContext : WorkflowHandoffContext where
  taskId := sampleUuid
  projectId := sampleUuid
  taskTitle := .ofString "title"
  taskDescription := .ofString "description"
  acceptanceCriteria := [.ofString "criterion"]
  developerId := .ofString "developer"
  reviewerId := .ofString "reviewer"
  reviewerProfile := ⟨⟨"reviewer", reviewer_identifier⟩, .ofString "Reviewer", .assigned, 0,
    [⟨"filesystem.read", read_permission⟩], [⟨"read_file", read_tool⟩]⟩
  requiredCheckProfiles := [.pytest]
  scope_valid := by decide
  title_valid := by decide
  description_valid := by decide
  criteria_valid := by decide
  ids_valid := by decide
  profiles_valid := by decide

theorem sampleContext_ready : ReviewerReady sampleContext :=
  ⟨by decide, by decide, _, rfl⟩

theorem returned_checks {outcome : Except SynapseOS.Runtime.Exn DeveloperResult}
    (told : (match outcome with
      | .ok result => decide (result.report.outcome = .succeeded ∧
          result.checks.map DeveloperCheckResult.profileId = [.pytest, .pytest])
      | .error _ => false) = true) :
    ∃ result, outcome = .ok result ∧ result.report.outcome = .succeeded ∧
      result.checks.map DeveloperCheckResult.profileId = [.pytest, .pytest] := by
  cases outcome with
  | error raised => cases told
  | ok result => exact ⟨result, rfl, of_decide_eq_true told⟩

/-- Pytest fails, is repaired and passes, and no request is accepted. -/
theorem repaired_refused :
    ¬ ∀ (context : WorkflowHandoffContext) (runtime : SynapseOS.Runtime.AgentRuntime)
    (request : DeveloperRequest) (result : DeveloperResult), ReviewerReady context →
    request.requiredCheckProfiles = context.requiredCheckProfiles →
    DeveloperAgent.run runtime request = .ok result → result.report.outcome = .succeeded →
      ∃ handed, validateReviewerHandoff context result handed = .ok handed := by
  intro claimed
  obtain ⟨result, returned, succeeded, checks⟩ :
      ∃ result, DeveloperAgent.run (pytestRuntime 2 repairedAnswer) pytestRequest = .ok result ∧
        result.report.outcome = .succeeded ∧
        result.checks.map DeveloperCheckResult.profileId = [.pytest, .pytest] :=
    returned_checks (by decide +kernel)
  obtain ⟨handed, accepted⟩ :=
    claimed sampleContext (pytestRuntime 2 repairedAnswer) pytestRequest result
    sampleContext_ready rfl returned succeeded
  have exact := (accepted_exact sampleContext result accepted).2
  rw [checks] at exact
  cases exact

end Sample

end SynapseOS.Workflows
