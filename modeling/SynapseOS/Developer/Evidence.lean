import SynapseOS.Agents.Types
import SynapseOS.Commands.Types
import SynapseOS.Core.Fields
import SynapseOS.Runtime.Runtime
import SynapseOS.Workspaces.Paths

/-! The evidence and the report of a developer run (`core/developer`). -/

namespace SynapseOS.Developer

open Agents Commands Execution SynapseOS.Runtime Tools
open Workspaces (pathParts asPosix)

structure DeveloperCheckResult where
  profileId : CommandProfileId
  category : CommandCategory
  status : CommandTerminalStatus
  exitCode : Int
  truncated : Bool
  exit_bounds : -255 ≤ exitCode ∧ exitCode ≤ 255
  truthful : category = profileId.category ∧ status = expectedStatus exitCode

/-- A call of the tool executor; the executor that it is delegated to may raise. -/
structure Attempt where
  toolName : String
  arguments : JsonObject
  result : Option ToolResult

/-- What `EvidenceCollectingToolExecutor` has retained. -/
structure Evidence where
  changedPaths : List String := []
  checks : List DeveloperCheckResult := []
  failures : List (Identifier × ToolErrorCode) := []
  recordCount : Nat := 0

def maxEvidenceRecords : Nat := 128

def writeTools : List String := ["write_file", "create_file", "patch_file", "delete_file"]

def commandTool : String := "run_command_profile"

def changedPath (text : String) : Bool :=
  let path := PyStr.ofString text
  decide (1 ≤ path.length ∧ path.length ≤ 1024 ∧ path.head? ≠ some 0x2F ∧
    PyStr.ofString ".." ∉ pathParts path ∧ asPosix (pathParts path) = path)

def requestedProfile (arguments : JsonObject) : Option String :=
  match arguments.get "profile_id" with
  | some (.string text) => some text
  | _ => none

def commandCheck (arguments output : JsonObject) : Option DeveloperCheckResult :=
  match output.get "profile_id", output.get "category", output.get "terminal_status",
      output.get "exit_code", output.get "truncated" with
  | some (.string rawProfile), some (.string rawCategory), some (.string rawStatus),
      some (.integer exitCode), some (.boolean truncated) =>
      match CommandProfileId.parse rawProfile, CommandCategory.parse rawCategory,
          CommandTerminalStatus.parse rawStatus with
      | some profile, some category, some status =>
          if bounds : -255 ≤ exitCode ∧ exitCode ≤ 255 then
            if requestedProfile arguments = some profile.value then
              if truthful : category = profile.category ∧ status = expectedStatus exitCode then
                some ⟨profile, category, status, exitCode, truncated, bounds, truthful⟩
              else none
            else none
          else none
      | _, _, _ => none
  | _, _, _, _, _ => none

namespace Evidence

variable (evidence : Evidence)

def observeWrite (arguments : JsonObject) : Evidence :=
  match arguments.get "path" with
  | some (.string path) =>
      if changedPath path = true then
        { evidence with
          changedPaths := if path ∈ evidence.changedPaths then evidence.changedPaths
            else evidence.changedPaths ++ [path]
          recordCount := evidence.recordCount + 1 }
      else evidence
  | _ => evidence

def observeCommand (arguments output : JsonObject) : Evidence :=
  match commandCheck arguments output with
  | some check =>
      { evidence with checks := evidence.checks ++ [check], recordCount :=
        evidence.recordCount + 1 }
  | none => evidence

def observe (toolName : String) (arguments : JsonObject) (result : ToolResult) : Evidence :=
  if maxEvidenceRecords ≤ evidence.recordCount then evidence
  else if result.toolName.text ≠ toolName then evidence
  else if result.status ≠ .succeeded then
    match result.errorCode with
    | some code =>
        { evidence with
          failures := evidence.failures ++ [(result.toolName, code)]
          recordCount := evidence.recordCount + 1 }
    | none => evidence
  else if toolName ∈ writeTools then evidence.observeWrite arguments
  else if toolName = commandTool then evidence.observeCommand arguments result.output
  else evidence

/-- `execute`: what its delegate returns is observed. -/
def execute (attempt : Attempt) : Evidence :=
  match attempt.result with
  | some result => evidence.observe attempt.toolName attempt.arguments result
  | none => evidence

end Evidence

def collected (attempts : List Attempt) : Evidence := attempts.foldl Evidence.execute {}

def attemptsOf : Runtime.Trace → List Attempt
  | [] => []
  | .toolCalled name arguments :: .toolReturned result :: rest =>
      ⟨name, arguments, some result⟩ :: attemptsOf rest
  | .toolCalled name arguments :: rest => ⟨name, arguments, none⟩ :: attemptsOf rest
  | _ :: rest => attemptsOf rest

section Report

def reasonValue : RuntimeTerminalReason → String
  | .taskCompleted => "TASK_COMPLETED"
  | .agentEscalated => "AGENT_ESCALATED"
  | .humanApprovalRequired => "HUMAN_APPROVAL_REQUIRED"
  | .permissionDenied => "PERMISSION_DENIED"
  | .stagnationDetected => "STAGNATION_DETECTED"
  | .maxIterationsReached => "MAX_ITERATIONS_REACHED"
  | .maxToolCallsReached => "MAX_TOOL_CALLS_REACHED"
  | .tokenBudgetReached => "TOKEN_BUDGET_REACHED"
  | .globalTimeout => "GLOBAL_TIMEOUT"
  | .maxFailuresReached => "MAX_FAILURES_REACHED"
  | .auditFailed => "AUDIT_FAILED"
  | .invalidLlmOutput => "INVALID_LLM_OUTPUT"
  | .cancelled => "CANCELLED"

def humanReasons : List RuntimeTerminalReason :=
  [.agentEscalated, .humanApprovalRequired, .permissionDenied]

def blockedReasons : List RuntimeTerminalReason :=
  [.stagnationDetected, .maxIterationsReached, .maxToolCallsReached, .tokenBudgetReached,
    .globalTimeout]

def report (outcome : AgentReportOutcome) (summary detail : String) : AgentReport :=
  ⟨.ofString summary, outcome, [.ofString detail], []⟩

def profileNames (profiles : List CommandProfileId) : String :=
  String.intercalate ", " (profiles.map CommandProfileId.value)

def latest (checks : List DeveloperCheckResult) : Dict CommandProfileId DeveloperCheckResult :=
  (Dict.indexLast DeveloperCheckResult.profileId checks).1

def buildAgentReport (runtime : RuntimeResult) (required : List CommandProfileId)
    (checks : List DeveloperCheckResult) : AgentReport :=
  let stopped := "Runtime stopped with " ++ reasonValue runtime.reason ++ "."
  if runtime.reason ∈ humanReasons then
    report .needsHuman "Developer work requires human action." stopped
  else if runtime.reason ∈ blockedReasons then
    report .blocked "Developer work is blocked by a runtime boundary." stopped
  else if runtime.status = .failed then report .failed "Developer work failed." stopped
  else
    let missing := required.filter fun profile => ((latest checks).get profile).isNone
    let failed := required.filter fun profile =>
      ((latest checks).get profile).any fun check => decide (check.status = .failed)
    if missing ≠ [] then
      report .blocked "Developer verification is incomplete."
        ("Required checks are missing: " ++ profileNames missing ++ ".")
    else if failed ≠ [] then
      report .failed "Developer verification failed."
        ("Required checks failed: " ++ profileNames failed ++ ".")
    else if runtime.status = .completed then
      report .succeeded "Developer work completed with required checks passing."
        "All required checks passed."
    else report .blocked "Developer work did not reach a verified completion state." stopped

end Report

structure DeveloperRequest where
  task : RuntimeTask
  executionContext : ToolExecutionContext
  requiredCheckProfiles : List CommandProfileId
  profiles_few : 1 ≤ requiredCheckProfiles.length ∧ requiredCheckProfiles.length ≤ 4
  profiles_unique : requiredCheckProfiles.Nodup

structure DeveloperResult where
  runtime : RuntimeResult
  report : AgentReport
  changedPaths : List String
  checks : List DeveloperCheckResult
  paths_valid : changedPaths.length ≤ 128 ∧ changedPaths.Nodup
  checks_few : checks.length ≤ 128

structure Evidence.Bounded (evidence : Evidence) : Prop where
  sizes : evidence.changedPaths.length + evidence.checks.length ≤ evidence.recordCount
  few : evidence.recordCount ≤ maxEvidenceRecords
  unique : evidence.changedPaths.Nodup

section Bounds

variable {evidence : Evidence} (bounded : evidence.Bounded)
  (room : evidence.recordCount + 1 ≤ maxEvidenceRecords)

include bounded room

theorem observeWrite_bounded (arguments : JsonObject) :
    (evidence.observeWrite arguments).Bounded := by
  unfold Evidence.observeWrite
  split
  · next path _ =>
      split
      · refine ⟨?_, room, ?_⟩
        · have sizes := bounded.sizes
          dsimp only
          split
          · omega
          · rw [List.length_append, List.length_singleton]
            omega
        · dsimp only
          split
          · exact bounded.unique
          · next fresh => exact List.concat_eq_append ▸ bounded.unique.concat fresh
      · exact bounded
  · exact bounded

theorem observeCommand_bounded (arguments output : JsonObject) :
    (evidence.observeCommand arguments output).Bounded := by
  unfold Evidence.observeCommand
  split
  · refine ⟨?_, room, bounded.unique⟩
    have sizes := bounded.sizes
    dsimp only
    rw [List.length_append, List.length_singleton]
    omega
  · exact bounded

omit room in
theorem execute_bounded (attempt : Attempt) : (evidence.execute attempt).Bounded := by
  unfold Evidence.execute
  split
  · unfold Evidence.observe
    split
    · exact bounded
    · next full =>
        have room : evidence.recordCount + 1 ≤ maxEvidenceRecords := Nat.lt_of_not_le full
        split
        · exact bounded
        split
        · split
          · exact ⟨bounded.sizes.trans (Nat.le_succ _), room, bounded.unique⟩
          · exact bounded
        split
        · exact observeWrite_bounded bounded room _
        split
        · exact observeCommand_bounded bounded room _ _
        · exact bounded
  · exact bounded

end Bounds

theorem collected_bounded (attempts : List Attempt) : (collected attempts).Bounded := by
  induction attempts using List.reverseRecOn with
  | nil => exact ⟨le_refl _, Nat.zero_le _, List.nodup_nil⟩
  | append_singleton attempts attempt ih =>
      unfold collected at ih ⊢
      rw [List.foldl_append]
      exact execute_bounded ih attempt

def developerResult (required : List CommandProfileId) (runtime : RuntimeResult)
    (attempts : List Attempt) : DeveloperResult where
  runtime
  report := buildAgentReport runtime required (collected attempts).checks
  changedPaths := (collected attempts).changedPaths
  checks := (collected attempts).checks
  paths_valid := by
    have sizes := (collected_bounded attempts).sizes
    have few := (collected_bounded attempts).few
    unfold maxEvidenceRecords at few
    exact ⟨by omega, (collected_bounded attempts).unique⟩
  checks_few := by
    have sizes := (collected_bounded attempts).sizes
    have few := (collected_bounded attempts).few
    unfold maxEvidenceRecords at few
    omega

/-- `DeveloperAgent.run` of a request that is valid, over a runtime with its reasoner. -/
def DeveloperAgent.run (runtime : AgentRuntime) (request : DeveloperRequest) :
    Except Exn DeveloperResult :=
  let ended := Runtime.run runtime request.task request.executionContext Runtime.start
  ended.1.map fun result =>
    developerResult request.requiredCheckProfiles result (attemptsOf ended.2.trace)

end SynapseOS.Developer
