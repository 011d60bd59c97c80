import SynapseOS.Execution.Executor

/-! A registry of one tool that returns a transaction, with collaborators that let it run. -/

namespace SynapseOS.Execution

open Tools Permissions

def sampleName : Identifier := ⟨"file.write", by decide⟩

def sampleTool (output : RawOutput) : Tool where
  name := sampleName
  requiredPermissions := ⟨[.filesystemWrite], by decide⟩
  riskLevel := .high
  timeoutSeconds := 10
  parse _ := .ok []
  execute _ _ _ := .ok output
  permission_bounds := by decide
  timeout_bounds := by norm_num

def grant (request : PolicyRequest) (evaluatedAt : ℚ) : PolicyAnswer :=
  .decision
    { agentId := request.agentId.text
      agentRunId := request.agentRunId
      projectId := request.projectId
      taskId := request.taskId
      toolName := request.toolName.text
      outcome := .allow
      requiredPermissions := [.filesystemWrite]
      reasonCode := .granted
      safeMessage := "Permission granted."
      correlationId := request.correlationId
      evaluatedAt := some evaluatedAt }

def samplePython : Interpreter := ⟨1000, fun _ => .ofString "0.0"⟩

def sampleEnv (tool : Tool) : Collaborators where
  python := samplePython
  validateJson fields := if fields.isEmpty then .ok [] else .error .valueError
  directory root := some root
  registry := ⟨[tool], by simp⟩
  auditBegin _ _ := .ok ⟨1⟩
  auditFinish _ _ _ := none
  clock _ := .ok (some 0)
  policy _ request evaluatedAt := .ok (grant request evaluatedAt)
  recordPermission _ _ := none
  interrupted _ := false
  commit _ _ := none
  rollback _ _ := none
  reading _ := 0

def sampleContext : ToolExecutionContext :=
  ⟨"/", sampleName, 1, 1, 1, [sampleName], 1, by decide⟩

def sampleCall (env : Collaborators) : Except PyExn ToolResult × World :=
  execute env (.string (.ofString "file.write")) (.mapping (.ofFields [])) (some sampleContext) {}

end SynapseOS.Execution
