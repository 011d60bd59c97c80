import SynapseOS.Queue.Types

/-! Values of the tool boundary (`core/tools/types.py`, `core/tools/audit.py`). -/

namespace SynapseOS.Tools

def identifierLead (c : Char) : Bool := c.isLower || c.isDigit

def identifierRest (c : Char) : Bool :=
  identifierLead c || c == '.' || c == '_' || c == ':' || c == '-'

def identifierPattern (text : String) : Bool :=
  match text.toList with
  | [] => false
  | head :: tail => identifierLead head && decide (tail.length ≤ 127) && tail.all identifierRest

structure Identifier where
  text : String
  matched : identifierPattern text = true
  deriving DecidableEq

inductive PyFloat
  | finite (value : ℚ)
  | infinite (negative : Bool)
  | nan
  deriving DecidableEq

/-- `JsonValue`, as pydantic validates it: its strings are Unicode. -/
inductive JsonValue
  | null
  | boolean (value : Bool)
  | string (value : String)
  | integer (value : Int)
  | number (value : PyFloat)
  | list (items : List JsonValue)
  | dict (entries : List (String × JsonValue))

inductive ToolResultStatus
  | succeeded
  | failed
  | denied
  | timedOut
  deriving DecidableEq, Repr

inductive ToolErrorCode
  | toolNotFound
  | toolNotDeclared
  | permissionDenied
  | approvalRequired
  | permissionAuditFailed
  | invalidInput
  | workspaceViolation
  | unsupportedFile
  | outputLimit
  | toolFailed
  | auditFailed
  | toolTimedOut
  | cancelled
  | targetNotFound
  | targetConflict
  | patchMismatch
  | mutationFailed
  | compensationFailed
  deriving DecidableEq, Repr

/-- The scope of one invocation. The workspace root is a directory the file tools read;
nothing here looks into it. -/
structure ToolExecutionContext where
  workspaceRoot : String
  agentId : Identifier
  agentRunId : UUID
  projectId : UUID
  taskId : UUID
  declaredToolIds : List Identifier
  correlationId : UUID
  declared_bounds : 1 ≤ declaredToolIds.length ∧ declaredToolIds.length ≤ 128

/-- `require_consistent_error_fields`. -/
def consistentErrorFields (status : ToolResultStatus) (code : Option ToolErrorCode)
    (message : Option String) : Bool :=
  if status = .succeeded then code.isNone && message.isNone else code.isSome && message.isSome

structure ToolResult where
  toolName : Identifier
  status : ToolResultStatus
  output : List (String × JsonValue)
  errorCode : Option ToolErrorCode := none
  errorMessage : Option String := none
  durationMs : ℚ
  truncated : Bool
  toolCallId : UUID
  duration_bounds : 0 ≤ durationMs
  consistent : consistentErrorFields status errorCode errorMessage = true

theorem succeeded_consistent : consistentErrorFields .succeeded none none = true := by decide

theorem certain : (0 : ℚ) ≤ 1 ∧ (1 : ℚ) ≤ 1 := by norm_num

theorem immediate : (0 : ℚ) ≤ 0 := le_rfl

theorem result_code (result : ToolResult) (failed : result.status ≠ .succeeded) :
    ∃ code, result.errorCode = some code := by
  have consistent := result.consistent
  unfold consistentErrorFields at consistent
  rw [if_neg failed, Bool.and_eq_true] at consistent
  exact Option.isSome_iff_exists.mp consistent.1

end SynapseOS.Tools
