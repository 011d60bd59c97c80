import SynapseOS.Execution.Json
import SynapseOS.Permissions.Engine

/-! The execution lifecycle of registered tools (`core/tools/executor.py`, `core/tools/audit.py`,
`core/tools/registry.py`).

The collaborators answer as functions of everything that happened before in the call. The call
awaits twice: inside the tool, and once after the tool returned. -/

namespace SynapseOS.Execution

open Tools Permissions Program

inductive ToolAuditOutcome
  | succeeded
  | failed
  | denied
  | timedOut
  | cancelled
  deriving DecidableEq, Repr

structure ToolAuditHandle where
  toolCallId : UUID
  deriving DecidableEq

structure ToolAuditStart where
  toolName : Identifier
  agentId : Identifier
  agentRunId : UUID
  projectId : UUID
  taskId : UUID
  correlationId : UUID
  argumentCount : Nat
  count_bound : argumentCount ≤ 128

structure ToolAuditFinish where
  outcome : ToolAuditOutcome
  durationMs : ℚ
  truncated : Bool
  outputFieldCount : Nat
  outputBytes : Nat
  errorCode : Option ToolErrorCode := none
  duration_bound : 0 ≤ durationMs
  field_bound : outputFieldCount ≤ 128
  byte_bound : outputBytes ≤ 1048576

/-- An instance of `collections.abc.Mapping`: what `len` and `dict` make of it. -/
structure Mapping where
  length : Except PyExn Nat
  entries : Except PyExn (List (PyValue × PyValue))

def Mapping.ofFields (fields : List (PyStr × PyValue)) : Mapping :=
  ⟨.ok fields.length, .ok (fields.map fun field => (.string field.1, field.2))⟩

inductive RawValue
  | mapping (value : Mapping)
  | foreign

inductive RawOutput
  | plain (value : RawValue)
  | transactional (value : RawValue) (transaction : Nat)

abbrev Input := List (String × PyValue)

abbrev Fields := List (PyStr × PyValue)

inductive Event
  | begun (start : ToolAuditStart) (handle : Except PyExn ToolAuditHandle)
  | requested (request : PermissionRequest)
  | permission (event : PermissionEvent)
  /-- `PermissionEngine.evaluate` returned or raised. -/
  | evaluated (outcome : Except PyExn PermissionDecision)
  | parsed (arguments : Fields) (input : Except PyExn Input)
  | toolStarted (name : Identifier) (input : Input)
  /-- The tool returned or raised, as `asyncio.timeout` lets the executor see it. -/
  | toolEnded (outcome : Except PyExn RawOutput)
  /-- The call was cancelled at its await after the tool returned. -/
  | interrupted
  | finished (handle : ToolAuditHandle) (finish : ToolAuditFinish) (raised : Option PyExn)
  | committed (transaction : Nat) (raised : Option PyExn)
  | rolledBack (transaction : Nat) (raised : Option PyExn)

abbrev Trace := List Event

/-- A registered tool, with what the registry has checked of it. -/
structure Tool where
  name : Identifier
  requiredPermissions : FrozenSet Permission
  riskLevel : ToolRiskLevel
  timeoutSeconds : ℚ
  parse : Fields → Except PyExn Input
  execute : Trace → Input → ToolExecutionContext → Except PyExn RawOutput
  permission_bounds : 1 ≤ requiredPermissions.members.length ∧
    requiredPermissions.members.length ≤ 11
  timeout_bounds : 0 < timeoutSeconds ∧ timeoutSeconds ≤ 30

structure ToolRegistry where
  tools : List Tool
  distinct : (tools.map fun tool => tool.name).Nodup

def ToolRegistry.get (registry : ToolRegistry) (name : Identifier) : Option Tool :=
  registry.tools.find? fun tool => decide (tool.name = name)

structure Collaborators where
  python : Interpreter
  /-- The validation of `dict[str, JsonValue]`. -/
  validateJson : Fields → Except PyExn (List (String × JsonValue))
  /-- The canonical path of a directory that exists. -/
  directory : String → Option String
  registry : ToolRegistry
  auditBegin : Trace → ToolAuditStart → Except PyExn ToolAuditHandle
  auditFinish : Trace → ToolAuditHandle → ToolAuditFinish → Option PyExn
  clock : Trace → Except PyExn (Option ℚ)
  policy : Trace → PolicyRequest → ℚ → Except PyExn PolicyAnswer
  recordPermission : Trace → PermissionDecision → Option PyExn
  interrupted : Trace → Bool
  commit : Trace → Nat → Option PyExn
  rollback : Trace → Nat → Option PyExn
  /-- The readings of `perf_counter`. -/
  reading : Nat → ℚ

structure World where
  trace : Trace := []
  readings : Nat := 0

abbrev Action := Program World PyExn

def World.log (w : World) (event : Event) : World := { w with trace := w.trace ++ [event] }

def Collaborators.engine (env : Collaborators) : PermissionEngine World where
  clock w := env.clock w.trace
  policy w := env.policy w.trace
  record w := env.recordPermission w.trace
  note event w := w.log (.permission event)

def PyStr.text? (points : PyStr) : Option String :=
  if points.all fun point => decide point.isValidChar then
    some (String.ofList (points.map Char.ofNat))
  else none

def copyFields : RawValue → Except PyExn Fields
  | .foreign => .error .valueError
  | .mapping value => do
      let length ← value.length
      if 128 < length then .error .valueError
      else
        let entries ← value.entries
        entries.mapM fun entry => match entry.1 with
          | .string key => .ok (key, entry.2)
          | _ => .error .valueError

/-- `except (TypeError, ValueError)` with another exception in the handler. -/
def replaceMalformed {α : Type} (e : PyExn) : Except PyExn α → Except PyExn α
  | .ok a => .ok a
  | .error raised => .error (if raised.malformed = true then e else raised)

/-- `_validate_context`; an object of another type is `none`. -/
def validateContext (env : Collaborators) :
    Option ToolExecutionContext → Except PyExn ToolExecutionContext
  | none => .error (.tool .input .invalidInput)
  | some context =>
      match env.directory context.workspaceRoot with
      | none => .error (.tool .input .invalidInput)
      | some resolved => .ok { context with workspaceRoot := resolved }

def validateName : PyValue → Except PyExn Identifier
  | .string points =>
      match PyStr.text? points with
      | none => .error .valueError
      | some text =>
          if matched : identifierPattern text = true then .ok ⟨text, matched⟩
          else .error .valueError
  | _ => .error .valueError

def validateRequest (toolName : PyValue) (arguments : RawValue) :
    Except PyExn (Identifier × Fields) :=
  replaceMalformed (.tool .input .invalidInput) do
    let name ← validateName toolName
    let copied ← copyFields arguments
    .ok (name, copied)

def perfCounter (env : Collaborators) : Action ℚ := fun w =>
  (.ok (env.reading w.readings), { w with readings := w.readings + 1 })

def durationMs (env : Collaborators) (startedAt : ℚ) : Action { duration : ℚ // 0 ≤ duration } := do
  let now ← perfCounter env
  pure ⟨max 0 ((now - startedAt) * 1000), le_max_left _ _⟩

def beginAudit (env : Collaborators) (toolName : Identifier) (argumentCount : Nat)
    (context : ToolExecutionContext) : Action ToolAuditHandle :=
  if bound : argumentCount ≤ 128 then do
    let start : ToolAuditStart :=
      { toolName := toolName
        agentId := context.agentId
        agentRunId := context.agentRunId
        projectId := context.projectId
        taskId := context.taskId
        correlationId := context.correlationId
        argumentCount := argumentCount
        count_bound := bound }
    let w ← look
    let answer := env.auditBegin w.trace start
    update fun w => w.log (.begun start answer)
    match answer with
    | .ok handle => pure handle
    | .error e => raise (sanitize e (.tool .audit .auditFailed))
  else raise (.tool .audit .auditFailed)

def finishAudit (env : Collaborators) (handle : ToolAuditHandle) (finish : ToolAuditFinish) :
    Action Unit := do
  let w ← look
  let raised := env.auditFinish w.trace handle finish
  update fun w => w.log (.finished handle finish raised)
  match raised with
  | none => pure ()
  | some e => raise (sanitize e (.tool .audit .auditFailed))

def safeMessage : ToolErrorCode → String
  | .toolNotFound => "Requested tool is not registered."
  | .toolNotDeclared => "Requested tool is not declared for this agent."
  | .permissionDenied => "Required tool permission is missing."
  | .approvalRequired => "Human approval is required for this tool."
  | .permissionAuditFailed => "Permission evaluation is unavailable."
  | .invalidInput => "Tool input is invalid."
  | .workspaceViolation => "Requested workspace resource is not allowed."
  | .unsupportedFile => "Requested file type is not supported."
  | .outputLimit => "Tool output is invalid or exceeds its limit."
  | .toolFailed => "Tool execution failed."
  | .auditFailed => "Tool audit failed."
  | .toolTimedOut => "Tool execution timed out."
  | .cancelled => "Tool execution was cancelled."
  | .targetNotFound => "Requested file does not exist."
  | .targetConflict => "Requested file already exists or changed."
  | .patchMismatch => "Requested patch does not match exactly once."
  | .mutationFailed => "File mutation failed."
  | .compensationFailed => "File mutation could not be restored safely."

def emptyFinish (outcome : ToolAuditOutcome) (duration : { duration : ℚ // 0 ≤ duration })
    (code : ToolErrorCode) : ToolAuditFinish where
  outcome := outcome
  durationMs := duration
  truncated := false
  outputFieldCount := 0
  outputBytes := 0
  errorCode := some code
  duration_bound := duration.2
  field_bound := by decide
  byte_bound := by decide

inductive Failure
  | failed
  | denied
  | timedOut
  deriving DecidableEq

def Failure.status : Failure → ToolResultStatus
  | .failed => .failed
  | .denied => .denied
  | .timedOut => .timedOut

def Failure.outcome : Failure → ToolAuditOutcome
  | .failed => .failed
  | .denied => .denied
  | .timedOut => .timedOut

theorem failure_consistent (failure : Failure) (code : ToolErrorCode) (message : String) :
    consistentErrorFields failure.status (some code) (some message) = true := by
  cases failure <;> rfl

def failureResult (env : Collaborators) (handle : ToolAuditHandle) (toolName : Identifier)
    (startedAt : ℚ) (failure : Failure) (code : ToolErrorCode) : Action ToolResult := do
  let duration ← durationMs env startedAt
  finishAudit env handle (emptyFinish failure.outcome duration code)
  pure
    { toolName := toolName
      status := failure.status
      output := []
      errorCode := some code
      errorMessage := some (safeMessage code)
      durationMs := duration
      truncated := false
      toolCallId := handle.toolCallId
      duration_bounds := duration.2
      consistent := failure_consistent failure code _ }

def rollback (env : Collaborators) : Option Nat → Action Unit
  | none => pure ()
  | some transaction => do
      let w ← look
      let raised := env.rollback w.trace transaction
      update fun w => w.log (.rolledBack transaction raised)
      match raised with
      | none => pure ()
      | some e => raise (sanitize e (.tool .base .compensationFailed))

def commit (env : Collaborators) : Option Nat → Action Unit
  | none => pure ()
  | some transaction => do
      let w ← look
      let raised := env.commit w.trace transaction
      update fun w => w.log (.committed transaction raised)
      match raised with
      | none => pure ()
      | some e => raise (sanitize e (.tool .base .compensationFailed))

def unwrapOutput : RawOutput → RawValue × Option Nat
  | .plain value => (value, none)
  | .transactional value transaction => (value, some transaction)

def fieldsValue (fields : Fields) : PyValue :=
  .dict (fields.map fun field => (.string field.1, field.2))

/-- `output.get("truncated") is True`. -/
def isTruncated (fields : Fields) : Bool :=
  fields.any fun field => decide (field.1 = PyStr.ofString "truncated") && match field.2 with
    | .boolean value => value
    | _ => false

mutual

def pythonValue : JsonValue → PyValue
  | .null => .null
  | .boolean value => .boolean value
  | .string value => .string (.ofString value)
  | .integer value => .integer value
  | .number value => .number value
  | .list items => .list (pythonValues items)
  | .dict entries => .dict (pythonEntries entries)

def pythonValues : List JsonValue → List PyValue
  | [] => []
  | item :: rest => pythonValue item :: pythonValues rest

def pythonEntries : List (String × JsonValue) → List (PyValue × PyValue)
  | [] => []
  | (key, value) :: rest => (.string (.ofString key), pythonValue value) :: pythonEntries rest

end

/-- The validation of `ToolResult.output`, with its cap. -/
def boundedOutput (env : Collaborators) (fields : Fields) :
    Except PyExn (List (String × JsonValue)) := do
  let output ← env.validateJson fields
  let bytes ← replaceMalformed .valueError (env.python.jsonBytes (.dict (pythonEntries output)))
  if 1048576 < bytes then .error .valueError else .ok output

structure Processed where
  fields : Fields
  duration : { duration : ℚ // 0 ≤ duration }
  truncated : Bool
  bytes : Nat
  result : ToolResult

/-- The `try` after the tool returned, from its await on. -/
def processOutput (env : Collaborators) (handle : ToolAuditHandle) (toolName : Identifier)
    (startedAt : ℚ) (raw : RawValue) : Action Processed := do
  let w ← look
  if env.interrupted w.trace = true then
    update fun w => w.log .interrupted
    raise .cancelled
  else
    let fields ← resume (copyFields raw)
    let duration ← durationMs env startedAt
    let truncated := isTruncated fields
    let bytes ← resume (env.python.jsonBytes (fieldsValue fields))
    let output ← resume (boundedOutput env fields)
    pure
      { fields := fields
        duration := duration
        truncated := truncated
        bytes := bytes
        result :=
          { toolName := toolName
            status := .succeeded
            output := output
            durationMs := duration
            truncated := truncated
            toolCallId := handle.toolCallId
            duration_bounds := duration.2
            consistent := rfl } }

/-- `try: body` with `finally: raise`, where the exception of the body replaces `e`. -/
def finallyRaise {α : Type} (body : Action Unit) (e : PyExn) : Action α := do
  let outcome ← attempt body
  match outcome with
  | .ok _ => raise e
  | .error raised => raise raised

def succeed (env : Collaborators) (handle : ToolAuditHandle) (transaction : Option Nat)
    (processed : Processed) : Action ToolResult :=
  if bounds : processed.fields.length ≤ 128 ∧ processed.bytes ≤ 1048576 then do
    let outcome ← attempt (finishAudit env handle
      { outcome := .succeeded
        durationMs := processed.duration
        truncated := processed.truncated
        outputFieldCount := processed.fields.length
        outputBytes := processed.bytes
        duration_bound := processed.duration.2
        field_bound := bounds.1
        byte_bound := bounds.2 })
    match outcome with
    | .error (.tool .audit code) =>
        rollback env transaction
        raise (.tool .audit code)
    | .error e => raise e
    | .ok _ =>
        commit env transaction
        pure processed.result
  else raise .valueError

def cancelledAudit (env : Collaborators) (handle : ToolAuditHandle) (startedAt : ℚ) :
    Action Unit := do
  let duration ← durationMs env startedAt
  finishAudit env handle (emptyFinish .cancelled duration .cancelled)

/-- What `execute` does with the output of the tool. -/
def settle (env : Collaborators) (handle : ToolAuditHandle) (toolName : Identifier)
    (startedAt : ℚ) (raw : RawOutput) : Action ToolResult := do
  let transaction := (unwrapOutput raw).2
  let outcome ← attempt (processOutput env handle toolName startedAt (unwrapOutput raw).1)
  match outcome with
  | .error e =>
      if e.cancellation = true then
        rollback env transaction
        finallyRaise (cancelledAudit env handle startedAt) e
      else if e.malformed = true then
        rollback env transaction
        failureResult env handle toolName startedAt .failed .outputLimit
      else raise e
  | .ok processed => succeed env handle transaction processed

/-- What `async with asyncio.timeout(...)` lets through. -/
def timeoutScope : Except PyExn RawOutput → Except PyExn RawOutput
  | .error .expired => .error .timeoutError
  | outcome => outcome

def permissionRequest (tool : Tool) (name : Identifier) (context : ToolExecutionContext) :
    PermissionRequest where
  agentId := context.agentId
  agentRunId := context.agentRunId
  projectId := context.projectId
  taskId := context.taskId
  toolName := name
  riskLevel := tool.riskLevel
  requiredPermissionIds :=
    ⟨tool.requiredPermissions.members.map Permission.identifier,
      tool.requiredPermissions.nodup.map identifier_injective⟩
  correlationId := context.correlationId
  id_bounds := by
    have bounds := tool.permission_bounds
    rw [List.length_map]
    omega

def runTool (env : Collaborators) (handle : ToolAuditHandle) (tool : Tool) (name : Identifier)
    (startedAt : ℚ) (input : Input) (context : ToolExecutionContext) : Action ToolResult := do
  update fun w => w.log (.toolStarted name input)
  let w ← look
  let outcome := timeoutScope (tool.execute w.trace input context)
  update fun w => w.log (.toolEnded outcome)
  match outcome with
  | .ok raw => settle env handle name startedAt raw
  | .error .timeoutError => failureResult env handle name startedAt .timedOut .toolTimedOut
  | .error .cancelled => do
      cancelledAudit env handle startedAt
      raise .cancelled
  | .error (.tool _ code) => failureResult env handle name startedAt .failed code
  | .error e =>
      if e.ordinary = true then failureResult env handle name startedAt .failed .toolFailed
      else raise e

/-- What `execute` does for a tool that may run, from its arguments on. -/
def invoke (env : Collaborators) (handle : ToolAuditHandle) (tool : Tool) (name : Identifier)
    (startedAt : ℚ) (arguments : Fields) (context : ToolExecutionContext) :
    Action ToolResult := do
  let parsed := tool.parse arguments
  update fun w => w.log (.parsed arguments parsed)
  match parsed with
  | .ok input => runTool env handle tool name startedAt input context
  | .error e =>
      if e.malformed = true then failureResult env handle name startedAt .failed .invalidInput
      else raise e

def askPermission (env : Collaborators) (tool : Tool) (name : Identifier)
    (context : ToolExecutionContext) : Action (Except PyExn PermissionDecision) := do
  let request := permissionRequest tool name context
  update fun w => w.log (.requested request)
  let outcome ← attempt (env.engine.evaluate (some request))
  update fun w => w.log (.evaluated outcome)
  pure outcome

def execute (env : Collaborators) (toolName : PyValue) (arguments : RawValue)
    (context : Option ToolExecutionContext) : Action ToolResult := do
  let context ← resume (validateContext env context)
  let request ← resume (validateRequest toolName arguments)
  let name := request.1
  let startedAt ← perfCounter env
  let handle ← beginAudit env name request.2.length context
  match env.registry.get name with
  | none => failureResult env handle name startedAt .denied .toolNotFound
  | some tool =>
      if name ∉ context.declaredToolIds then
        failureResult env handle name startedAt .denied .toolNotDeclared
      else
        let outcome ← askPermission env tool name context
        match outcome with
        | .error (.permission _) =>
            failureResult env handle name startedAt .failed .permissionAuditFailed
        | .error e => raise e
        | .ok decision =>
            if decision.outcome ≠ .allow then
              failureResult env handle name startedAt .denied
                (if decision.outcome = .ask then .approvalRequired else .permissionDenied)
            else invoke env handle tool name startedAt request.2 context

end SynapseOS.Execution
