import SynapseOS.LocalGit.Audit
import SynapseOS.Lib.Segments
import SynapseOS.Lib.Transition

/-! Concurrent calls of one `GitWorkflow` (`core/git_workflow/workflow.py`). -/

namespace SynapseOS.LocalGit

open Execution Transition

structure Call where
  context : AuditContext
  request : GitRequest

section Authority

/-- `_canonical_context`; of a valid context only the workspace root is looked at anew. -/
def canonicalContext (rootStands : Bool) (context : AuditContext) : Except Thrown AuditContext :=
  if rootStands then .ok context else .error (.git .invalidRequest)

def validateReadAuthority (rootStands : Bool)
    (context : AuditContext) : Except Thrown AuditContext := do
  let canonical ← canonicalContext rootStands context
  if .gitRead ∈ canonical.actor.permissionIds.members then .ok canonical
  else .error (.git .unauthorized)

def validateWriteAuthority (rootStands : Bool) (context : AuditContext) (taskId : UUID) :
    Except Thrown AuditContext := do
  let canonical ← canonicalContext rootStands context
  if taskId ≠ canonical.taskId ∨ canonical.actor.profile.role ≠ PyStr.ofString "Developer" ∨
      .gitWrite ∉ canonical.actor.permissionIds.members then .error (.git .unauthorized)
  else .ok canonical

def Call.authority (call : Call) (rootStands : Bool) : Except Thrown AuditContext :=
  match call.request with
  | .createTaskBranch request => validateWriteAuthority rootStands call.context request.taskId
  | .commitChanges request => validateWriteAuthority rootStands call.context request.taskId
  | .preparePullRequest request => do
      let validated ← validateWriteAuthority rootStands call.context request.taskId
      if request.taskId ≠ validated.taskId then .error (.git .invalidRequest) else .ok validated
  | .getStatus | .getDiff _ | .getHistory _ | .validateMergeRequirements _ _ =>
      validateReadAuthority rootStands call.context

/-- What a call does before `_execute`: it finds the data of its start. -/
def Call.validate (call : Call) (rootStands : Bool) : Except Thrown GitAuditData := do
  let _ ← call.authority rootStands
  call.request.startedData

end Authority

section Execution

/-- How the provider's method ends: with a value of its declared model, with another or by an
exception. -/
inductive Reply (request : GitRequest)
  | returned (value : request.Declared)
  | foreign
  | raised (thrown : Thrown)

inductive Outcome (request : GitRequest)
  | returned (result : request.Result)
  | raised (thrown : Thrown)

variable (checksum : PreparationPayload → PyStr)

/-- `invoke()`, with nothing for a value that is no model; the merge validation iterates over what
the provider returns. -/
def GitRequest.invoke (scope : GitWorkflowContext) :
    (request : GitRequest) → Reply request → Except Thrown (Option request.Result)
  | .validateMergeRequirements request _, .returned reasons =>
      .ok (some ⟨mergeValidation (List.append (evidenceReasons checksum scope request) reasons), _,
        rfl⟩)
  | .validateMergeRequirements _ _, .foreign => .error .other
  | .getStatus, .returned value | .getDiff _, .returned value | .getHistory _, .returned value
  | .createTaskBranch _, .returned value | .commitChanges _, .returned value
  | .preparePullRequest _, .returned value => .ok (some value)
  | .getStatus, .foreign | .getDiff _, .foreign | .getHistory _, .foreign
  | .createTaskBranch _, .foreign | .commitChanges _, .foreign | .preparePullRequest _,
      .foreign => .ok none
  | _, .raised thrown => .error thrown

/-- The exit of `asyncio.timeout`: a cancellation of its own becomes `TimeoutError`. -/
def leaveTimeout {α : Type} (expired cancelling : Bool) : Except Thrown α → Except Thrown α
  | .error .cancelled => .error (if expired && !cancelling then .timeout else .cancelled)
  | ended => ended

def recordFailure : Thrown → Thrown
  | .git code => .git code
  | .timeout | .other => .git .auditFailed
  | .cancelled => .cancelled
  | .exit => .exit

/-- `_record_failure` before `raise`. -/
def Call.fail (call : Call) (code : GitWorkflowErrorCode) :
    Except Thrown (GitAuditRecord × Outcome call.request) := do
  let record ← gitAuditRecord call.context call.request.operation .failed .failed
    [(.errorCode, .text code.text)]
  .ok (record, .raised (.git code))

/-- The terminal record of an operation and what follows it, or the exception that precedes it. -/
def Call.conclude (call : Call) :
    Except Thrown (Option call.request.Result) →
    Except Thrown (GitAuditRecord × Outcome call.request)
  | .error .cancelled => .error .cancelled
  | .error .timeout => call.fail .timedOut
  | .error (.git code) => call.fail code
  | .error .other => call.fail .gitFailed
  | .error .exit => .error .exit
  | .ok none => .error .other
  | .ok (some result) => do
      let record ← gitAuditRecord call.context call.request.operation .completed .succeeded
        (call.request.completedData result)
      .ok (record, .returned result)

end Execution

abbrev CallId := Nat

/-- What a workflow does to the outside for its calls; a recorder that refuses a record raises. -/
inductive Event (calls : CallId → Call)
  | recorded (id : CallId) (record : GitAuditRecord)
  | refused (id : CallId) (record : GitAuditRecord) (thrown : Thrown)
  | invoked (id : CallId)
  | left (id : CallId) (ending : Reply (calls id).request)

def Event.owner {calls : CallId → Call} : Event calls → CallId
  | .recorded id _ | .refused id _ _ | .invoked id | .left id _ => id

inductive Phase (request : GitRequest)
  | idle
  | waiting (data : GitAuditData)
  | running
  | ended (outcome : Outcome request)

structure State (calls : CallId → Call) where
  holder : Option CallId
  phase : (id : CallId) → Phase (calls id).request
  trace : List (Event calls)

/-- What happens between two awaits. The recorder's answer is nothing when it accepts. -/
inductive Action (calls : CallId → Call)
  | call (id : CallId) (rootStands : Bool)
  | cancelWaiting (id : CallId)
  | acquire (id : CallId) (answer : Option Thrown)
  | finish (id : CallId) (ending : Reply (calls id).request) (expired cancelling : Bool)
      (answer : Option Thrown)

section Steps

variable {calls : CallId → Call} (checksum : PreparationPayload → PyStr)

def initial (calls : CallId → Call) : State calls := ⟨none, fun _ => .idle, []⟩

def State.set (s : State calls) (id : CallId) (phase : Phase (calls id).request) : State calls :=
  { s with phase := Function.update s.phase id phase }

@[simp] theorem set_same (s : State calls) (id : CallId) (phase : Phase (calls id).request) :
    (s.set id phase).phase id = phase := by
  unfold State.set
  exact Function.update_self id phase s.phase

@[simp] theorem set_holder (s : State calls) (id : CallId) (phase : Phase (calls id).request) :
    (s.set id phase).holder = s.holder := rfl

@[simp] theorem set_trace (s : State calls) (id : CallId) (phase : Phase (calls id).request) :
    (s.set id phase).trace = s.trace := rfl

theorem set_other {s : State calls} {id other : CallId} {phase : Phase (calls id).request}
    (different : other ≠ id) : (s.set id phase).phase other = s.phase other := by
  unfold State.set
  exact Function.update_of_ne different phase s.phase

def entered (calls : CallId → Call) (id : CallId) (rootStands : Bool) : Phase (calls id).request :=
  match (calls id).validate rootStands with
  | .ok data => .waiting data
  | .error thrown => .ended (.raised thrown)

def startRecord (calls : CallId → Call) (id : CallId) (data : GitAuditData) :
    Except Thrown GitAuditRecord :=
  gitAuditRecord (calls id).context (calls id).request.operation .started .succeeded data

def close (id : CallId) (ending : Reply (calls id).request) (expired cancelling : Bool)
    (answer : Option Thrown) : List (Event calls) × Outcome (calls id).request :=
  let ended := leaveTimeout expired cancelling
    ((calls id).request.invoke checksum (calls id).context.toGitWorkflowContext ending)
  match (calls id).conclude ended, answer with
  | .error thrown, _ => ([.left id ending], .raised thrown)
  | .ok (record, outcome), none => ([.left id ending, .recorded id record], outcome)
  | .ok (record, _), some thrown =>
      ([.left id ending, .refused id record thrown], .raised (recordFailure thrown))

/-- The lock goes to any of the calls that wait, so in particular to the first of them. -/
def step (s : State calls) : Action calls → Option (State calls)
  | .call id rootStands =>
      match s.phase id with
      | .idle => some (s.set id (entered calls id rootStands))
      | _ => none
  | .cancelWaiting id =>
      match s.phase id with
      | .waiting _ => some (s.set id (.ended (.raised .cancelled)))
      | _ => none
  | .acquire id answer =>
      match s.phase id, s.holder with
      | .waiting data, none =>
          match startRecord calls id data, answer with
          | .error thrown, _ => some (s.set id (.ended (.raised thrown)))
          | .ok record, some thrown =>
              some { s.set id (.ended (.raised (recordFailure thrown))) with
                trace := s.trace ++ [.refused id record thrown] }
          | .ok record, none =>
              some { s.set id .running with
                holder := some id
                trace := s.trace ++ [.recorded id record, .invoked id] }
      | _, _ => none
  | .finish id ending expired cancelling answer =>
      match s.phase id with
      | .running =>
          let closed := close checksum id ending expired cancelling answer
          some { s.set id (.ended closed.2) with holder := none, trace := s.trace ++ closed.1 }
      | _ => none

inductive Moves (s : State calls) : State calls → Prop
  | called (id : CallId) (rootStands : Bool) (idle : s.phase id = .idle) :
      Moves s (s.set id (entered calls id rootStands))
  | withdrawn (id : CallId) (data : GitAuditData) (waits : s.phase id = .waiting data) :
      Moves s (s.set id (.ended (.raised .cancelled)))
  | unbuilt (id : CallId) (data : GitAuditData) (thrown : Thrown)
      (waits : s.phase id = .waiting data)
      (invalid : startRecord calls id data = .error thrown) :
      Moves s (s.set id (.ended (.raised thrown)))
  | refused (id : CallId) (data : GitAuditData) (record : GitAuditRecord) (thrown : Thrown)
      (waits : s.phase id = .waiting data) (free : s.holder = none)
      (built : startRecord calls id data = .ok record) :
      Moves s { s.set id (.ended (.raised (recordFailure thrown))) with
        trace := s.trace ++ [.refused id record thrown] }
  | begun (id : CallId) (data : GitAuditData) (record : GitAuditRecord)
      (waits : s.phase id = .waiting data) (free : s.holder = none)
      (built : startRecord calls id data = .ok record) :
      Moves s { s.set id .running with
        holder := some id
        trace := s.trace ++ [.recorded id record, .invoked id] }
  | closed (id : CallId) (ending : Reply (calls id).request) (expired cancelling : Bool)
      (answer : Option Thrown) (runs : s.phase id = .running) :
      Moves s { s.set id (.ended (close checksum id ending expired cancelling answer).2) with
        holder := none
        trace := s.trace ++ (close checksum id ending expired cancelling answer).1 }

theorem step_moves {s t : State calls} {action : Action calls}
    (taken : step checksum s action = some t) : Moves checksum s t := by
  cases action with
  | call id rootStands =>
      simp only [step] at taken
      split at taken
      · next idle =>
          cases taken
          exact .called id rootStands idle
      · cases taken
  | cancelWaiting id =>
      simp only [step] at taken
      split at taken
      · next data waits =>
          cases taken
          exact .withdrawn id data waits
      · cases taken
  | acquire id answer =>
      simp only [step] at taken
      split at taken
      · next data waits free =>
          split at taken
          · next thrown invalid =>
              cases taken
              exact .unbuilt id data thrown waits invalid
          · next record thrown built =>
              cases taken
              exact .refused id data record thrown waits free built
          · next record built =>
              cases taken
              exact .begun id data record waits free built
      · cases taken
  | finish id ending expired cancelling answer =>
      simp only [step] at taken
      split at taken
      · next runs =>
          cases taken
          exact .closed id ending expired cancelling answer runs
      · cases taken

end Steps

end SynapseOS.LocalGit
