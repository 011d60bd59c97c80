import SynapseOS.Execution.Json
import SynapseOS.Lib.Dict
import SynapseOS.Lib.Program
import SynapseOS.Workflows.Errors

/-! A SQLAlchemy session over tasks and audit events, as far as the workflows use it. Its
transaction works on a copy of the database until the commit. -/

namespace SynapseOS.Tasks

open Execution Program Tools Workflows

/-- The columns of a task that the workflows read or change. -/
structure TaskRow where
  projectId : UUID
  status : TaskStatus
  assignedAgentId : Option UUID
  deriving DecidableEq

inductive EventType
  | taskStatusChanged
  | workflowStarted
  | developerHandoffCreated
  | reviewCompleted
  | reviewCycleExhausted
  | workflowCompleted
  | started (stage : Stage)
  | completed (stage : Stage)
  | escalated (stage : Stage)
  deriving DecidableEq, Repr

inductive Action
  | transitionTaskStatus
  | recordWorkflowCheckpoint
  | recordCheckpoint (stage : Stage)
  deriving DecidableEq, Repr

inductive ResourceType
  | developerReviewerWorkflow
  | stageWorkflow (stage : Stage)
  deriving DecidableEq, Repr

abbrev Metadata := List (String × JsonValue)

inductive AuditData
  | transition (fromStatus toStatus : TaskStatus) (reason : PyStr) (metadata : Metadata)
  | fields (entries : Metadata)

structure AuditEvent where
  actorType : Option AuditActorType
  actorId : Option PyStr
  projectId : UUID
  taskId : UUID
  eventType : EventType
  action : Action
  resourceType : Option ResourceType
  result : AuditResult
  data : AuditData
  correlationId : Option UUID

structure Database where
  tasks : Dict UUID TaskRow
  audits : List AuditEvent

/-- A mapped attribute. Without a value it has expired and is read from the row; `original` is what
it was before it was set. -/
structure Attribute (α : Type) where
  value : Option α := none
  original : Option α := none

namespace Attribute

variable {α : Type}

def read (mapped : Attribute α) (row : α) : α := mapped.value.getD row

def set (mapped : Attribute α) (row value : α) : Attribute α where
  value := some value
  original := some (mapped.original.getD (mapped.read row))

/-- `set_committed_value`. -/
def committed (value : α) : Attribute α := { value := some value }

def flushed (mapped : Attribute α) : Attribute α := { mapped with original := none }

/-- `history`: the value that was replaced and the one that replaced it, unless they are equal. -/
def history [DecidableEq α] (mapped : Attribute α) : Option (α × α) :=
  match mapped.original, mapped.value with
  | some original, some value => if original = value then none else some (original, value)
  | _, _ => none

end Attribute

structure TaskObject where
  projectId : Attribute UUID := {}
  status : Attribute TaskStatus := {}
  assignedAgentId : Attribute (Option UUID) := {}

def TaskObject.load (row : TaskRow) : TaskObject where
  projectId := .committed row.projectId
  status := .committed row.status
  assignedAgentId := .committed row.assignedAgentId

def TaskObject.stored (object : TaskObject) (row : TaskRow) : TaskRow where
  projectId := object.projectId.read row.projectId
  status := object.status.read row.status
  assignedAgentId := object.assignedAgentId.read row.assignedAgentId

def TaskObject.flushed (object : TaskObject) : TaskObject where
  projectId := object.projectId.flushed
  status := object.status.flushed
  assignedAgentId := object.assignedAgentId.flushed

structure Authorization where
  current : TaskStatus
  target : TaskStatus
  events : List Nat

/-- The pending events are known by a number each. -/
structure Session where
  committed : Database
  working : Database
  objects : Dict UUID TaskObject
  new : Dict Nat AuditEvent
  authorizations : Dict UUID Authorization
  nextEvent : Nat

inductive Call
  | connection
  | configure
  | lock
  | query
  | inspect
  | metadata
  | add (type : EventType)
  | beforeFlush
  | flush
  | commit
  | rollback
  | invalidate
  | restore
  deriving DecidableEq, Repr

abbrev Calls := Call → Option Exn

def call {σ : Type} (calls : Calls) (site : Call) : Program σ Exn Unit :=
  match calls site with
  | none => pure ()
  | some e => raise e

section Access

variable (task : UUID)

/-- The object of a task; one that is not there is loaded by its first use. -/
def Session.object (session : Session) : TaskObject := (session.objects.get task).getD {}

def Session.view (session : Session) : Option TaskRow :=
  (session.working.tasks.get task).map (session.object task).stored

/-- Read a task. A task without a row raises `ObjectDeletedError`. -/
def readTask : Program Session Exn TaskRow := do
  let session ← look
  match session.view task with
  | some row => pure row
  | none => raise (.sqlalchemy false)

def editTask (edit : TaskRow → TaskObject → TaskObject) : Program Session Exn Unit := do
  let session ← look
  match session.working.tasks.get task with
  | some row =>
      update fun session =>
        { session with objects := session.objects.set task (edit row (session.object task)) }
  | none => raise (.sqlalchemy false)

def writeStatus (status : TaskStatus) : Program Session Exn Unit :=
  editTask task fun row object => { object with status := object.status.set row.status status }

def writeAssignedAgentId (agent : Option UUID) : Program Session Exn Unit :=
  editTask task fun row object =>
    { object with assignedAgentId := object.assignedAgentId.set row.assignedAgentId agent }

def writeProjectId (project : UUID) : Program Session Exn Unit :=
  editTask task fun row object =>
    { object with projectId := object.projectId.set row.projectId project }

end Access

def addEvent (event : AuditEvent) : Program Session Exn Unit :=
  update fun session => { session with
    new := session.new.set session.nextEvent event
    nextEvent := session.nextEvent + 1 }

end SynapseOS.Tasks
