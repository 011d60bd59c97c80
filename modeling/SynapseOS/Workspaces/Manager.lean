import SynapseOS.Core.Enums
import SynapseOS.Workspaces.Paths
import SynapseOS.Workspaces.Trees

/-! The local workspace manager (`infrastructure/workspaces/local.py`). Its audit recorder accepts
a record or raises; a population of the staging tree does anything below it and ends in any way. -/

namespace SynapseOS.Workspaces

open Tools Execution Program

inductive WorkspaceOperation
  | create
  | attach
  | clone
  | cleanup
  deriving DecidableEq, Repr

structure WorkspaceAuditContext where
  actorType : AuditActorType
  actorId : String
  projectId : UUID
  correlationId : UUID

structure WorkspaceAuditData where
  provenance : Option WorkspaceProvenance := none
  errorCode : Option WorkspaceErrorCode := none
  durationMs : ℚ
  entryCount : Option Nat := none
  totalBytes : Option Nat := none
  cleaned : Option Bool := none

structure WorkspaceAuditRecord where
  context : WorkspaceAuditContext
  projectId : UUID
  operation : WorkspaceOperation
  result : AuditResult
  data : WorkspaceAuditData

/-- What git does in a staging tree: the entries and the files it leaves, and how it ends. -/
structure Population where
  entries : Entries Name
  files : Nat → Inode
  outcome : Except Raised Unit

inductive Step
  | acquireLock
  | releaseLock
  | load (site : TreeSite)
  | gitMetadata (site : TreeSite)
  | staging
  | usage (path : List Name)
  | promote (site : TreeSite)
  | workspace
  | leftover
  | discard (site : TreeSite)
  | trash (site : TreeSite)
  | remove (site : TreeSite)
  deriving DecidableEq

structure ManagerHost where
  limits : WorkspaceLimits
  faults : Step → Faults
  stagingToken : String
  trashToken : String
  /-- The seconds between the readings of the clock. -/
  elapsed : ℚ
  record : WorkspaceAuditRecord → Except Raised Unit

structure Desk where
  disk : Files
  records : List WorkspaceAuditRecord

def atBase {α : Type} (body : Program Files Raised α) : Program Desk Raised α :=
  within Desk.disk (fun disk desk => { desk with disk := disk }) body

def invalidRequest : Raised := .workspace .invalidRequest "Workspace request is invalid."

def provisioningFailed : Raised := .workspace .invalidRequest "Workspace provisioning failed."

def validateRequest (project : UUID) (audit : WorkspaceAuditContext) : Program Desk Raised Unit :=
  if audit.projectId ≠ project then raise invalidRequest else pure ()

section Manager

variable (host : ManagerHost) (project : UUID) (audit : WorkspaceAuditContext)

def submit (record : WorkspaceAuditRecord) : Program Desk Raised Unit := do
  update fun desk => { desk with records := desk.records ++ [record] }
  resume (host.record record)

def durationMs : ℚ := max 0 (host.elapsed * 1000)

def recordFailure (operation : WorkspaceOperation) (code : WorkspaceErrorCode) (cleaned : Bool) :
    Program Desk Raised Unit :=
  submit host
    { context := audit
      projectId := project
      operation := operation
      result :=
        if code ∈ [.unsafePath, .sourceDenied, .remoteDenied] then .denied else .failed
      data := { errorCode := some code, durationMs := durationMs host, cleaned := some cleaned } }

/-- `try` with handlers of `Exception` and `CancelledError`. -/
def handled {σ α : Type} (body : Program σ Raised α) (handler : Raised → Program σ Raised α) :
    Program σ Raised α := do
  match ← attempt body with
  | .ok a => pure a
  | .error e => handler e

/-- The lock around a body with its handlers, and its release in the `finally`. -/
def underLock {α : Type} (refused : Raised → Program Desk Raised α) (body : Program Desk Raised α) :
    Program Desk Raised α := do
  match ← attempt (atBase (acquireLock (host.faults .acquireLock) project)) with
  | .error e => refused e
  | .ok _ => do
      let outcome ← attempt body
      atBase (releaseLock (host.faults .releaseLock) project)
      resume outcome

section Cleanup

def removeWorkspace : Program Desk Raised Unit := do
  let _ ← atBase (loadWorkspace (fun site => host.faults (.load site)) project .empty)
  atBase (removeManagedGitDirectory (fun site => host.faults (.gitMetadata site)) project)
  let trash ← atBase (moveToTrash (fun site => host.faults (.trash site)) project host.trashToken)
  atBase (removeOwnedTree host.limits (fun site => host.faults (.remove site)) trash)
  submit host
    { context := audit
      projectId := project
      operation := .cleanup
      result := .succeeded
      data := { durationMs := durationMs host, cleaned := some true } }

def cleanupFailure : Raised → Program Desk Raised Unit
  | .workspace code message => do
      if code = .auditFailed then pure () else recordFailure host project audit .cleanup code false
      raise (.workspace code message)
  | e => raise e

def cleanupWorkspace : Program Desk Raised Unit := do
  validateRequest project audit
  let handler := cleanupFailure host project audit
  underLock host project handler (handled (removeWorkspace host project audit) handler)

end Cleanup

section Provision

def populateStaging (staging : Place Slot Name) : Option Population → Program Desk Raised Unit
  | none => pure ()
  | some population => do
      update fun desk =>
        let filled := desk.disk.alter staging.slot (staging.path ++ [staging.name])
          fun _ => population.entries
        { desk with disk := { filled with
            inodes := fun inode =>
              if inode < desk.disk.fresh then desk.disk.inodes inode else population.files inode } }
      resume population.outcome

def hidePromoted (promoted : Bool) : Program Desk Raised Bool := do
  if promoted = true then
    let trash ← atBase (moveToTrash (fun site => host.faults (.trash site)) project host.trashToken)
    atBase (removeOwnedTree host.limits (fun site => host.faults (.remove site)) trash)
    pure true
  else pure false

/-- The body of `_compensate`. -/
def undo (staging : Option (Place Slot Name)) (promoted : Bool) : Program Desk Raised Bool :=
  match staging with
  | none => hidePromoted host project promoted
  | some place => do
      match ← atBase (ask (host.faults .leftover .stat) (present place)) with
      | some _ => do
          atBase (discardStagingTree (fun site => host.faults (.discard site)) place)
          pure true
      | none => hidePromoted host project promoted

def compensate (staging : Option (Place Slot Name)) (promoted : Bool) : Program Desk Raised Bool :=
  do
  match ← attempt (undo host project staging promoted) with
  | .ok cleaned => pure cleaned
  | .error (.workspace _ _) => pure false
  | .error e => raise e

/-- A provisioning: its desk, and the variables that its handlers read. -/
structure Saga where
  desk : Desk
  staging : Option (Place Slot Name) := none
  promoted : Bool := false

def atDesk {α : Type} (body : Program Desk Raised α) : Program Saga Raised α :=
  within Saga.desk (fun desk saga => { saga with desk := desk }) body

/-- One call of `_provision`. -/
structure Provisioning where
  operation : WorkspaceOperation
  provenance : WorkspaceProvenance
  populate : Option Population

variable (request : Provisioning)

def provisionWorkspace : Program Saga Raised Workspace := do
  let staging ← atDesk (atBase
    (createOperationDirectory (host.faults .staging) .staging project host.stagingToken))
  update fun saga => { saga with staging := some staging }
  atDesk (populateStaging staging request.populate)
  let usage ← atDesk (atBase
    (scanUsage host.limits (fun path => host.faults (.usage path)) staging))
  let root ← atDesk (atBase (promote (fun site => host.faults (.promote site)) project staging))
  update fun saga => { saga with staging := none, promoted := true }
  let workspace ← atDesk (atBase
    (newWorkspace (host.faults .workspace) project root request.provenance))
  atDesk (submit host
    { context := audit
      projectId := project
      operation := request.operation
      result := .succeeded
      data :=
        { provenance := some request.provenance
          durationMs := durationMs host
          entryCount := some usage.entryCount
          totalBytes := some usage.totalBytes } })
  pure workspace

def provisionFailure (staging : Option (Place Slot Name)) (promoted : Bool) :
    Raised → Program Desk Raised Workspace
  | .cancelled => do
      let cleaned ← compensate host project staging promoted
      submit host
        { context := audit
          projectId := project
          operation := request.operation
          result := .cancelled
          data :=
            { errorCode := some .cancelled
              durationMs := durationMs host
              cleaned := some cleaned } }
      raise .cancelled
  | .workspace code message => do
      let cleaned ← compensate host project staging promoted
      if code = .auditFailed then pure ()
      else recordFailure host project audit request.operation code cleaned
      raise (.workspace code message)
  | .fatal => raise .fatal
  | .os _ | .tool _ _ _ | .valueError | .otherError => do
      let cleaned ← compensate host project staging promoted
      recordFailure host project audit request.operation .invalidRequest cleaned
      raise provisioningFailed

/-- The `try` statement of `_provision` once the lock is taken. -/
def provisionHandled : Program Desk Raised Workspace := fun desk =>
  let (outcome, saga) := provisionWorkspace host project audit request ⟨desk, none, false⟩
  match outcome with
  | .ok workspace => (.ok workspace, saga.desk)
  | .error e => provisionFailure host project audit request saga.staging saga.promoted e saga.desk

def provision : Program Desk Raised Workspace := do
  validateRequest project audit
  underLock host project (provisionFailure host project audit request none false)
    (provisionHandled host project audit request)

end Provision

end Manager

end SynapseOS.Workspaces
