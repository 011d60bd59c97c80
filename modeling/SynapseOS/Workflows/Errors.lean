import SynapseOS.Core.Enums

/-! What the workflows raise (`core/workflows/errors.py`, `qa_errors.py`, `security_errors.py`). -/

namespace SynapseOS.Workflows

inductive WorkflowErrorCode
  | invalidInput
  | invalidScope
  | invalidState
  | invalidRole
  | invalidAgent
  | unsafeHandoff
  | timeout
  | collaboratorFailure
  | persistenceFailure
  | internalFailure
  deriving DecidableEq, Repr

/-- `QAWorkflowErrorCode` and `SecurityWorkflowErrorCode`. -/
inductive StageErrorCode
  | invalidInput
  | invalidScope
  | invalidState
  | invalidRole
  | invalidAgent
  | timeout
  | collaboratorFailure
  | persistenceFailure
  | concurrentModification
  | internalFailure
  deriving DecidableEq, Repr

/-- The two stages after the review. -/
inductive Stage
  | qa
  | security
  deriving DecidableEq, Repr

inductive Exn
  | workflow (code : WorkflowErrorCode)
  /-- `QAWorkflowError` and `SecurityWorkflowError`. -/
  | stage (stage : Stage) (code : StageErrorCode)
  | invalidTransition (current target : TaskStatus)
  | transitionValidation
  | unauthorizedStatusChange (current target : TaskStatus)
  | sqlalchemy (timedOut : Bool)
  | timeout
  /-- Any other subclass of `Exception`. -/
  | other
  /-- `CancelledError`, with whether the deadline of the run sent it and nobody else. -/
  | cancelled (expired : Bool)
  /-- Anything else that is no subclass of `Exception`. -/
  | interrupt
  deriving DecidableEq, Repr

def Exn.isException : Exn → Bool
  | .cancelled _ | .interrupt => false
  | _ => true

end SynapseOS.Workflows
