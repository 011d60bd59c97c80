import Mathlib.Tactic

/-! Enumerations that several components share (`core/enums.py`). -/

namespace SynapseOS

inductive AuditActorType
  | agent
  | human
  | system
  | worker
  | tool
  | webhook
  deriving DecidableEq, Repr

inductive AuditResult
  | succeeded
  | failed
  | denied
  | cancelled
  deriving DecidableEq, Repr

inductive AgentStatus
  | available
  | assigned
  | working
  | waiting
  | blocked
  | offline
  deriving DecidableEq, Repr

inductive TaskStatus
  | backlog
  | ready
  | assigned
  | inProgress
  | waitingReview
  | changesRequested
  | waitingQa
  | waitingSecurity
  | blocked
  | waitingHuman
  | completed
  | failed
  | cancelled
  deriving DecidableEq, Repr

end SynapseOS
