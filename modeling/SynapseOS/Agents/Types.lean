import SynapseOS.Core.Enums
import SynapseOS.Execution.Json
import SynapseOS.Permissions.Types

/-! What the gates read of an agent (`core/agents/types.py`). -/

namespace SynapseOS.Agents

open Execution Tools

inductive AgentReportOutcome
  | succeeded
  | failed
  | blocked
  | needsHuman
  deriving DecidableEq, Repr

structure AgentReport where
  summary : PyStr
  outcome : AgentReportOutcome
  details : List PyStr
  nextActions : List PyStr

/-- An agent profile; its identifier sets are lists. -/
structure AgentProfile where
  id : Identifier
  role : PyStr
  status : AgentStatus
  autonomyLevel : Nat
  permissionIds : List Identifier
  toolIds : List Identifier

end SynapseOS.Agents
