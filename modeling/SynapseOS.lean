import SynapseOS.Lib.Dict
import SynapseOS.Lib.Transition
import SynapseOS.Queue.Types
import SynapseOS.Queue.InMemory
import SynapseOS.Queue.Effects
import SynapseOS.Lib.LockTable
import SynapseOS.Queue.Exclusion
import SynapseOS.Queue.Lifecycle
import SynapseOS.Queue.Registry
import SynapseOS.Lib.Tally
import SynapseOS.Queue.Refinement
import SynapseOS.Queue.Attempts
import SynapseOS.Queue.Terminal
import SynapseOS.Queue.Cancellation
import SynapseOS.Queue.Progress
import SynapseOS.Lib.Program
import SynapseOS.Runtime.Stagnation
import SynapseOS.Runtime.Runtime
import SynapseOS.Runtime.Protocol
import SynapseOS.Runtime.Simulation
import SynapseOS.Runtime.Invariants
import SynapseOS.Runtime.Runs
import SynapseOS.Lib.Trace
import SynapseOS.Runtime.Budgets
import SynapseOS.Runtime.Accounting
import SynapseOS.Runtime.Bounds
import SynapseOS.Runtime.FailClosed
import SynapseOS.Runtime.AuditTrace
import SynapseOS.Permissions.Types
import SynapseOS.Permissions.Engine
import SynapseOS.Execution.Executor
import SynapseOS.Execution.Exits
import SynapseOS.Execution.Transaction
import SynapseOS.Execution.Sample
import SynapseOS.Execution.Audit
import SynapseOS.Execution.Admission
import SynapseOS.Lib.FileSystem
import SynapseOS.Mutations.Failure
import SynapseOS.Mutations.Recovery
import SynapseOS.Mutations.Transaction
import SynapseOS.Lib.Walk
import SynapseOS.Workspaces.Compensation
import SynapseOS.Workspaces.CrashSafety
import SynapseOS.Lib.LinkedTree
import SynapseOS.Workspaces.Containment
import SynapseOS.Tasks.Acceptance
import SynapseOS.QA.Gate
import SynapseOS.Reviewer.Gate
import SynapseOS.Reviewer.Honesty
import SynapseOS.Security.Gate
import SynapseOS.Git.GitHub
import SynapseOS.PullRequests.Evidence
import SynapseOS.LocalGit.Interleaving
import SynapseOS.LocalGit.Preparation
import SynapseOS.Workflows.Checkpoint
import SynapseOS.Budgets.Ceilings
import SynapseOS.Scheduling.Assignments
import SynapseOS.Workflows.Handoff
import SynapseOS.Git.Authorization
import SynapseOS.Git.Checks
import SynapseOS.Commands.Policy
import SynapseOS.LocalGit.Audited
import SynapseOS.LocalGit.Numstat
import SynapseOS.LocalGit.StatusFormat
import SynapseOS.LocalGit.BoundedReads
import SynapseOS.Workflows.StageVisits
import SynapseOS.Workflows.Restored
import SynapseOS.CapabilityRouter.Router
import SynapseOS.Security.ScannerIds
import SynapseOS.EngineeringV1.Stages
import SynapseOS.Memory.Chains
import SynapseOS.Security.Noninterference
import SynapseOS.Mutations.Patching
import SynapseOS.Mutations.Diffs
import SynapseOS.Scheduling.Unassigned
import SynapseOS.Security.LineNumbers
import SynapseOS.Security.Disclosure
import SynapseOS.Security.ScannerItems
import SynapseOS.Developer.ChangedFiles
import SynapseOS.Git.Responses
import SynapseOS.Queue.Admission
import SynapseOS.Queue.Shutdown
import SynapseOS.Domains.Workstreams
import SynapseOS.Permissions.Policy
import SynapseOS.CapabilityRouter.Plans
import SynapseOS.AgentRegistry.Ranking
import SynapseOS.TrainingDataset.RecordIds
import SynapseOS.Scoring.ReputationLaws
import SynapseOS.FilesystemTools.Limits
import SynapseOS.Streams.Readers
import SynapseOS.Runtime.StagnationRuns
