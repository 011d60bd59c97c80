import SynapseOS.LocalGit.Provider

/-! The preparation of a pull request and its later validation (`infrastructure/git/local.py`,
`core/git_workflow/workflow.py`). -/

namespace SynapseOS.LocalGit

open Execution Program

inductive MergeDecision
  | pass
  | block
  deriving DecidableEq, Repr

structure MergeValidationResult where
  decision : MergeDecision
  reasonCodes : List MergeReasonCode
  deriving DecidableEq

def mergeReasonCodes : List MergeReasonCode :=
  [.invalidScope, .stalePreparation, .protectedHead, .unprotectedBase, .dirtyRepository,
    .operationInProgress, .baseNotAncestor, .mergeCommitPresent, .authorIsReviewer,
    .reviewNotApproved, .qaNotPassed, .securityNotPassed, .checksNotPassed]

/-- `tuple(reason for reason in MergeReasonCode if reason in reasons)`. -/
def ordered (reasons : List MergeReasonCode) : List MergeReasonCode :=
  mergeReasonCodes.filter fun reason => decide (reason ∈ reasons)

def commitCountOf (text : PyStr) : Except Raised Int :=
  match integer text with
  | some count => .ok count
  | none => .error (failure .gitFailed)

def preparableHead (request : PreparePullRequestRequest) (status : GitRepositoryStatus) :
    Except Raised (PyStr × PyStr) :=
  if status.detached = true ∨ status.clean = false ∨ status.operationInProgress = true then
    .error (failure .invalidState)
  else do
    let branch ← request.expectedBranch
    match status.headSha with
    | some head => if status.branch = some branch
        then .ok (branch, head) else .error (failure .invalidState)
    | none => .error (failure .invalidState)

section Operations

variable {R : Type} (machine : Machine R) (limits : GitProcessLimits)
  (checksum : PreparationPayload → PyStr) (timeout : ℚ)

/-- `prepare_pull_request`; the checksum is `calculated_checksum` of a preparation's other
fields. -/
def preparePullRequest (root : PyStr) (context : GitWorkflowContext)
    (request : PreparePullRequestRequest) : GitProgram R PullRequestPreparation := do
  requireRepository machine
  if context.workspaceRoot ≠ root ∨ context.taskId ≠ request.taskId
    then raise (failure .invalidRequest)
  else if isProtectedBranch request.baseBranch.text = false then raise (failure .protectedBranch)
  else do
    let base := request.baseBranch
    let (branch, head) ← resume (preparableHead request (← status machine limits timeout))
    let ancestor ← run machine timeout (ancestorArguments base) limits.stderrBytes [0, 1]
    if ancestor.exitCode ≠ 0 then raise (failure .staleState)
    else do
      let baseSha ← readScalar machine limits timeout (baseArguments base)
      let count ← resume (commitCountOf (← readScalar machine limits timeout (countArguments base)))
      if ¬ (1 ≤ count ∧ count ≤ 100) then raise (failure .invalidState)
      else do
        let merges ← run machine timeout (mergesArguments base) limits.historyBytes [0]
        if merges.stdout.truncated = true then raise (failure .resourceLimit)
        else if merges.stdout.content.size ≠ 0 then raise (failure .invalidState)
        else do
          let history ← run machine timeout (logArguments base count) limits.historyBytes [0]
          if history.stdout.truncated = true then raise (failure .resourceLimit)
          else do
            let commits ← resume (decode history.stdout.content >>= parseHistory machine.aware)
            if (commits.length : Int) ≠ count then raise (failure .resourceLimit)
            else do
              let complete ← diff machine limits timeout (.base base) []
              if complete.truncated = true then raise (failure .resourceLimit)
              else do
                let paths ← run machine timeout (namesArguments base) limits.diffBytes [0]
                let numstat ← run machine timeout (numstatArguments base) limits.diffBytes [0]
                if paths.stdout.truncated = true ∨ numstat.stdout.truncated = true then
                  raise (failure .resourceLimit)
                else do
                  let changedPaths ← resume (parsePaths paths.stdout.content)
                  if changedPaths = [] ∨ limits.maximumPaths < changedPaths.length then
                    raise (failure .resourceLimit)
                  else do
                    let resolved ← resolvePaths machine changedPaths
                    if resolved ≠ changedPaths then raise (failure .unsafePath)
                    else do
                      let (insertions, deletions) ←
                        resume (parseNumstat numstat.stdout.content changedPaths)
                      let payload : PreparationPayload :=
                        { projectId := context.projectId
                          taskId := context.taskId
                          correlationId := context.correlationId
                          baseBranch := base
                          baseSha := baseSha
                          headBranch := branch
                          headSha := some head
                          title := request.title
                          summary := request.summary
                          changedPaths := changedPaths
                          insertions := insertions
                          deletions := deletions
                          commitCount := count
                          authorLogicalId := context.actorLogicalId }
                      if payload.check = true then pure ⟨payload, checksum payload⟩
                      else raise .invalid

def statusReasons (payload : PreparationPayload) (status : GitRepositoryStatus) :
    List MergeReasonCode :=
  itemIf (!isProtectedBranch payload.baseBranch.text) .unprotectedBase ++
    itemIf (isProtectedBranch payload.headBranch) .protectedHead ++
    itemIf (!status.clean) .dirtyRepository ++
    itemIf status.operationInProgress .operationInProgress ++
    itemIf (decide (status.branch ≠ some payload.headBranch ∨ status.headSha ≠ payload.headSha))
      .stalePreparation

def endsValidation (reason : MergeReasonCode) : Bool :=
  [MergeReasonCode.protectedHead, .unprotectedBase, .dirtyRepository,
    .operationInProgress].contains reason

def validateRepositoryState (preparation : PullRequestPreparation) :
    GitProgram R (List MergeReasonCode) := do
  requireRepository machine
  let payload := preparation.payload
  let base := payload.baseBranch
  let status ← status machine limits timeout
  let early := statusReasons payload status
  if early.any endsValidation = true then pure (ordered early)
  else do
    let baseSha ← readScalar machine limits timeout (baseArguments base)
    let ancestor ← run machine timeout (ancestorArguments base) limits.stderrBytes [0, 1]
    let merges ← run machine timeout (mergesArguments base) limits.historyBytes [0]
    let reasons := early ++ itemIf (decide (baseSha ≠ payload.baseSha)) .stalePreparation ++
      itemIf (decide (ancestor.exitCode ≠ 0)) .baseNotAncestor ++
      if merges.stdout.truncated = true then [.stalePreparation]
      else itemIf (decide (merges.stdout.content.size ≠ 0)) .mergeCommitPresent
    if reasons ≠ [] then pure (ordered reasons)
    else do
      let complete ← diff machine limits timeout (.base base) []
      if complete.truncated = true then pure [.stalePreparation]
      else do
        let history ← run machine timeout (logArguments base
          payload.commitCount) limits.historyBytes [0]
        if history.stdout.truncated = true then pure [.stalePreparation]
        else do
          let commits ← resume (decode history.stdout.content >>= parseHistory machine.aware)
          let counted := itemIf (decide ((commits.length : Int) ≠ payload.commitCount))
            MergeReasonCode.stalePreparation
          let count ← resume (commitCountOf
            (← readScalar machine limits timeout (countArguments base)))
          let paths ← run machine timeout (namesArguments base) limits.diffBytes [0]
          let numstat ← run machine timeout (numstatArguments base) limits.diffBytes [0]
          if paths.stdout.truncated = true ∨ numstat.stdout.truncated = true then
            pure (ordered (.stalePreparation :: counted))
          else do
            let changedPaths ← resume (parsePaths paths.stdout.content)
            let (insertions, deletions) ← resume (parseNumstat numstat.stdout.content changedPaths)
            let current : PreparationPayload :=
              { payload with
                baseSha := baseSha
                headSha := status.headSha
                changedPaths := changedPaths
                insertions := insertions
                deletions := deletions
                commitCount := count }
            pure (ordered (counted ++
              itemIf (decide (checksum current ≠ preparation.checksum)) .stalePreparation))

end Operations

def evidenceReasons (checksum : PreparationPayload → PyStr) (context : GitWorkflowContext)
    (request : ValidateMergeRequirementsRequest) : List MergeReasonCode :=
  let payload := request.preparation.payload
  let evidence := request.reviewer :: request.qa :: request.security :: request.checks
  let lacking (item : GitEvidenceReference) : Bool := decide (item.status ≠ .pass) || item.truncated
  ordered (
    itemIf (decide (payload.projectId ≠ context.projectId ∨ payload.taskId ≠ context.taskId ∨
      payload.correlationId ≠ context.correlationId)) .invalidScope ++
    itemIf (decide (checksum payload ≠ request.preparation.checksum)) .stalePreparation ++
    itemIf (evidence.any fun item => decide (item.projectId ≠ payload.projectId ∨
      item.taskId ≠ payload.taskId ∨ item.correlationId ≠ payload.correlationId ∨
      some item.headSha ≠ payload.headSha)) .invalidScope ++
    itemIf (decide (request.reviewer.actorLogicalId = payload.authorLogicalId)) .authorIsReviewer ++
    itemIf (lacking request.reviewer) .reviewNotApproved ++
    itemIf (lacking request.qa) .qaNotPassed ++
    itemIf (lacking request.security) .securityNotPassed ++
    itemIf (request.checks.any lacking) .checksNotPassed)

def validateMergeRequirements {R : Type} (machine : Machine R) (limits : GitProcessLimits)
    (checksum : PreparationPayload → PyStr) (timeout : ℚ) (context : GitWorkflowContext)
    (request : ValidateMergeRequirementsRequest) : GitProgram R MergeValidationResult := do
  let repository ← validateRepositoryState machine limits checksum timeout request.preparation
  let reasons := ordered (evidenceReasons checksum context request ++ repository)
  pure ⟨if reasons = [] then .pass else .block, reasons⟩

end SynapseOS.LocalGit
