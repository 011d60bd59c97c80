import SynapseOS.Git.GitHub
import SynapseOS.PullRequests.Evidence

/-! What the merge gate authorizes and what is merged (`merge_pull_request` over
`SQLAlchemyMergeGate`). -/

namespace SynapseOS.Git

open Execution PullRequests Tools

structure RepositoryCoordinates where
  owner : PyStr
  repository : PyStr
  deriving DecidableEq

/-- A `RemoteMergeRequest` with its repository and the coordinates of the gate. -/
structure GatedMergeRequest extends RemoteMergeRequest where
  repository : RepositoryCoordinates
  pullRequestId : UUID
  expectedTaskId : UUID
  gitEvidenceEventId : UUID

structure MergeCall where
  repository : RepositoryCoordinates
  number : Nat
  sha : PyStr
  deriving DecidableEq

structure Origin where
  baseBranch : PyStr
  repository : RepositoryCoordinates

section Authorization

variable (world : MergeWorld) (store : GateStore) (request : GatedMergeRequest)

def gatedWorld : MergeWorld :=
  { world with
    gate := if (store.evaluate request.pullRequestId request.expectedTaskId
      request.gitEvidenceEventId).decision = .pass then .pass else .block }

def mergeCall : Option MergeCall :=
  if (mergePullRequest (gatedWorld world store request) request.toRemoteMergeRequest).sent = true
    then
    some ⟨request.repository, request.number, request.expectedHeadSha⟩
  else none

def remotePull : Except Raised RemotePullRequest := do
  pullRequest world.upper (← mapping (← world.pull.read))

def storedPull : Option PullRequestRow :=
  store.pullRequests.find? fun row => decide (row.id = request.pullRequestId)

variable (origin : UUID → Origin)

/-- The gate has passed for the stored pull request, and that is what is merged. -/
structure Authorized (call : MergeCall) : Prop where
  passed : (store.evaluate request.pullRequestId request.expectedTaskId
    request.gitEvidenceEventId).decision = .pass
  merged : ∃ pull remote, storedPull store request = some pull ∧ remotePull world = .ok remote ∧
    pull.headSha = call.sha ∧ (origin pull.id).baseBranch = remote.baseBranch ∧
    (origin pull.id).repository = call.repository

/-- The request names the head and the repository of the stored pull request, and the remote one has
its base branch. -/
def Bound : Prop :=
  ∀ pull remote, storedPull store request = some pull → remotePull world = .ok remote →
    pull.headSha = request.expectedHeadSha ∧ (origin pull.id).baseBranch = remote.baseBranch ∧
      (origin pull.id).repository = request.repository

variable {world store request}

/-- What has held when the merge is sent. -/
theorem prepareMerge_passed (prepared : prepareMerge (gatedWorld world store request)
    request.toRemoteMergeRequest = .ok ()) :
    (store.evaluate request.pullRequestId request.expectedTaskId
        request.gitEvidenceEventId).decision = .pass ∧
      ∃ remote, remotePull world = .ok remote ∧ remote.headSha = request.expectedHeadSha := by
  obtain ⟨body, replied, rest⟩ := bind_ok prepared
  obtain ⟨data, mapped, rest⟩ := bind_ok rest
  obtain ⟨remote, read, rest⟩ := bind_ok rest
  dsimp only at rest
  have pulled : remotePull world = .ok remote := by
    unfold remotePull
    rw [show world.pull.read = .ok body from replied]
    change (mapping body >>= fun data => pullRequest world.upper data) = _
    rw [mapped]
    exact read
  have head : remote.headSha = request.expectedHeadSha := by
    by_contra other
    rw [if_pos other] at rest
    cases rest
  refine ⟨?_, remote, pulled, head⟩
  rw [if_neg (not_not.mpr head)] at rest
  by_contra blocked
  have gate : (gatedWorld world store request).gate = .block := if_neg blocked
  rw [gate] at rest
  cases rest

theorem mergeCall_some {call : MergeCall} : mergeCall world store request = some call ↔
    Sends (gatedWorld world store request) request.toRemoteMergeRequest ∧
      call = ⟨request.repository, request.number, request.expectedHeadSha⟩ := by
  unfold mergeCall
  by_cases sends : Sends (gatedWorld world store request) request.toRemoteMergeRequest
  · rw [if_pos (merge_sent _ _ sends).1]
    constructor
    · intro same
      exact ⟨sends, (Option.some.inj same).symm⟩
    · rintro ⟨_, rfl⟩
      rfl
  · rw [if_neg (by rw [(merge_unsent _ _ sends).1]; exact Bool.noConfusion)]
    constructor
    · intro none_
      cases none_
    · exact fun both => absurd both.1 sends

/-- What is merged is authorized exactly if each request that reaches the merge is bound to the
stored pull request. -/
theorem merge_authorized (world : MergeWorld) (store : GateStore) (request : GatedMergeRequest)
    (origin : UUID → Origin) :
    (∀ call, mergeCall world store request = some call →
        Authorized world store request origin call) ↔
      (Sends (gatedWorld world store request) request.toRemoteMergeRequest →
        Bound world store request origin) := by
  constructor
  · intro authorized sends pull remote stored read
    have held := authorized _ (mergeCall_some.mpr ⟨sends, rfl⟩)
    obtain ⟨own, other, found, seen, head, base, repository⟩ := held.merged
    rw [stored] at found
    rw [read] at seen
    cases found
    cases seen
    exact ⟨head, base, repository⟩
  · intro bound call sent
    obtain ⟨sends, rfl⟩ := mergeCall_some.mp sent
    obtain ⟨passed, remote, read, _⟩ := prepareMerge_passed sends.2.2
    obtain ⟨pull, stored, _⟩ := evaluate_pass passed
    obtain ⟨head, base, repository⟩ := bound sends pull remote stored read
    exact ⟨passed, pull, remote, stored, read, head, base, repository⟩

end Authorization

section Sample

def otherSha : String := "bbbbbbbbbbbbbbbbbbbbbbbbbbbbbbbbbbbbbbbb"

def otherWorld : MergeWorld :=
  { sampleWorld (.value (.dict [("merged", .boolean true), ("sha", .string otherSha),
      ("message", .string "Merged")])) true with
    pull := .value
      (.dict [("number", .integer 7), ("state", .string "OPEN"), ("title", .string "Ship"),
      ("head", .dict [("ref", .string "feature"), ("sha", .string otherSha)]),
      ("base", .dict [("ref", .string "main")]), ("mergeable", .boolean true)])
    checks := .value (.dict [("check_runs", .list [.dict [("name", .string "tests"),
      ("status", .string "COMPLETED"), ("conclusion", .string "SUCCESS"),
      ("head_sha", .string otherSha)]])]) }

def otherRequest : GatedMergeRequest :=
  ⟨⟨7, .ofString otherSha⟩, ⟨.ofString "acme", .ofString "widget"⟩, 1, 3, 24⟩

/-- The gate passes for the head of one pull request, and another head is merged. -/
theorem other_head_merged :
    ¬ ∀ (world : MergeWorld) (store : GateStore) (request : GatedMergeRequest)
    (origin : UUID → Origin) (call : MergeCall), mergeCall world store request = some call →
      Authorized world store request origin call := by
  intro claimed
  have gate : gatedWorld otherWorld PullRequests.sampleStore otherRequest = otherWorld := by
    have passes : (PullRequests.sampleStore.evaluate otherRequest.pullRequestId
        otherRequest.expectedTaskId otherRequest.gitEvidenceEventId).decision = .pass :=
      PullRequests.sample_passes
    unfold gatedWorld
    rw [if_pos passes]
    rfl
  have prepared : prepareMerge otherWorld otherRequest.toRemoteMergeRequest = .ok () := by
    decide
  have sends : Sends (gatedWorld otherWorld PullRequests.sampleStore otherRequest)
      otherRequest.toRemoteMergeRequest := by
    rw [gate]
    exact ⟨rfl, rfl, prepared⟩
  have authorized := claimed otherWorld PullRequests.sampleStore otherRequest
    (fun _ => ⟨.ofString "main", otherRequest.repository⟩) _ (mergeCall_some.mpr ⟨sends, rfl⟩)
  obtain ⟨pull, _, stored, _, head, _⟩ := authorized.merged
  have own : storedPull PullRequests.sampleStore otherRequest = some PullRequests.samplePull := rfl
  rw [own] at stored
  cases stored
  exact absurd head (by decide)

end Sample

end SynapseOS.Git
