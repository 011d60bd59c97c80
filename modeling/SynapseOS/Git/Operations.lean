import SynapseOS.Git.GitHub
import SynapseOS.Lib.Program

/-! The operations of the GitHub adapter on one repository, over the answers of its client
(`infrastructure/git/github/provider.py`). -/

namespace SynapseOS.Git

open Execution Tools Program

section Results

structure RemoteRepositoryMetadata where
  defaultBranch : PyStr
  isPrivate : Bool
  archived : Bool
  valid : branchName defaultBranch = true

structure RemoteBranch where
  name : PyStr
  sha : PyStr
  isProtected : Bool := false
  valid : branchName name = true ∧ shaText sha = true

inductive RemoteReviewState
  | approved
  | changesRequested
  | commented
  | dismissed
  | pending
  deriving DecidableEq, Repr

def reviewerName (text : PyStr) : Bool :=
  decide (1 ≤ text.length ∧ text.length ≤ 39) &&
    text.all (fun point => asciiAlphanumeric point || decide (point = 0x2D)) &&
    text.head?.any asciiAlphanumeric && text.getLast?.any asciiAlphanumeric

structure RemoteReview where
  reviewId : Int
  reviewer : PyStr
  state : RemoteReviewState
  commitSha : PyStr
  valid : (1 ≤ reviewId ∧ reviewId ≤ 9223372036854775807) ∧ reviewerName reviewer = true ∧
    shaText commitSha = true

structure RemoteCommitResult where
  branch : RemoteBranch
  previousSha : PyStr
  commitSha : PyStr
  treeSha : PyStr
  valid : (shaText previousSha = true ∧ shaText commitSha = true ∧ shaText treeSha = true) ∧
    branch.sha = commitSha

end Results

section Reading

variable (upper : PyStr → PyStr)

def validated {α : Type} {valid : Prop} [Decidable valid] (make : valid → α) : Except Raised α :=
  if fits : valid then .ok (make fits) else .error .invalid

def repositoryMetadata (value : JsonValue) : Except Raised RemoteRepositoryMetadata := do
  let data ← mapping value
  readResponse do
    let defaultBranch ← stringItem data "default_branch"
    let isPrivate ← boolItem data "private"
    let archived ← boolItem data "archived"
    validated (RemoteRepositoryMetadata.mk defaultBranch isPrivate archived)

def branchFromRef (text : PyStr) : Except Raised PyStr :=
  if (PyStr.ofString "refs/heads/").isPrefixOf text = true then .ok (text.drop 11)
  else .error .invalid

def remoteBranch (name sha : PyStr) : Except Raised RemoteBranch :=
  validated (RemoteBranch.mk name sha false)

def createdBranch (value : JsonValue) : Except Raised RemoteBranch := do
  let data ← mapping value
  readResponse do
    let name ← branchFromRef (← stringItem data "ref")
    let sha ← nestedString data "object" "sha"
    remoteBranch name sha

def reviewState (text : PyStr) : Except Raised RemoteReviewState :=
  match [(PyStr.ofString "APPROVED", RemoteReviewState.approved),
    (.ofString "CHANGES_REQUESTED", .changesRequested),
      (.ofString "COMMENTED", .commented), (.ofString "DISMISSED", .dismissed),
      (.ofString "PENDING", .pending)].find?
      fun entry => decide (entry.1 = normalizedState upper text) with
  | some entry => .ok entry.2
  | none => .error .invalid

def remoteReview (value : JsonValue) : Except Raised RemoteReview := do
  let data ← mapping value
  let reviewId ← integerItem data "id"
  let reviewer ← nestedString data "user" "login"
  let state ← reviewState upper (← stringItem data "state")
  let commitSha ← stringItem data "commit_id"
  validated (RemoteReview.mk reviewId reviewer state commitSha)

def listReviews : JsonValue → Except Raised (List RemoteReview)
  | .list reviews =>
      if 1000 < reviews.length then .error (.remote .resourceLimit)
      else readResponse (reviews.mapM (remoteReview upper))
  | _ => .error (.remote .resourceLimit)

def ownSha (value : JsonValue) : Except Raised PyStr := do stringItem (← mapping value) "sha"

def shaWithin (parent : String) (value : JsonValue) : Except Raised PyStr := do
  nestedString (← mapping value) parent "sha"

end Reading

section Client

/-- What the client answers: a JSON value, or a `RemoteGitError`. -/
inductive Answer
  | value (body : JsonValue)
  | fails (code : RemoteGitErrorCode)

def Answer.reply : Answer → Reply
  | .value body => .value body
  | .fails code => .raises (.remote code)

abbrev Client := Nat → Answer

structure TreeEntry where
  path : PyStr
  sha : PyStr

/-- The requests to the API. Blobs are sent in base64, and no update is forced. -/
inductive GitHubRequest
  | getRepository
  | createRef (branch sha : PyStr)
  | getRef (branch : PyStr)
  | getCommit (sha : PyStr)
  | createBlob (content : PyStr)
  | createTree (baseTree : PyStr) (entries : List TreeEntry)
  | createCommit (message tree : PyStr) (parents : List PyStr)
  | updateRef (branch sha : PyStr)
  | createPull (title head base body : PyStr)
  | getPull (number : Nat)
  | listReviews (number : Nat)
  | listCheckRuns (sha : PyStr)

abbrev Op := Program (List GitHubRequest) Raised

variable (client : Client)

/-- `request_json`, and what is read of the answer. -/
def ask {α : Type} (request : GitHubRequest) (read : JsonValue → Except Raised α) : Op α :=
  fun sent =>
  ((client sent.length).reply.read >>= read, sent ++ [request])

end Client

section Operations

def protectedBranches : List PyStr := [.ofString "main", .ofString "production"]

structure CreateRemoteBranchRequest where
  branch : PyStr
  baseSha : PyStr
  branch_valid : branchName branch = true ∧ branch ∉ protectedBranches
  sha_valid : shaText baseSha = true

structure RemoteFileChange where
  path : PyStr
  content : PyStr

structure RemoteCommitRequest where
  branch : PyStr
  expectedHeadSha : PyStr
  message : PyStr
  changes : List RemoteFileChange
  branch_valid : branchName branch = true ∧ branch ∉ protectedBranches
  sha_valid : shaText expectedHeadSha = true
  changes_bound : 1 ≤ changes.length ∧ changes.length ≤ 100

structure CreateRemotePullRequestRequest where
  headBranch : PyStr
  baseBranch : PyStr
  title : PyStr
  body : PyStr

variable (upper : PyStr → PyStr) (client : Client)

def rejectProtectedBranch (branch : PyStr) : Op Unit :=
  if branch ∈ protectedBranches then raise (.remote .protectedBranch) else pure ()

def getRepository : Op RemoteRepositoryMetadata := ask client .getRepository repositoryMetadata

def createBranch (request : CreateRemoteBranchRequest) : Op RemoteBranch := do
  rejectProtectedBranch request.branch
  ask client (.createRef request.branch request.baseSha) createdBranch

def createBlobs : List RemoteFileChange → Op (List TreeEntry)
  | [] => pure []
  | change :: rest => do
      let sha ← ask client (.createBlob change.content) ownSha
      let entries ← createBlobs rest
      pure (⟨change.path, sha⟩ :: entries)

def commitAndPush (request : RemoteCommitRequest) : Op RemoteCommitResult := do
  rejectProtectedBranch request.branch
  let currentHeadSha ← ask client (.getRef request.branch) (shaWithin "object")
  if currentHeadSha ≠ request.expectedHeadSha then raise (.remote .staleState)
  else
    let parentTreeSha ← ask client (.getCommit request.expectedHeadSha) (shaWithin "tree")
    let entries ← createBlobs client request.changes
    let treeSha ← ask client (.createTree parentTreeSha entries) ownSha
    let commitSha ← ask client (.createCommit request.message treeSha
      [request.expectedHeadSha]) ownSha
    let updatedSha ← ask client (.updateRef request.branch commitSha) (shaWithin "object")
    let branch ← resume (remoteBranch request.branch updatedSha)
    if branch.sha ≠ commitSha then raise (.remote .staleState)
    else resume (validated (RemoteCommitResult.mk branch request.expectedHeadSha commitSha treeSha))

def createPullRequest (request : CreateRemotePullRequestRequest) : Op RemotePullRequest :=
  ask client (.createPull request.title request.headBranch request.baseBranch request.body)
    fun value => do
    pullRequest upper (← mapping value)

def getPullRequest (number : Nat) : Op RemotePullRequest :=
  ask client (.getPull number) fun value => do pullRequest upper (← mapping value)

def getReviews (number : Nat) : Op (List RemoteReview) := ask client (.listReviews number)
    (listReviews upper)

def getChecks (headSha : PyStr) : Op (List RemoteCheck) := ask client (.listCheckRuns headSha)
    (listChecks upper)

end Operations

section Port

/-- The gate and the audit sink of a merge. The gate raises nothing that the adapter does not
handle, and the sink raises `Exception`s only. -/
structure MergeSurroundings where
  configured : Bool
  gate : GateReply
  sink : Nat → SinkReaction
  gate_civil : gate ≠ .raises .other
  sink_civil : ∀ index, (sink index).raised ≠ some .interrupt

def MergeSurroundings.world (surroundings : MergeSurroundings) (upper : PyStr → PyStr)
    (client : Client) : MergeWorld where
  configured := surroundings.configured
  pull := (client 0).reply
  gate := surroundings.gate
  checks := (client 1).reply
  merge := (client 2).reply
  applied := false
  sink := surroundings.sink
  upper := upper

inductive Operation
  | getRepository
  | createBranch (request : CreateRemoteBranchRequest)
  | commitAndPush (request : RemoteCommitRequest)
  | createPullRequest (request : CreateRemotePullRequestRequest)
  | getPullRequest (number : Nat)
  | listReviews (number : Nat)
  | listChecks (headSha : PyStr)
  | mergePullRequest (surroundings : MergeSurroundings) (request : RemoteMergeRequest)
      (numbered : 1 ≤ request.number ∧ request.number ≤ 2147483647)

inductive Outcome
  | repository (metadata : RemoteRepositoryMetadata)
  | branch (branch : RemoteBranch)
  | commit (result : RemoteCommitResult)
  | pullRequest (pull : RemotePullRequest)
  | reviews (reviews : List RemoteReview)
  | checks (checks : List RemoteCheck)
  | merge (result : RemoteMergeResult)

def Operation.run (upper : PyStr → PyStr) (client : Client) : Operation → Except Raised Outcome
  | .getRepository => (Git.getRepository client []).1.map .repository
  | .createBranch request => (Git.createBranch client request []).1.map .branch
  | .commitAndPush request => (Git.commitAndPush client request []).1.map .commit
  | .createPullRequest request => (Git.createPullRequest upper client request []).1.map .pullRequest
  | .getPullRequest number => (Git.getPullRequest upper client number []).1.map .pullRequest
  | .listReviews number => (getReviews upper client number []).1.map .reviews
  | .listChecks headSha => (getChecks upper client headSha []).1.map .checks
  | .mergePullRequest surroundings request _ =>
      (Git.mergePullRequest (surroundings.world upper client) request).result.map .merge

end Port

end SynapseOS.Git
