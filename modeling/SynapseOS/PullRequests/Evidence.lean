import SynapseOS.PullRequests.Gate

/-! What a passed merge gate was shown, and what a later objection does. -/

namespace SynapseOS.PullRequests

open Execution Tools

section Pure

theorem resultOf_reasons {reasons : List MergeGateReason} :
    (resultOf reasons).reasons = allReasons.filter fun reason => reasons.contains reason := by
  dsimp only [resultOf]
  split
  · next empty => exact empty.symm
  · rfl

theorem pass_iff_none (result : MergeGateResult) :
    result.decision = .pass ↔ result.reasons = [] := by
  have blocked := result.consistent
  cases decision : result.decision with
  | pass =>
      rw [decision] at blocked
      exact ⟨fun _ => by_contra fun some_ => absurd (blocked.mpr some_) (by decide), fun _ => rfl⟩
  | block => exact ⟨fun wrong => (by cases wrong), fun none_ => absurd none_ (blocked.mp decision)⟩

theorem block_iff {result : MergeGateResult} :
    result.decision = .block ↔ result.decision ≠ .pass := by
  cases result.decision <;> decide

theorem resultOf_pass {reasons : List MergeGateReason} :
    (resultOf reasons).decision = .pass ↔ reasons = [] := by
  rw [pass_iff_none, resultOf_reasons, List.filter_eq_nil_iff, List.eq_nil_iff_forall_not_mem]
  simp [mem_allReasons]

theorem reasonsIf_nil {condition : Bool} {reasons : List MergeGateReason} (named : reasons ≠ []) :
    reasonsIf condition reasons = [] ↔ condition = false := by
  unfold reasonsIf
  cases condition <;> simp [named]

/-- What the pure gate demands of its evidence. -/
structure MergeGateRequest.Holds (request : MergeGateRequest) (review : PullRequestReviewEvidence)
    (approval : ApprovalKind → ApprovalEvidence) : Prop where
  task : request.expectedTaskId = request.candidate.taskId
  reviewed : request.review = some review
  otherReviewer : review.reviewerAgentId ≠ request.candidate.authorAgentId
  reviewerRole : review.reviewerRole = .ofString "Reviewer"
  reviewDecision : review.decision = .approved
  reviewFresh : review.headSha = request.candidate.headSha ∧
    review.correlationId = request.candidate.correlationId
  mergeable : request.branchMergeable = true
  tested : request.tests ≠ []
  testsPassed : ∀ test ∈ request.tests, test.passed = true ∧ test.truncated = false ∧
    test.headSha = request.candidate.headSha
  given : ∀ kind, approval kind ∈ request.approvals
  ofKind : ∀ kind, (approval kind).kind = kind
  decision : ∀ kind, (approval kind).decision = .approved
  role : ∀ kind, (approval kind).approverRole = kind.role
  fresh : ∀ kind, (approval kind).headSha = request.candidate.headSha ∧
    (approval kind).correlationId = request.candidate.correlationId
  sameReviewer : (approval .reviewer).approverAgentId = review.reviewerAgentId
  otherApprover : ∀ kind, (approval kind).approverAgentId ≠ request.candidate.authorAgentId
  apart : request.approvers.Nodup

variable {request : MergeGateRequest}

theorem approvalOf_spec {kind : ApprovalKind} {approval : ApprovalEvidence}
    (found : request.approvalOf kind = some approval) :
    approval ∈ request.approvals ∧ approval.kind = kind := by
  unfold MergeGateRequest.approvalOf at found
  exact ⟨List.mem_of_find?_eq_some found, by simpa using List.find?_some found⟩

theorem approved_spec {kind : ApprovalKind} (approved : request.approved kind = true) :
    ∃ approval ∈ request.approvals, approval.kind = kind ∧ approval.decision = .approved := by
  unfold MergeGateRequest.approved at approved
  rw [Option.any_eq_true] at approved
  obtain ⟨approval, found, positive⟩ := approved
  obtain ⟨among, own⟩ := approvalOf_spec found
  exact ⟨approval, among, own, of_decide_eq_true positive⟩

theorem reviewerApproved_spec (approved : request.reviewerApproved = true) :
    ∃ approval ∈ request.approvals, approval.kind = .reviewer ∧ approval.decision = .approved ∧
      ∃ review, request.review = some review ∧
      approval.approverAgentId = review.reviewerAgentId := by
  unfold MergeGateRequest.reviewerApproved at approved
  rw [Option.any_eq_true] at approved
  obtain ⟨approval, found, positive⟩ := approved
  rw [Bool.and_eq_true, decide_eq_true_eq, Option.any_eq_true] at positive
  obtain ⟨decision, review, reviewed, same⟩ := positive
  obtain ⟨among, own⟩ := approvalOf_spec found
  exact ⟨approval, among, own, decision, review, reviewed, of_decide_eq_true same⟩

theorem fresh_spec (fresh : request.stale = false) :
    (∀ approval ∈ request.approvals, approval.headSha = request.candidate.headSha ∧
      approval.correlationId = request.candidate.correlationId) ∧
      (∀ test ∈ request.tests, test.headSha = request.candidate.headSha) ∧
      ∀ review, request.review = some review → review.headSha = request.candidate.headSha ∧
        review.correlationId = request.candidate.correlationId := by
  simp only [MergeGateRequest.stale, Bool.or_eq_false_iff, List.any_eq_false, Option.any_eq_false,
    decide_eq_true_eq, decide_eq_false_iff_not, ne_eq, not_or, Decidable.not_not] at fresh
  exact ⟨fresh.1.1, fresh.1.2, fresh.2⟩

def ofEach {α : Type} (reviewer qa security : α) : ApprovalKind → α
  | .reviewer => reviewer
  | .qa => qa
  | .security => security

theorem gateReasons_nil (none_ : gateReasons request = []) :
    ∃ review approval, request.Holds review approval := by
  simp only [gateReasons, List.append_eq_nil_iff, ne_eq, reasonsIf_nil, List.cons_ne_nil,
    not_false_eq_true, Bool.or_eq_false_iff, Bool.not_eq_false', decide_eq_false_iff_not,
    decide_eq_true_eq, Decidable.not_not, List.any_eq_false, Option.any_eq_false] at none_
  obtain ⟨⟨⟨⟨⟨⟨⟨⟨⟨⟨⟨⟨task, _⟩, other⟩, role⟩, decision⟩, mergeable⟩, tested, passed⟩, byReviewer⟩,
    byQa⟩, bySecurity⟩, roles⟩, fresh⟩, author, apart⟩ := none_
  obtain ⟨first, firstGiven, firstKind, firstDecision, review, reviewed, same⟩ :=
    reviewerApproved_spec byReviewer
  obtain ⟨second, secondGiven, secondKind, secondDecision⟩ := approved_spec byQa
  obtain ⟨third, thirdGiven, thirdKind, thirdDecision⟩ := approved_spec bySecurity
  obtain ⟨freshApprovals, freshTests, freshReview⟩ := fresh_spec fresh
  let approval := ofEach first second third
  have given : ∀ kind, approval kind ∈ request.approvals := by
    intro kind
    cases kind with
    | reviewer => exact firstGiven
    | qa => exact secondGiven
    | security => exact thirdGiven
  have ofKind : ∀ kind, (approval kind).kind = kind := by
    intro kind
    cases kind with
    | reviewer => exact firstKind
    | qa => exact secondKind
    | security => exact thirdKind
  refine ⟨review, approval, {
    task, reviewed, mergeable, tested, given, ofKind, apart
    otherReviewer := other review reviewed
    reviewerRole := role review reviewed
    reviewDecision := decision review reviewed
    reviewFresh := freshReview review reviewed
    testsPassed := fun test among => ?_
    decision := fun kind => ?_
    role := fun kind => ?_
    fresh := fun kind => freshApprovals _ (given kind)
    sameReviewer := same
    otherApprover := fun kind wrong => ?_ }⟩
  · have held := passed test among
    simp only [Bool.not_eq_true, Bool.or_eq_false_iff, Bool.not_eq_false'] at held
    exact ⟨held.1, held.2, freshTests test among⟩
  · cases kind with
    | reviewer => exact firstDecision
    | qa => exact secondDecision
    | security => exact thirdDecision
  · have held := roles _ (given kind)
    rwa [ofKind kind] at held
  · have contained : request.approvers.contains request.candidate.authorAgentId = true := by
      rw [List.contains_iff_mem, ← wrong]
      exact List.mem_map_of_mem (given kind)
    rw [contained] at author
    cases author

theorem mergeGate_pass (passed : (mergeGate request).decision = .pass) :
    ∃ review approval, request.Holds review approval := by
  unfold mergeGate at passed
  split at passed
  · cases passed
  · exact gateReasons_nil (resultOf_pass.mp passed)

end Pure

section Latest

/-- One of the chosen rows, and none of them ranks above it. -/
structure Latest {α : Type} (rank : α → Nat ×ₗ Nat) (rows : List α) (chosen : α → Prop) (row : α) :
    Prop where
  among : row ∈ rows
  own : chosen row
  newest : ∀ other ∈ rows, chosen other → rank other ≤ rank row

theorem Latest.added {α : Type} {rank : α → Nat ×ₗ Nat} {rows : List α} {chosen : α → Prop}
    {row added : α} (latest : Latest rank (rows ++ [added]) chosen row) (own : chosen added)
    (later : ∀ other ∈ rows, chosen other → rank other < rank added) : row = added := by
  rcases List.mem_append.mp latest.among with before | last
  · have below := later row before latest.own
    have above := latest.newest added (by simp) own
    exact absurd below (not_lt_of_ge above)
  · exact List.mem_singleton.mp last

variable {store : GateStore} {pullRequestId : UUID}

theorem latestReview_spec {row : ReviewRow} (found : store.latestReview pullRequestId = some row) :
    Latest ReviewRow.rank store.reviews (fun other => other.pullRequestId = pullRequestId) row := by
  unfold GateStore.latestReview at found
  rw [List.head?_take, if_neg (by decide)] at found
  obtain ⟨among, newest⟩ := ranked_head found
  obtain ⟨there, own⟩ := List.mem_filter.mp among
  exact ⟨there, of_decide_eq_true own, fun other placed its =>
    newest other (List.mem_filter.mpr ⟨placed, decide_eq_true its⟩)⟩

theorem latestApprovals_spec {kind : ApprovalKind} {row : ApprovalRow}
    (found : (store.latestApprovals pullRequestId).get kind = some row) :
    Latest ApprovalRow.rank store.approvals
      (fun other => other.pullRequestId = pullRequestId ∧ other.kind = kind) row := by
  unfold GateStore.latestApprovals GateStore.listApprovals at found
  rw [Dict.indexFirst_find] at found
  obtain ⟨among, own, newest⟩ := ranked_find ((List.take_prefix 100 _).find?_eq_some found)
  obtain ⟨there, its⟩ := List.mem_filter.mp among
  refine ⟨there, ⟨of_decide_eq_true its, of_decide_eq_true own⟩, fun other placed both => ?_⟩
  exact newest other (List.mem_filter.mpr ⟨placed, decide_eq_true both.1⟩) (decide_eq_true both.2)

theorem latestApprovals_held {row : ApprovalRow}
    (held : row ∈ (store.latestApprovals pullRequestId).entries.map Prod.snd) :
    (store.latestApprovals pullRequestId).get row.kind = some row := by
  obtain ⟨⟨kind, other⟩, entry, rfl⟩ := List.mem_map.mp held
  have got := (Dict.mem_entries _ kind other).mp entry
  obtain ⟨_, own⟩ := Dict.indexFirst_mem got
  rwa [← own] at got

end Latest

section Loads

variable {store : GateStore} {pull : PullRequestRow}

theorem load_ok {α : Type} {site : GateSite} {value loaded : α}
    (ok : store.load site value = .ok loaded) : store.fails site = false ∧ loaded = value := by
  unfold GateStore.load at ok
  split at ok
  · cases ok
  · next works =>
      cases ok
      exact ⟨Bool.eq_false_iff.mpr works, rfl⟩

structure EventScope (pull : PullRequestRow) (event : AuditEventRow) : Prop where
  actorType : event.actorType = some .agent
  result : event.result = .succeeded
  project : event.projectId = some pull.projectId
  task : event.taskId = some pull.taskId
  correlation : event.correlationId = some pull.correlationId

theorem commonEventScope_spec {event : AuditEventRow}
    (inScope : ¬ commonEventScope pull event = false) :
    EventScope pull event := by
  rw [Bool.not_eq_false] at inScope
  obtain ⟨actorType, result, project, task, correlation⟩ := of_decide_eq_true inScope
  exact ⟨actorType, result, project, task, correlation⟩

structure GitPassed (store : GateStore) (pull : PullRequestRow) (event : AuditEventRow) : Prop where
  scope : EventScope pull event
  actor : event.actorId = some (store.agent pull.authorAgentId).slug
  eventType : event.eventType = .ofString "GIT_OPERATION_COMPLETED"
  action : event.action = .ofString "validate_merge_requirements"
  decision : hasText event.data "merge_decision" (.ofString "PASS") = true
  checksum : hasText event.data "preparation_checksum" pull.preparationChecksum = true
  headSha : hasText event.data "commit_sha" pull.headSha = true
  baseSha : hasText event.data "base_sha" pull.baseSha = true

theorem validGitEvent_spec {event : Option AuditEventRow}
    (valid : store.validGitEvent pull event = .ok true) :
    store.fails .author = false ∧ ∃ held, event = some held ∧ GitPassed store pull held := by
  cases event with
  | none => cases valid
  | some event =>
      unfold GateStore.validGitEvent at valid
      dsimp only at valid
      split at valid
      · cases valid
      · next inScope =>
          obtain ⟨author, loaded, rest⟩ := bind_ok valid
          obtain ⟨works, rfl⟩ := load_ok loaded
          have checks := Except.ok.inj rest
          simp only [Bool.and_eq_true, decide_eq_true_eq] at checks
          obtain ⟨⟨⟨⟨⟨actor, eventType, action⟩, decision⟩, checksum⟩, headSha⟩, baseSha⟩ := checks
          exact ⟨works, event, rfl, {
            scope := commonEventScope_spec inScope
            actor, eventType, action, decision, checksum, headSha, baseSha }⟩

structure ApprovalPassed (store : GateStore) (pull : PullRequestRow) (kind : ApprovalKind)
    (row : ApprovalRow) (event : AuditEventRow) : Prop where
  latest : Latest ApprovalRow.rank store.approvals
    (fun other => other.pullRequestId = pull.id ∧ other.kind = kind) row
  decision : row.decision = .approved
  headSha : row.headSha = pull.headSha
  correlation : row.correlationId = pull.correlationId
  role : (store.agent row.approverAgentId).role = kind.role
  reference : ∃ eventId, PyStr.ofString "audit:" <+: row.evidenceRef ∧
    store.parseUuid (row.evidenceRef.drop 6) = some eventId ∧ store.event eventId = some event
  scope : EventScope pull event
  actor : event.actorId = some (store.agent row.approverAgentId).slug
  eventType : event.eventType = kind.stage.eventType
  action : event.action = kind.stage.action
  eventDecision : hasText event.data "decision" kind.stage.decision = true
  eventHead : hasText event.data "head_sha" pull.headSha = true
  checksum : hasText event.data "preparation_checksum" pull.preparationChecksum = true

theorem eventFor_spec {kind : ApprovalKind} {row : ApprovalRow} {event : AuditEventRow}
    (loaded : store.eventFor kind (some row) = .ok (some event)) :
    store.fails (.approvalEvent kind) = false ∧
    ∃ eventId, PyStr.ofString "audit:" <+: row.evidenceRef ∧
      store.parseUuid (row.evidenceRef.drop 6) = some eventId ∧
      store.event eventId = some event := by
  unfold GateStore.eventFor at loaded
  dsimp only at loaded
  split at loaded
  · cases loaded
  · next refers =>
      cases parsed : store.parseUuid (row.evidenceRef.drop 6) with
      | none =>
          rw [parsed] at loaded
          cases loaded
      | some eventId =>
          rw [parsed] at loaded
          obtain ⟨works, same⟩ := load_ok loaded
          exact ⟨works, eventId, Decidable.not_not.mp refers, rfl, same.symm⟩

theorem validApprovalEvent_spec {kind : ApprovalKind} {approval : Option ApprovalRow}
    {event : Option AuditEventRow}
    (valid : store.validApprovalEvent pull kind approval event = .ok true) :
    ∃ row held, approval = some row ∧ event = some held ∧ EventScope pull held ∧
      store.fails (.approver kind) = false ∧
      held.actorId = some (store.agent row.approverAgentId).slug ∧
      held.eventType = kind.stage.eventType ∧ held.action = kind.stage.action ∧
      hasText held.data "decision" kind.stage.decision = true ∧
      hasText held.data "head_sha" pull.headSha = true ∧
      hasText held.data "preparation_checksum" pull.preparationChecksum = true := by
  cases approval with
  | none => cases valid
  | some row =>
      cases event with
      | none => cases valid
      | some held =>
          unfold GateStore.validApprovalEvent at valid
          dsimp only at valid
          split at valid
          · cases valid
          · next inScope =>
              obtain ⟨approver, loaded, rest⟩ := bind_ok valid
              obtain ⟨works, rfl⟩ := load_ok loaded
              have checks := Except.ok.inj rest
              simp only [Bool.and_eq_true, decide_eq_true_eq] at checks
              obtain ⟨⟨⟨⟨actor, eventType, action⟩, decision⟩, headSha⟩, checksum⟩ := checks
              exact ⟨row, held, rfl, rfl, commonEventScope_spec inScope, works, actor, eventType,
                action, decision, headSha, checksum⟩

theorem reviewEvidence_spec {row : Option ReviewRow} {evidence : PullRequestReviewEvidence}
    (loaded : store.reviewEvidence row = .ok (some evidence)) :
    ∃ held, row = some held ∧ store.fails .reviewer = false ∧
      evidence = ⟨held.reviewerAgentId, (store.agent held.reviewerAgentId).role, held.decision,
        held.headSha, held.correlationId⟩ := by
  cases row with
  | none => cases loaded
  | some held =>
      obtain ⟨reviewer, got, rest⟩ := bind_ok loaded
      obtain ⟨works, rfl⟩ := load_ok got
      dsimp only at rest
      split at rest
      · cases rest
        exact ⟨held, rfl, works, rfl⟩
      · cases rest

theorem approvalEvidence_spec {row : ApprovalRow} {evidence : ApprovalEvidence}
    (loaded : store.approvalEvidence row = .ok evidence) :
    evidence = ⟨row.kind, row.approverAgentId, (store.agent row.approverAgentId).role, row.decision,
      row.headSha, row.correlationId⟩ := by
  obtain ⟨approver, got, rest⟩ := bind_ok loaded
  obtain ⟨_, rfl⟩ := load_ok got
  cases rest
  rfl

theorem testEvidence_spec {tests : List PullRequestTestEvidence}
    (parsed : pull.testEvidence = .ok tests) : pull.tests.mapM testEvidence = some tests := by
  unfold PullRequestRow.testEvidence at parsed
  split at parsed
  · next read =>
      cases parsed
      exact read
  · cases parsed

structure TestsPassed (pull : PullRequestRow) (tests : List PullRequestTestEvidence)
    (event : AuditEventRow) : Prop where
  parsed : pull.tests.mapM testEvidence = some tests
  some_ : tests ≠ []
  passed : ∀ test ∈ tests, test.passed = true ∧ test.truncated = false
  recorded : ∃ items profiles, event.data.get "tests" = some (.list items) ∧
    items.mapM eventTest = some profiles ∧
    profiles.Perm (tests.map fun test => (test.name, PyStr.ofString "SUCCEEDED"))

theorem testsMatchQaEvent_spec {tests : List PullRequestTestEvidence} {event : AuditEventRow}
    (parsed : pull.tests.mapM testEvidence = some tests)
    (same : testsMatchQaEvent tests (some event) = true) : TestsPassed pull tests event := by
  unfold testsMatchQaEvent at same
  dsimp only at same
  split at same
  · cases same
  · next passed =>
      simp only [not_or, List.any_eq_true, not_exists, not_and, Bool.not_eq_true,
        Bool.or_eq_false_iff, Bool.not_eq_false'] at passed
      split at same
      · next items listed =>
          split at same
          · cases same
          · next profiles read =>
              exact ⟨parsed, passed.1, passed.2, items, profiles, listed, read,
                of_decide_eq_true same⟩
      · cases same

end Loads

section Evaluation

variable {store : GateStore} {pull : PullRequestRow} {expectedTaskId gitEvidenceEventId : UUID}

/-- What the gate has seen when it lets a merge pass. -/
structure MergePassed (store : GateStore) (pull : PullRequestRow)
    (expectedTaskId gitEvidenceEventId : UUID) (review : ReviewRow)
    (approval : ApprovalKind → ApprovalRow) (event : ApprovalKind → AuditEventRow)
    (gitEvent : AuditEventRow) (tests : List PullRequestTestEvidence) : Prop where
  loaded : ∀ site, store.fails site = false
  task : expectedTaskId = pull.taskId
  project : (store.task pull.taskId).projectId = pull.projectId
  author : (store.task pull.taskId).assignedAgentId = some pull.authorAgentId
  latestReview :
    Latest ReviewRow.rank store.reviews (fun other => other.pullRequestId = pull.id) review
  reviewDecision : review.decision = .approved
  reviewHead : review.headSha = pull.headSha
  reviewCorrelation : review.correlationId = pull.correlationId
  reviewerRole : (store.agent review.reviewerAgentId).role = .ofString "Reviewer"
  approvals : ∀ kind, ApprovalPassed store pull kind (approval kind) (event kind)
  sameReviewer : (approval .reviewer).approverAgentId = review.reviewerAgentId
  distinct : [pull.authorAgentId, review.reviewerAgentId, (approval .qa).approverAgentId,
    (approval .security).approverAgentId].Nodup
  securityScan : validSecurityScan (some (event .security)) = true
  gitEvidence : store.event gitEvidenceEventId = some gitEvent
  git : GitPassed store pull gitEvent
  tests : TestsPassed pull tests (event .qa)

theorem evaluatePull_steps {result : MergeGateResult}
    (evaluated : store.evaluatePull pull expectedTaskId gitEvidenceEventId = .ok result)
    (passed : result.decision = .pass) :
    ∃ review tests approvals, ∃ event : ApprovalKind → Option AuditEventRow,
      (store.fails .task = false ∧ store.fails .reviews = false ∧ store.fails .approvals = false ∧
        store.fails .gitEvent = false) ∧
      (store.task pull.taskId).projectId = pull.projectId ∧
      (store.task pull.taskId).assignedAgentId = some pull.authorAgentId ∧
      store.reviewEvidence (store.latestReview pull.id) = .ok review ∧
      pull.tests.mapM testEvidence = some tests ∧
      store.validGitEvent pull (store.event gitEvidenceEventId) = .ok true ∧
      (∀ kind, store.eventFor kind ((store.latestApprovals pull.id).get kind) = .ok (event kind) ∧
        store.validApprovalEvent pull kind ((store.latestApprovals pull.id).get kind) (event kind) =
          .ok true) ∧
      testsMatchQaEvent tests (event .qa) = true ∧ validSecurityScan (event .security) = true ∧
      ((store.latestApprovals pull.id).entries.map Prod.snd).mapM store.approvalEvidence =
        .ok approvals ∧
      (mergeGate ⟨expectedTaskId, pull.candidate, review, approvals, tests, true⟩).decision =
        .pass := by
  obtain ⟨task, loaded, evaluated⟩ := bind_ok evaluated
  obtain ⟨taskWorks, rfl⟩ := load_ok loaded
  obtain ⟨reviewRow, loaded, evaluated⟩ := bind_ok evaluated
  obtain ⟨reviewsWork, rfl⟩ := load_ok loaded
  obtain ⟨review, reviewed, evaluated⟩ := bind_ok evaluated
  obtain ⟨latest, loaded, evaluated⟩ := bind_ok evaluated
  obtain ⟨approvalsWork, rfl⟩ := load_ok loaded
  obtain ⟨tests, parsed, evaluated⟩ := bind_ok evaluated
  obtain ⟨gitEvent, loaded, evaluated⟩ := bind_ok evaluated
  obtain ⟨gitWorks, rfl⟩ := load_ok loaded
  obtain ⟨mergeable, gitValid, evaluated⟩ := bind_ok evaluated
  obtain ⟨reviewEvent, reviewFound, evaluated⟩ := bind_ok evaluated
  obtain ⟨valid, reviewValid, evaluated⟩ := bind_ok evaluated
  obtain ⟨qaEvent, qaFound, evaluated⟩ := bind_ok evaluated
  obtain ⟨tested, qaValid, evaluated⟩ := bind_ok evaluated
  obtain ⟨securityEvent, securityFound, evaluated⟩ := bind_ok evaluated
  obtain ⟨secured, securityValid, evaluated⟩ := bind_ok evaluated
  obtain ⟨approvals, collected, evaluated⟩ := bind_ok evaluated
  dsimp only at evaluated
  split at evaluated
  · cases evaluated
  cases evaluated
  rw [resultOf_pass] at passed
  simp only [List.append_eq_nil_iff, ← pass_iff_none, ne_eq, reasonsIf_nil, List.cons_ne_nil,
    not_false_eq_true, Bool.or_eq_false_iff, Bool.not_eq_false', decide_eq_false_iff_not,
    Decidable.not_not] at passed
  obtain ⟨⟨⟨⟨⟨⟨⟨pure_, project⟩, author⟩, rfl⟩, rfl⟩, rfl⟩, sameTests⟩, rfl, scan⟩ := passed
  refine ⟨review, tests, approvals, ofEach reviewEvent qaEvent securityEvent,
    ⟨taskWorks, reviewsWork, approvalsWork, gitWorks⟩, project,
    author, reviewed, testEvidence_spec parsed, gitValid, fun kind => ?_, sameTests, scan,
    collected, pure_⟩
  cases kind with
  | reviewer => exact ⟨reviewFound, reviewValid⟩
  | qa => exact ⟨qaFound, qaValid⟩
  | security => exact ⟨securityFound, securityValid⟩

theorem collected_spec {approvals : List ApprovalEvidence} {kind : ApprovalKind} {row : ApprovalRow}
    {approval : ApprovalEvidence}
    (collected : ((store.latestApprovals pull.id).entries.map Prod.snd).mapM
      store.approvalEvidence = .ok approvals)
    (latest : (store.latestApprovals pull.id).get kind = some row)
    (among : approval ∈ approvals) (own : approval.kind = kind) :
    approval = ⟨row.kind, row.approverAgentId, (store.agent row.approverAgentId).role, row.decision,
      row.headSha, row.correlationId⟩ := by
  obtain ⟨other, held, made⟩ := related_mem (mapM_related collected) among
  have evidence := approvalEvidence_spec made
  have itsKind : other.kind = kind := by rw [← own, evidence]
  have got := latestApprovals_held held
  rw [itsKind, latest] at got
  cases got
  exact evidence

theorem evaluatePull_pass {result : MergeGateResult} (found : store.fails .pullRequest = false)
    (evaluated : store.evaluatePull pull expectedTaskId gitEvidenceEventId = .ok result)
    (passed : result.decision = .pass) :
    ∃ review approval event gitEvent tests,
      MergePassed store pull expectedTaskId gitEvidenceEventId review approval event
        gitEvent tests := by
  obtain ⟨review, tests, approvals, event, ⟨taskWorks, reviewsWork, approvalsWork, gitWorks⟩,
    project, author, reviewed, parsed, gitValid, valid, sameTests, scan, collected, pure_⟩ :=
    evaluatePull_steps evaluated passed
  obtain ⟨evidence, approval, holds⟩ := mergeGate_pass pure_
  obtain rfl : review = some evidence := holds.reviewed
  obtain ⟨reviewRow, latestRow, reviewerWorks, rfl⟩ := reviewEvidence_spec reviewed
  obtain ⟨authorWorks, gitEvent, gitFound, git⟩ := validGitEvent_spec gitValid
  choose row held latest happened scope works actor eventType action decision headSha checksum using
    fun kind => validApprovalEvent_spec (valid kind).2
  have refers : ∀ kind, store.fails (.approvalEvent kind) = false ∧ ∃ eventId,
      PyStr.ofString "audit:" <+: (row kind).evidenceRef ∧
        store.parseUuid ((row kind).evidenceRef.drop 6) = some eventId ∧
        store.event eventId = some (held kind) := by
    intro kind
    have loaded := (valid kind).1
    rw [latest kind, happened kind] at loaded
    exact eventFor_spec loaded
  have bound : ∀ kind, approval kind = ⟨(row kind).kind, (row kind).approverAgentId,
      (store.agent (row kind).approverAgentId).role, (row kind).decision, (row kind).headSha,
      (row kind).correlationId⟩ := fun kind =>
    collected_spec collected (latest kind) (holds.given kind) (holds.ofKind kind)
  have approver : ∀ kind, (approval kind).approverAgentId = (row kind).approverAgentId :=
    fun kind => by
    rw [bound kind]
  have apart : ∀ kind other, (row kind).approverAgentId = (row other).approverAgentId →
      kind = other := by
    intro kind other same
    rw [← approver, ← approver] at same
    have equal := List.inj_on_of_nodup_map holds.apart (holds.given kind) (holds.given other) same
    rw [← holds.ofKind kind, ← holds.ofKind other, equal]
  refine ⟨reviewRow, row, held, gitEvent, tests, {
    project, author, git
    task := holds.task
    loaded := fun site => ?_
    latestReview := latestReview_spec latestRow
    reviewDecision := holds.reviewDecision
    reviewHead := holds.reviewFresh.1
    reviewCorrelation := holds.reviewFresh.2
    reviewerRole := holds.reviewerRole
    approvals := fun kind => ?_
    sameReviewer := ?_
    distinct := ?_
    securityScan := ?_
    gitEvidence := gitFound
    tests := ?_ }⟩
  · cases site with
    | pullRequest => exact found
    | task => exact taskWorks
    | reviews => exact reviewsWork
    | reviewer => exact reviewerWorks
    | approvals => exact approvalsWork
    | gitEvent => exact gitWorks
    | author => exact authorWorks
    | approvalEvent kind => exact (refers kind).1
    | approver kind => exact works kind
  · have own := bound kind
    exact {
      latest := latestApprovals_spec (latest kind)
      decision := by rw [← holds.decision kind, own]
      headSha := by rw [← show _ = pull.headSha from (holds.fresh kind).1, own]
      correlation := by rw [← show _ = pull.correlationId from (holds.fresh kind).2, own]
      role := by rw [← holds.role kind, own]
      reference := (refers kind).2
      scope := scope kind
      actor := actor kind
      eventType := eventType kind
      action := action kind
      eventDecision := decision kind
      eventHead := headSha kind
      checksum := checksum kind }
  · rw [← approver]
    exact holds.sameReviewer
  · have same : (row .reviewer).approverAgentId = reviewRow.reviewerAgentId := by
      rw [← approver]
      exact holds.sameReviewer
    have other : ∀ kind, (row kind).approverAgentId ≠ pull.authorAgentId := fun kind => by
      rw [← approver]
      exact holds.otherApprover kind
    rw [← same]
    simp only [List.nodup_cons, List.mem_cons, List.not_mem_nil, or_false, not_or,
      not_false_eq_true, List.nodup_nil, and_true]
    refine ⟨⟨(other _).symm, (other _).symm, (other _).symm⟩, ⟨fun equal => ?_, fun equal => ?_⟩,
      fun equal => ?_⟩ <;> cases apart _ _ equal
  · rw [← happened .security]
    exact scan
  · rw [happened .qa] at sameTests
    exact testsMatchQaEvent_spec parsed sameTests

/-- A merge that passes has its pull request and all of its evidence. -/
theorem evaluate_pass {pullRequestId : UUID}
    (passed : (store.evaluate pullRequestId expectedTaskId gitEvidenceEventId).decision = .pass) :
    ∃ pull, store.pullRequests.find? (fun row => decide (row.id = pullRequestId)) = some pull ∧
      pull.id = pullRequestId ∧ ∃ review approval event gitEvent tests,
        MergePassed store pull expectedTaskId gitEvidenceEventId review approval event
          gitEvent tests := by
  unfold GateStore.evaluate at passed
  split at passed
  · cases passed
  · cases passed
  · next pull loaded =>
      obtain ⟨works, found⟩ := load_ok loaded
      split at passed
      · next result evaluated =>
          exact ⟨pull, found.symm, by simpa using List.find?_some found.symm,
            evaluatePull_pass works evaluated passed⟩
      · cases passed

/-- The gate passes on complete evidence only, and blocks otherwise; a later objection blocks. -/
theorem merge_gate_evidence (store : GateStore)
    (pullRequestId expectedTaskId gitEvidenceEventId : UUID) :
    ((store.evaluate pullRequestId expectedTaskId gitEvidenceEventId).decision = .pass ∧
        (∃ pull, store.pullRequests.find? (fun row => decide (row.id = pullRequestId)) = some pull ∧
          pull.id = pullRequestId ∧ ∃ review approval event gitEvent tests,
            MergePassed store pull expectedTaskId gitEvidenceEventId review approval event
              gitEvent tests) ∨
      (store.evaluate pullRequestId expectedTaskId gitEvidenceEventId).decision = .block) ∧
    (∀ row : ReviewRow, row.pullRequestId = pullRequestId → row.decision ≠ .approved →
      (∀ other ∈ store.reviews, other.pullRequestId = pullRequestId → other.rank < row.rank) →
      ({ store with reviews := store.reviews ++ [row] }.evaluate pullRequestId expectedTaskId
        gitEvidenceEventId).decision = .block) ∧
    (∀ row : ApprovalRow, row.pullRequestId = pullRequestId → row.decision ≠ .approved →
      (∀ other ∈ store.approvals, other.pullRequestId = pullRequestId ∧ other.kind = row.kind →
        other.rank < row.rank) →
      ({ store with approvals := store.approvals ++ [row] }.evaluate pullRequestId expectedTaskId
        gitEvidenceEventId).decision = .block) := by
  refine ⟨?_, fun row own negative later => ?_, fun row own negative later => ?_⟩
  · cases decision : (store.evaluate pullRequestId expectedTaskId gitEvidenceEventId).decision with
    | pass => exact .inl ⟨rfl, evaluate_pass decision⟩
    | block => exact .inr rfl
  · rw [block_iff]
    intro passed
    obtain ⟨pull, _, rfl, review, approval, event, gitEvent, tests, evidence⟩ :=
      evaluate_pass passed
    have latest := evidence.latestReview.added own later
    exact negative (latest ▸ evidence.reviewDecision)
  · rw [block_iff]
    intro passed
    obtain ⟨pull, _, rfl, review, approval, event, gitEvent, tests, evidence⟩ :=
      evaluate_pass passed
    have bound := evidence.approvals row.kind
    have latest := bound.latest.added ⟨own, rfl⟩ later
    exact negative (latest ▸ bound.decision)

end Evaluation

section Sample

def sampleSha : PyStr := List.replicate 40 0x61

def samplePull : PullRequestRow :=
  ⟨1, 2, 3, 10, sampleSha, sampleSha, sampleSha, [.dict [("name", .string "unit"),
    ("passed", .boolean true), ("truncated", .boolean false),
    ("head_sha", .string "aaaaaaaaaaaaaaaaaaaaaaaaaaaaaaaaaaaaaaaa")]], 1, 4⟩

def sampleAgent (id : UUID) : AgentRow :=
  ⟨.ofString "agent" ++ [id], .ofString (if id = 11 then "Reviewer" else if id = 12 then "QA" else
    if id = 13 then "Security" else "Developer")⟩

/-- `uuid.UUID` on texts of lower-case digits. -/
def sampleParse (text : PyStr) : Option UUID :=
  let digits := text.filter fun point => decide (point ≠ 0x2D)
  if digits.length = 32 ∧ digits.all lowerHexPoint = true then
    some (digits.foldl (fun value point =>
      16 * value + if point ≤ 0x39 then point - 0x30 else point - 0x57) 0)
  else none

def sampleReference (id : UUID) : PyStr :=
  .ofString "audit:00000000-0000-0000-0000-0000000000" ++ [hexDigit (id / 16), hexDigit (id % 16)]

def sampleApproval (id approver : UUID) (kind : ApprovalKind) : ApprovalRow :=
  ⟨id, id, 1, kind, approver, .approved, sampleSha, sampleReference id, 4⟩

def sampleEvent (id approver : UUID) (eventType action : PyStr) (data : JsonObject) :
    AuditEventRow :=
  ⟨id, some .agent, some (sampleAgent approver).slug, some 2, some 3, eventType, action, .succeeded,
    data ++ [("preparation_checksum", .string "aaaaaaaaaaaaaaaaaaaaaaaaaaaaaaaaaaaaaaaa"),
      ("head_sha", .string "aaaaaaaaaaaaaaaaaaaaaaaaaaaaaaaaaaaaaaaa")], some 4⟩

def sampleStageEvent (id approver : UUID) (kind : ApprovalKind) (data : JsonObject) :
    AuditEventRow :=
  sampleEvent id approver kind.stage.eventType kind.stage.action data

def sampleStore : GateStore where
  pullRequests := [samplePull]
  task := fun _ => ⟨2, some 10⟩
  agent := sampleAgent
  reviews := [⟨20, 0, 1, 11, .approved, sampleSha, 4⟩]
  approvals := [sampleApproval 23 13 .security, sampleApproval 22 12 .qa,
    sampleApproval 21 11 .reviewer]
  events := [sampleStageEvent 21 11 .reviewer [("decision", .string "APPROVED")],
    sampleStageEvent 22 12 .qa [("decision", .string "PASSED"), ("tests", .list [.dict
      [("profile_id", .string "unit"), ("status", .string "SUCCEEDED")]])],
    sampleStageEvent 23 13 .security [("decision", .string "PASS"),
      ("scanner_complete", .boolean true),
      ("scanner_truncated", .boolean false), ("confirmed_blocker_count", .integer 0)],
    sampleEvent 24 10 (.ofString "GIT_OPERATION_COMPLETED")
    (.ofString "validate_merge_requirements")
      [("merge_decision", .string "PASS"),
        ("base_sha", .string "aaaaaaaaaaaaaaaaaaaaaaaaaaaaaaaaaaaaaaaa"),
        ("commit_sha", .string "aaaaaaaaaaaaaaaaaaaaaaaaaaaaaaaaaaaaaaaa")]]
  fails := fun _ => false
  parseUuid := sampleParse

theorem sample_listed : sampleStore.listApprovals samplePull.id = sampleStore.approvals := by
  have own : sampleStore.approvals.filter (fun row => decide (row.pullRequestId = samplePull.id)) =
      sampleStore.approvals := rfl
  unfold GateStore.listApprovals
  rw [own, ranked_sorted (by decide)]
  rfl

theorem sample_passes : (sampleStore.evaluate 1 3 24).decision = .pass := by
  have found :
    sampleStore.load .pullRequest (sampleStore.pullRequests.find? fun row => decide (row.id = 1)) =
      .ok (some samplePull) := rfl
  unfold GateStore.evaluate
  rw [found]
  dsimp only
  unfold GateStore.evaluatePull GateStore.latestApprovals
  rw [sample_listed]
  decide +kernel

/-- A merge passes; a later review that asks for changes blocks it, and a later rejection too. -/
theorem merge_gate_evidence_sample :
    (sampleStore.evaluate 1 3 24).decision = .pass ∧
      (∃ row : ReviewRow, ({ sampleStore with reviews := sampleStore.reviews ++ [row] }.evaluate 1 3
        24).decision = .block) ∧
      ∃ row : ApprovalRow,
        ({ sampleStore with approvals := sampleStore.approvals ++ [row] }.evaluate 1 3
        24).decision = .block :=
  ⟨sample_passes,
    ⟨⟨25, 1, 1, 11, .changesRequested, sampleSha, 4⟩,
      (merge_gate_evidence sampleStore 1 3 24).2.1 _ rfl (by decide) (by decide)⟩,
    ⟨⟨26, 26, 1, .qa, 12, .rejected, sampleSha, sampleReference 22, 4⟩,
      (merge_gate_evidence sampleStore 1 3 24).2.2 _ rfl (by decide) (by decide)⟩⟩

end Sample

end SynapseOS.PullRequests
