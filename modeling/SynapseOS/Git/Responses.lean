import SynapseOS.Git.Operations

/-! What the operations of the GitHub adapter make of the answers of its client. -/

namespace SynapseOS.Git

open Execution Tools Program

section Property

def RemotePullRequest.Valid (pull : RemotePullRequest) : Prop :=
  (1 ≤ pull.number ∧ pull.number ≤ 2147483647) ∧ (1 ≤ pull.title.length ∧ pull.title.length ≤ 256) ∧
    branchName pull.headBranch = true ∧ branchName pull.baseBranch = true ∧
    shaText pull.headSha = true

def RemoteCheck.Valid (check : RemoteCheck) : Prop := checkName check.name = true ∧
    shaText check.headSha = true

def RemoteMergeResult.Valid (result : RemoteMergeResult) : Prop :=
  (1 ≤ result.number ∧ result.number ≤ 2147483647) ∧ (∀ sha ∈ result.sha, shaText sha = true) ∧
    (1 ≤ result.message.length ∧ result.message.length ≤ 255) ∧ result.merged = result.sha.isSome

def Outcome.Valid : Outcome → Prop
  | .repository _ | .branch _ | .commit _ | .reviews _ => True
  | .pullRequest pull => pull.Valid
  | .checks listed => ∀ check ∈ listed, check.Valid
  | .merge result => result.Valid

def Handled {α : Type} (valid : α → Prop) : Except Raised α → Prop
  | .ok result => valid result
  | .error raised => ∃ code, raised = .remote code

end Property

section Civil

def Civil {α : Type} (reading : Except Raised α) : Prop := reading ≠ .error .other

variable {α β : Type}

theorem civil_ok (value : α) : Civil (.ok value) := nofun

theorem civil_invalid : Civil (.error .invalid : Except Raised α) := nofun

theorem civil_remote (code : RemoteGitErrorCode) : Civil
    (.error (.remote code) : Except Raised α) := nofun

theorem civil_bind {first : Except Raised α} {rest : α → Except Raised β} (civil : Civil first)
    (later : ∀ value, Civil (rest value)) : Civil (first >>= rest) := by
  cases first with
  | error raised =>
      intro other
      exact civil (congrArg Except.error (Except.error.inj other))
  | ok value => exact later value

theorem civil_map {first : Except Raised α} {f : α → β}
    (civil : Civil first) : Civil (first.map f) := by
  cases first with
  | error raised =>
      intro other
      exact civil (congrArg Except.error (Except.error.inj other))
  | ok value => exact civil_ok _

theorem civil_mapM {f : α → Except Raised β} (each : ∀ item, Civil (f item)) (items : List α) :
    Civil (items.mapM f) := by
  induction items with
  | nil => exact civil_ok []
  | cons item rest ih =>
      rw [List.mapM_cons]
      exact civil_bind (each item) fun _ => civil_bind ih fun _ => civil_ok _

/-- The handler of a reading leaves only `RemoteGitError`s. -/
theorem readResponse_handled {reading : Except Raised α} {valid : α → Prop} (civil : Civil reading)
    (holds : ∀ value, reading = .ok value → valid value) : Handled valid
      (readResponse reading) := by
  cases reading with
  | ok value => exact holds value rfl
  | error raised =>
      cases raised with
      | remote code => exact ⟨code, rfl⟩
      | invalid => exact ⟨.responseInvalid, rfl⟩
      | other => exact absurd rfl civil

theorem civil_mapping (value : JsonValue) : Civil (mapping value) := by
  cases value <;> nofun

variable (data : JsonObject) (key : String)

theorem civil_item : Civil (item data key) := by
  unfold item
  split
  · exact civil_ok _
  · exact civil_invalid

theorem civil_stringItem : Civil (stringItem data key) := by
  refine civil_bind (civil_item data key) fun value => ?_
  cases value <;> nofun

theorem civil_optionalString : Civil (optionalString data key) := by
  refine civil_bind (civil_item data key) fun value => ?_
  cases value <;> nofun

theorem civil_boolItem : Civil (boolItem data key) := by
  refine civil_bind (civil_item data key) fun value => ?_
  cases value <;> nofun

theorem civil_integerItem : Civil (integerItem data key) := by
  refine civil_bind (civil_item data key) fun value => ?_
  cases value <;> nofun

theorem civil_nestedString (parent : String) : Civil (nestedString data parent key) :=
  civil_bind (civil_item data parent) fun value =>
    civil_bind (civil_mapping value) fun inner => civil_stringItem inner key

theorem civil_require (condition : Bool) : Civil (require condition) := by
  cases condition <;> nofun

theorem civil_validated {valid : Prop} [Decidable valid]
    (make : valid → α) : Civil (validated make) := by
  unfold validated
  split
  · exact civil_ok _
  · exact civil_invalid

end Civil

section Readings

variable {upper : PyStr → PyStr} {α : Type} {valid : α → Prop}

theorem mapping_handled {rest : JsonObject → Except Raised α}
    (each : ∀ data, Handled valid (rest data))
    (value : JsonValue) : Handled valid (mapping value >>= rest) := by
  cases value with
  | dict data => exact each data
  | _ => exact ⟨.responseInvalid, rfl⟩

theorem repositoryMetadata_handled (value : JsonValue) : Handled (fun _ => True)
    (repositoryMetadata value) := by
  refine mapping_handled (fun data => readResponse_handled ?_ fun _ _ => trivial) value
  exact civil_bind (civil_stringItem data _) fun _ => civil_bind (civil_boolItem data _) fun _ =>
    civil_bind (civil_boolItem data _) fun _ => civil_validated _

theorem createdBranch_handled (value : JsonValue) : Handled (fun _ => True)
    (createdBranch value) := by
  refine mapping_handled (fun data => readResponse_handled ?_ fun _ _ => trivial) value
  refine civil_bind (civil_stringItem data _) fun text => civil_bind ?_ fun _ =>
    civil_bind (civil_nestedString data _ _) fun _ => civil_validated _
  unfold branchFromRef
  split
  · exact civil_ok _
  · exact civil_invalid

theorem remoteReview_civil (value : JsonValue) : Civil (remoteReview upper value) := by
  refine civil_bind (civil_mapping value) fun data => civil_bind (civil_integerItem data _) fun _ =>
    civil_bind (civil_nestedString data _ _) fun _ =>
      civil_bind (civil_stringItem data _) fun text =>
      civil_bind ?_ fun _ => civil_bind (civil_stringItem data _) fun _ => civil_validated _
  unfold reviewState
  split
  · exact civil_ok _
  · exact civil_invalid

theorem listReviews_handled (value : JsonValue) : Handled (fun _ => True)
    (listReviews upper value) := by
  cases value with
  | list reviews =>
      rw [listReviews]
      by_cases many : 1000 < reviews.length
      · rw [if_pos many]
        exact ⟨_, rfl⟩
      · rw [if_neg many]
        exact readResponse_handled (civil_mapM remoteReview_civil reviews) fun _ _ => trivial
  | _ => exact ⟨_, rfl⟩

theorem require_ok {condition : Bool} {done : Unit} (passed : require condition = .ok done) :
    condition = true := by
  cases condition with
  | false => cases passed
  | true => rfl

theorem pullRequest_handled (data : JsonObject) : Handled RemotePullRequest.Valid
    (pullRequest upper data) := by
  refine readResponse_handled ?_ fun pull read => ?_
  rotate_left
  · obtain ⟨_, _, read⟩ := bind_ok read
    obtain ⟨state, _, read⟩ := bind_ok read
    obtain ⟨number, _, read⟩ := bind_ok read
    obtain ⟨title, _, read⟩ := bind_ok read
    obtain ⟨headBranch, _, read⟩ := bind_ok read
    obtain ⟨baseBranch, _, read⟩ := bind_ok read
    obtain ⟨headSha, _, read⟩ := bind_ok read
    obtain ⟨mergeable, _, read⟩ := bind_ok read
    obtain ⟨_, required, made⟩ := bind_ok read
    cases made
    have all := require_ok required
    simp only [Bool.and_eq_true, decide_eq_true_eq] at all
    obtain ⟨⟨⟨⟨least, most, some_, short⟩, head⟩, base⟩, sha⟩ := all
    exact ⟨⟨least, most⟩, ⟨some_, short⟩, head, base, sha⟩
  refine civil_bind (civil_stringItem data _) fun text => civil_bind ?_ fun _ =>
    civil_bind (civil_integerItem data _) fun _ => civil_bind (civil_stringItem data _) fun _ =>
      civil_bind (civil_nestedString data _ _) fun _ =>
        civil_bind (civil_nestedString data _ _) fun _ =>
        civil_bind (civil_nestedString data _ _) fun _ => civil_bind ?_ fun _ =>
          civil_bind (civil_require _) fun _ => civil_ok _
  · unfold pullRequestState
    split
    · exact civil_ok _
    · split
      · exact civil_ok _
      · exact civil_invalid
  · unfold mergeableItem
    split
    · exact civil_ok _
    · exact civil_ok _
    · exact civil_ok _
    · exact civil_invalid

theorem checkStatus_civil (text : PyStr) : Civil (checkStatus upper text) := by
  unfold checkStatus
  split
  · exact civil_ok _
  · exact civil_invalid

theorem checkConclusion_civil (text : PyStr) : Civil (checkConclusion upper text) := by
  unfold checkConclusion
  split
  · exact civil_ok _
  · exact civil_invalid

def conclusionOf (upper : PyStr → PyStr) :
    Option PyStr → Except Raised (Option RemoteCheckConclusion)
  | none => .ok none
  | some text => (checkConclusion upper text).map some

theorem remoteCheck_eq (value : JsonValue) : remoteCheck upper value = (do
    let data ← mapping value
    let raw ← optionalString data "conclusion"
    let conclusion ← conclusionOf upper raw
    let name ← stringItem data "name"
    let text ← stringItem data "status"
    let status ← checkStatus upper text
    let headSha ← stringItem data "head_sha"
    require (checkName name && shaText headSha)
    return ⟨name, status, conclusion, headSha⟩) := by
  unfold remoteCheck
  congr 1
  funext data
  congr 1
  funext raw
  cases raw <;> rfl

theorem remoteCheck_civil (value : JsonValue) : Civil (remoteCheck upper value) := by
  rw [remoteCheck_eq]
  refine civil_bind (civil_mapping value) fun data =>
    civil_bind (civil_optionalString data _) fun raw =>
    civil_bind ?_ fun _ => civil_bind (civil_stringItem data _) fun _ =>
      civil_bind (civil_stringItem data _) fun text => civil_bind (checkStatus_civil text) fun _ =>
        civil_bind (civil_stringItem data _) fun _ => civil_bind (civil_require _) fun _ =>
          civil_ok _
  cases raw with
  | none => exact civil_ok _
  | some text => exact civil_map (checkConclusion_civil text)

theorem remoteCheck_valid {value : JsonValue} {check : RemoteCheck}
    (read : remoteCheck upper value = .ok check) :
    check.Valid := by
  rw [remoteCheck_eq] at read
  obtain ⟨data, _, read⟩ := bind_ok read
  obtain ⟨raw, _, read⟩ := bind_ok read
  obtain ⟨conclusion, _, read⟩ := bind_ok read
  obtain ⟨name, _, read⟩ := bind_ok read
  obtain ⟨text, _, read⟩ := bind_ok read
  obtain ⟨status, _, read⟩ := bind_ok read
  obtain ⟨headSha, _, read⟩ := bind_ok read
  obtain ⟨_, required, made⟩ := bind_ok read
  cases made
  exact Bool.and_eq_true_iff.mp (require_ok required)

theorem listChecks_handled (value : JsonValue) :
    Handled (fun checks => ∀ check ∈ checks, check.Valid) (listChecks upper value) := by
  refine mapping_handled (fun data => ?_) value
  split
  · next checks _ =>
      by_cases many : 1000 < checks.length
      · rw [if_pos many]
        exact ⟨_, rfl⟩
      · rw [if_neg many]
        refine readResponse_handled (civil_mapM remoteCheck_civil checks)
          fun found read check among => ?_
        obtain ⟨value, _, made⟩ := related_mem (mapM_related read) among
        exact remoteCheck_valid made
  · exact ⟨_, rfl⟩

theorem handled_civil {reading : Except Raised α} (handled : Handled valid reading) :
    Civil reading := by
  cases reading with
  | ok value => exact civil_ok value
  | error raised =>
      obtain ⟨code, rfl⟩ := handled
      exact civil_remote code

theorem shaItem_civil (data : JsonObject) : Civil (shaItem data) := by
  unfold shaItem
  split
  · exact civil_ok _
  · exact civil_ok _
  · exact civil_ok _
  · exact civil_invalid

theorem mergeResult_civil (number : Nat) (value : JsonValue) : Civil (mergeResult number value) :=
  civil_bind (civil_mapping value) fun data => civil_bind (civil_boolItem data _) fun _ =>
    civil_bind (shaItem_civil data) fun _ => civil_bind (civil_stringItem data _) fun _ =>
      civil_bind (civil_require _) fun _ => civil_ok _

theorem mergeResult_valid {number : Nat} (numbered : 1 ≤ number ∧ number ≤ 2147483647)
    {value : JsonValue}
    {result : RemoteMergeResult} (read : mergeResult number value = .ok result) : result.Valid := by
  obtain ⟨data, _, read⟩ := bind_ok read
  obtain ⟨merged, _, read⟩ := bind_ok read
  obtain ⟨sha, _, read⟩ := bind_ok read
  obtain ⟨message, _, read⟩ := bind_ok read
  obtain ⟨_, required, made⟩ := bind_ok read
  cases made
  have all := require_ok required
  simp only [Bool.and_eq_true, decide_eq_true_eq] at all
  obtain ⟨⟨shaped, bounds⟩, consistent⟩ := all
  refine ⟨numbered, fun text held => ?_, bounds, consistent⟩
  cases held
  exact shaped

end Readings

section Merge

variable {upper : PyStr → PyStr} {client : Client} {surroundings : MergeSurroundings}
    {request : RemoteMergeRequest}

theorem reply_civil (answer : Answer) : Civil answer.reply.read := by
  cases answer with
  | value body => exact civil_ok body
  | fails code => exact civil_remote code

def gateAnswer : GateReply → Except Raised Unit
  | .raises raised => .error raised
  | .block => .error (.remote .gateBlocked)
  | .pass => .ok ()

theorem prepareMerge_eq (world : MergeWorld) (request : RemoteMergeRequest) :
    prepareMerge world request = (do
    let value ← world.pull.read
    let data ← mapping value
    let pull ← pullRequest world.upper data
    if pull.headSha ≠ request.expectedHeadSha then .error (.remote .staleState)
    else
      gateAnswer world.gate
      let reply ← world.checks.read
      let checks ← listChecks world.upper reply
      if passingChecks checks request.expectedHeadSha = true then .ok ()
      else .error (.remote .gateBlocked)) := by
  unfold prepareMerge
  congr 1
  funext value
  congr 1
  funext data
  congr 1
  funext pull
  by_cases stale : pull.headSha ≠ request.expectedHeadSha
  · rw [if_pos stale, if_pos stale]
    rfl
  · rw [if_neg stale, if_neg stale]
    cases world.gate <;> rfl

theorem prepareMerge_civil : Civil (prepareMerge (surroundings.world upper client) request) := by
  rw [prepareMerge_eq]
  refine civil_bind (reply_civil _) fun value => civil_bind (civil_mapping value) fun data =>
    civil_bind (handled_civil (pullRequest_handled data)) fun pull => ?_
  split
  · exact civil_remote _
  · refine civil_bind ?_ fun _ => civil_bind (reply_civil _) fun reply =>
      civil_bind (handled_civil (listChecks_handled reply)) fun checks => ?_
    · change Civil (gateAnswer surroundings.gate)
      cases gate : surroundings.gate with
      | raises raised =>
          intro other
          cases other
          exact surroundings.gate_civil gate
      | block => exact civil_remote _
      | pass => exact civil_ok _
    · split
      · exact civil_ok _
      · exact civil_remote _

theorem readMerge_civil : Civil (readMerge (surroundings.world upper client) request) :=
  civil_bind (reply_civil _) fun value => mergeResult_civil _ value

theorem recordAudit_remote (outcome : RemoteGitAuditOutcome) (records : List AuditRecord)
    {failure : Raised}
    (raised : (recordAudit (surroundings.world upper client) outcome records).2 = some failure) :
    failure = .remote .auditFailed := by
  unfold recordAudit at raised
  cases reaction : (surroundings.sink records.length).raised with
  | none =>
      have silent : ((surroundings.world upper client).sink records.length).raised = none :=
        reaction
      dsimp only at raised
      rw [silent] at raised
      cases raised
  | some kind =>
      have loud : ((surroundings.world upper client).sink records.length).raised = some kind :=
        reaction
      dsimp only at raised
      rw [loud] at raised
      cases kind with
      | exception => exact (Option.some.inj raised).symm
      | interrupt => exact absurd reaction (surroundings.sink_civil _)

theorem getD_remote {failure : Option Raised}
    (own : ∀ raised, failure = some raised → raised = .remote .auditFailed)
    (code : RemoteGitErrorCode) : ∃ told, failure.getD (.remote code) = .remote told := by
  cases failure with
  | none => exact ⟨code, rfl⟩
  | some raised => exact ⟨.auditFailed, own raised rfl⟩

theorem handleMerge_handled {raised : Raised} (civil : raised ≠ .other) (records : List AuditRecord)
    (sent : Bool) :
    Handled RemoteMergeResult.Valid
      (handleMerge (surroundings.world upper client) raised records sent).result := by
  cases raised with
  | other => exact absurd rfl civil
  | remote code =>
      have own : ∀ failure, (recordAudit (surroundings.world upper client) .blocked records).2 =
          some failure →
          failure = .remote .auditFailed := fun failure raises =>
            recordAudit_remote .blocked records raises
      exact getD_remote own code
  | invalid =>
      have own : ∀ failure, (recordAudit (surroundings.world upper client) .failed records).2 =
          some failure →
          failure = .remote .auditFailed := fun failure raises =>
            recordAudit_remote .failed records raises
      exact getD_remote own .responseInvalid

theorem mergePullRequest_handled (numbered : 1 ≤ request.number ∧ request.number ≤ 2147483647) :
    Handled RemoteMergeResult.Valid
      (mergePullRequest (surroundings.world upper client) request).result := by
  unfold mergePullRequest
  split
  · exact ⟨_, rfl⟩
  · split
    · next records failure started =>
        have own := recordAudit_remote .started [] (congrArg Prod.snd started)
        exact ⟨_, own⟩
    · next records started =>
        have civil : Civil (prepareMerge (surroundings.world upper client) request) :=
          prepareMerge_civil
        split
        · next raised prepared =>
            rw [prepared] at civil
            exact handleMerge_handled
              (fun other => civil (congrArg Except.error other)) records false
        · have civil : Civil (readMerge (surroundings.world upper client) request) :=
            readMerge_civil
          split
          · next raised read =>
              rw [read] at civil
              exact handleMerge_handled
                (fun other => civil (congrArg Except.error other)) records true
          · next result read =>
              split
              · next after failure ended =>
                  have own := recordAudit_remote .succeeded records (congrArg Prod.snd ended)
                  refine handleMerge_handled ?_ after true
                  rw [own]
                  exact Raised.noConfusion
              · obtain ⟨value, _, made⟩ := bind_ok read
                exact mergeResult_valid numbered made

end Merge

section Commit

variable (client : Client) (request : RemoteCommitRequest)

def commitField (index : Nat) : JsonValue → Except Raised PyStr :=
  if index = 1 then shaWithin "tree"
  else if index = 0 ∨ index = request.changes.length + 4 then shaWithin "object" else ownSha

def commitReading (index : Nat) : Except Raised PyStr :=
  (client index).reply.read >>= commitField request index

def Reached (index : Nat) : Prop :=
  ∀ earlier < index, ∃ text, commitReading client request earlier = .ok text ∧
    (earlier = 0 → text = request.expectedHeadSha)

/-- Each answer that is reached has its field, the updated branch has an object id, and so has the
tree of a commit that the branch stands at. -/
structure CommitAnswered : Prop where
  fields : ∀ index < request.changes.length + 5, Reached client request index →
    commitReading client request index ≠ .error .invalid
  shas : Reached client request (request.changes.length + 5) → ∀ updated,
    commitReading client request (request.changes.length + 4) = .ok updated →
    shaText updated = true ∧
      (commitReading client request (request.changes.length + 3) = .ok updated →
        ∀ tree, commitReading client request (request.changes.length + 2) = .ok tree →
        shaText tree = true)

/-- The commit was created on the expected head only, and the branch was moved to it. -/
structure Pushed (result : RemoteCommitResult) (sent : List GitHubRequest) : Prop where
  created : commitReading client request (request.changes.length + 3) = .ok result.commitSha
  moved : commitReading client request (request.changes.length + 4) = .ok result.commitSha
  requested : ∃ front tree, front.length = request.changes.length + 3 ∧ sent = front ++
    [.createCommit request.message tree [request.expectedHeadSha],
      .updateRef request.branch result.commitSha]
  placed : result.branch.name = request.branch ∧ result.branch.sha = result.commitSha ∧
    result.previousSha = request.expectedHeadSha

variable {client request}

theorem shaWithin_civil (parent : String) (value : JsonValue) : Civil (shaWithin parent value) :=
  civil_bind (civil_mapping value) fun data => civil_nestedString data _ _

theorem ownSha_civil (value : JsonValue) : Civil (ownSha value) :=
  civil_bind (civil_mapping value) fun data => civil_stringItem data _

theorem commitReading_civil (index : Nat) : Civil (commitReading client request index) := by
  refine civil_bind (reply_civil _) fun value => ?_
  unfold commitField
  split
  · exact shaWithin_civil _ value
  · split
    · exact shaWithin_civil _ value
    · exact ownSha_civil value

theorem reached_next {index : Nat} (reached : Reached client request index) {text : PyStr}
    (read : commitReading client request index = .ok text)
    (head : index = 0 → text = request.expectedHeadSha) :
    Reached client request (index + 1) := by
  intro earlier below
  rcases Nat.lt_succ_iff_lt_or_eq.mp below with before | rfl
  · exact reached earlier before
  · exact ⟨text, read, head⟩

theorem stopped_answered {index : Nat} (below : index < request.changes.length + 5)
    (reached : Reached client request index) (stops : ¬ Reached client request (index + 1)) :
    CommitAnswered client request ↔ commitReading client request index ≠ .error .invalid := by
  constructor
  · intro answered
    exact answered.fields index below reached
  · intro fine
    refine ⟨fun other _ passed => ?_, fun passed => ?_⟩
    · rcases Nat.lt_trichotomy other index with before | rfl | after
      · obtain ⟨text, read, _⟩ := reached other before
        rw [read]
        exact nofun
      · exact fine
      · exact absurd (fun earlier before => passed earlier (by omega)) stops
    · exact absurd (fun earlier before => passed earlier (by omega)) stops

def Settles (client : Client) (request : RemoteCommitRequest)
    (ending : Except Raised RemoteCommitResult × List GitHubRequest) : Prop :=
  (Handled (fun _ => True) ending.1 ↔ CommitAnswered client request) ∧
    ∀ result, ending.1 = .ok result → Pushed client request result ending.2

theorem settles_failed {index : Nat} (below : index < request.changes.length + 5)
    (reached : Reached client request index) {raised : Raised}
    (failed : commitReading client request index = .error raised)
    {ending : Except Raised RemoteCommitResult × List GitHubRequest}
    (ends : ending.1 = .error raised) : Settles client request ending := by
  have stops : ¬ Reached client request (index + 1) := by
    intro passed
    obtain ⟨text, read, _⟩ := passed index (Nat.lt_succ_self index)
    rw [failed] at read
    cases read
  refine ⟨?_, fun result returned => ?_⟩
  · rw [stopped_answered below reached stops, failed, ends]
    cases raised with
    | remote code => exact iff_of_true ⟨code, rfl⟩ nofun
    | invalid => exact iff_of_false (fun ⟨_, told⟩ => nomatch told) (fun fine => fine rfl)
    | other => exact absurd failed (commitReading_civil index)
  · rw [ends] at returned
    cases returned

/-- A request of the commit settles it, or the rest does. -/
theorem settles_ask {index : Nat} {sent : List GitHubRequest} (place : sent.length = index)
    (below : index < request.changes.length + 5) (reached : Reached client request index)
    {read : JsonValue → Except Raised PyStr} (field : commitField request index = read)
    (next : GitHubRequest)
    {rest : PyStr → Op RemoteCommitResult}
    (later : ∀ text, commitReading client request index = .ok text →
      Settles client request (rest text (sent ++ [next]))) :
    Settles client request ((ask client next read >>= rest) sent) := by
  have asked : ask client next read sent = (commitReading client request index,
      sent ++ [next]) := by
    unfold ask commitReading
    rw [place, field]
  cases answered : commitReading client request index with
  | error raised =>
      rw [answered] at asked
      rw [run_error asked]
      exact settles_failed below reached answered rfl
  | ok text =>
      rw [answered] at asked
      rw [run_ok asked]
      exact later text answered

theorem bind_run {σ ε α β γ : Type} (body : Program σ ε α) (middle : α → Program σ ε β)
    (rest : β → Program σ ε γ)
    (s : σ) : ((body >>= middle) >>= rest) s = (body >>= fun a => middle a >>= rest) s := by
  show andThen (andThen body middle) rest s = andThen body (fun a => andThen (middle a) rest) s
  unfold andThen
  rcases body s with ⟨e | a, t⟩ <;> rfl

theorem settles_blobs {changes : List RemoteFileChange} {index : Nat} {sent : List GitHubRequest}
    (place : sent.length = index) (least : 2 ≤ index)
    (fits : index + changes.length = request.changes.length + 2)
    (reached : Reached client request index) {rest : List TreeEntry → Op RemoteCommitResult}
    (later : ∀ entries after, after.length = request.changes.length + 2 →
      Reached client request (request.changes.length + 2) →
      Settles client request (rest entries after)) :
    Settles client request ((createBlobs client changes >>= rest) sent) := by
  induction changes generalizing index sent rest with
  | nil =>
      rw [List.length_nil] at fits
      have done : createBlobs client [] sent = (.ok [], sent) := rfl
      rw [run_ok done]
      exact later [] sent (by omega) ((show index = request.changes.length + 2 by omega) ▸ reached)
  | cons change others ih =>
      rw [List.length_cons] at fits
      have field : commitField request index = ownSha := by
        unfold commitField
        rw [if_neg (by omega), if_neg (by omega)]
      rw [createBlobs, bind_run]
      refine settles_ask place (by omega) reached field _ fun sha read => ?_
      rw [bind_run]
      have longer : (sent ++ [GitHubRequest.createBlob change.content]).length = index + 1 := by
        rw [List.length_append, List.length_singleton, place]
      refine ih longer (by omega) (by omega) (reached_next reached read (by omega))
        fun entries after size passed => ?_
      exact later _ after size passed

theorem settles_last {sent : List GitHubRequest} {tree commit updated : PyStr}
    (reached : Reached client request (request.changes.length + 5))
    (treeRead : commitReading client request (request.changes.length + 2) = .ok tree)
    (commitRead : commitReading client request (request.changes.length + 3) = .ok commit)
    (updatedRead : commitReading client request (request.changes.length + 4) = .ok updated)
    (requested : ∃ front tree, front.length = request.changes.length + 3 ∧ sent = front ++
      [.createCommit request.message tree [request.expectedHeadSha],
        .updateRef request.branch commit]) :
    Settles client request ((resume (remoteBranch request.branch updated) >>= fun branch =>
      if branch.sha ≠ commit then raise (.remote .staleState)
      else resume (validated (RemoteCommitResult.mk branch request.expectedHeadSha commit tree)))
        sent) := by
  have answered : CommitAnswered client request ↔
      shaText updated = true ∧ (commit = updated → shaText tree = true) := by
    constructor
    · intro answered
      obtain ⟨shaped, trees⟩ := answered.shas reached updated updatedRead
      exact ⟨shaped, fun same => trees (same ▸ commitRead) tree treeRead⟩
    · rintro ⟨shaped, trees⟩
      refine ⟨fun index below _ => ?_, fun _ other read => ?_⟩
      · obtain ⟨text, read, _⟩ := reached index below
        rw [read]
        exact nofun
      · rw [updatedRead] at read
        cases read
        refine ⟨shaped, fun moved own found => ?_⟩
        rw [commitRead] at moved
        rw [treeRead] at found
        cases moved
        cases found
        exact trees rfl
  unfold Settles
  rw [answered]
  unfold remoteBranch validated
  by_cases shaped : branchName request.branch = true ∧ shaText updated = true
  · rw [dif_pos shaped, resume_ok_run]
    dsimp only
    by_cases same : updated = commit
    · subst same
      rw [if_neg (not_not_intro rfl)]
      by_cases fits :
      (shaText request.expectedHeadSha = true ∧ shaText updated = true ∧ shaText tree = true) ∧
          updated = updated
      · rw [dif_pos fits]
        refine ⟨iff_of_true trivial ⟨shaped.2, fun _ => fits.1.2.2⟩, fun result returned => ?_⟩
        cases returned
        exact ⟨commitRead, updatedRead, requested, rfl, rfl, rfl⟩
      · rw [dif_neg fits]
        refine ⟨iff_of_false (fun ⟨_, told⟩ => nomatch told) ?_,
          fun result returned => nomatch returned⟩
        rintro ⟨_, trees⟩
        exact fits ⟨⟨request.sha_valid, shaped.2, trees rfl⟩, rfl⟩
    · rw [if_pos same]
      exact ⟨iff_of_true ⟨_, rfl⟩ ⟨shaped.2, fun equal => absurd equal.symm same⟩,
        fun result returned => nomatch returned⟩
  · rw [dif_neg shaped, resume_error_run]
    refine ⟨iff_of_false (fun ⟨_, told⟩ => nomatch told) ?_,
      fun result returned => nomatch returned⟩
    rintro ⟨good, _⟩
    exact shaped ⟨request.branch_valid.1, good⟩

theorem commit_settles : Settles client request (commitAndPush client request []) := by
  unfold commitAndPush rejectProtectedBranch
  rw [if_neg request.branch_valid.2]
  have size := request.changes_bound.1
  have start : Reached client request 0 := fun _ below => absurd below (Nat.not_lt_zero _)
  have first : commitField request 0 = shaWithin "object" := by
    unfold commitField
    rw [if_neg (by omega), if_pos (.inl rfl)]
  have none_ : ([] : List GitHubRequest).length = 0 := rfl
  refine settles_ask none_ (by omega) start first _ fun current currentRead => ?_
  by_cases stale : current ≠ request.expectedHeadSha
  · rw [if_pos stale]
    refine ⟨?_, fun result returned => nomatch returned⟩
    have stops : ¬ Reached client request 1 := by
      intro passed
      obtain ⟨text, read, head⟩ := passed 0 Nat.zero_lt_one
      rw [currentRead] at read
      cases read
      exact stale (head rfl)
    rw [stopped_answered (by omega) start stops, currentRead]
    exact iff_of_true ⟨_, rfl⟩ nofun
  · rw [if_neg stale]
    rw [not_not] at stale
    have one := reached_next start currentRead fun _ => stale
    have second : commitField request 1 = shaWithin "tree" := by
      unfold commitField
      rw [if_pos rfl]
    have single : ([] ++ [GitHubRequest.getRef request.branch]).length = 1 := rfl
    refine settles_ask single (by omega) one second _ fun parentTree parentRead => ?_
    refine settles_blobs rfl le_rfl (Nat.add_comm _ _) (reached_next one parentRead (by omega))
      fun entries after long passed => ?_
    have own : ∀ index, index = request.changes.length + 2 ∨ index = request.changes.length + 3 →
        commitField request index = ownSha := by
      intro index places
      unfold commitField
      rw [if_neg (by omega), if_neg (by omega)]
    refine settles_ask long (by omega) passed (own _ (.inl rfl)) _ fun tree treeRead => ?_
    have more := reached_next passed treeRead (by omega)
    refine settles_ask (by rw [List.length_append, long]; rfl) (by omega) more (own _ (.inr rfl)) _
      fun commit commitRead => ?_
    have next := reached_next more commitRead (by omega)
    have last : commitField request (request.changes.length + 4) = shaWithin "object" := by
      unfold commitField
      rw [if_neg (by omega), if_pos (.inr rfl)]
    refine settles_ask (by rw [List.length_append, List.length_append, long]; rfl)
      (by omega) next last _ fun updated updatedRead => ?_
    refine settles_last (reached_next next updatedRead (by omega)) treeRead commitRead
      updatedRead ?_
    refine ⟨after ++ [.createTree parentTree entries], tree, ?_, ?_⟩
    · rw [List.length_append, long]
      rfl
    · simp only [List.append_assoc, List.cons_append, List.nil_append]

end Commit

section Operations

variable {upper : PyStr → PyStr} {client : Client} {α : Type} {valid : α → Prop}

/-- The answers fit what the operation reads of them. All operations but the commit handle those
that do not. -/
def Operation.Answered (client : Client) : Operation → Prop
  | .commitAndPush request => CommitAnswered client request
  | _ => True

theorem ask_handled {read : JsonValue → Except Raised α}
    (each : ∀ value, Handled valid (read value))
    (request : GitHubRequest) (sent : List GitHubRequest) : Handled valid
      (ask client request read sent).1 := by
  unfold ask
  cases client sent.length with
  | value body => exact each body
  | fails code => exact ⟨code, rfl⟩

theorem map_handled {reading : Except Raised α} {make : α → Outcome}
    (handled : Handled valid reading)
    (keeps : ∀ result, valid result → (make result).Valid) : Handled Outcome.Valid
      (reading.map make) := by
  cases reading with
  | ok result => exact keeps result handled
  | error raised => exact handled

theorem createBranch_handled (request : CreateRemoteBranchRequest) :
    Handled (fun _ => True) (createBranch client request []).1 := by
  unfold createBranch rejectProtectedBranch
  rw [if_neg request.branch_valid.2]
  exact ask_handled createdBranch_handled _ _

/-- Every operation returns a valid result or raises a `RemoteGitError`, the commit exactly when the
answers fit; and a commit that returns was created on the expected head only and is where the branch
was moved to. -/
theorem operation_handled (upper : PyStr → PyStr) (client : Client) :
    (∀ operation : Operation, Handled Outcome.Valid (operation.run upper client) ↔
      operation.Answered client) ∧
      ∀ request result, (commitAndPush client request []).1 = .ok result →
        Pushed client request result (commitAndPush client request []).2 := by
  refine ⟨fun operation => ?_, fun request => commit_settles.2⟩
  cases operation with
  | getRepository =>
      exact iff_of_true (map_handled (ask_handled repositoryMetadata_handled _ _) fun _ done =>
        done) trivial
  | createBranch request =>
      exact iff_of_true (map_handled (createBranch_handled request) fun _ done => done) trivial
  | commitAndPush request =>
      refine Iff.trans ?_ commit_settles.1
      change Handled Outcome.Valid ((commitAndPush client request []).1.map Outcome.commit) ↔ _
      cases (commitAndPush client request []).1 <;> exact Iff.rfl
  | createPullRequest request =>
      exact iff_of_true
        (map_handled (ask_handled (mapping_handled pullRequest_handled) _ _) fun _ fits => fits)
          trivial
  | getPullRequest number =>
      exact iff_of_true
        (map_handled (ask_handled (mapping_handled pullRequest_handled) _ _) fun _ fits => fits)
          trivial
  | listReviews number =>
      exact iff_of_true (map_handled (ask_handled listReviews_handled _ _) fun _ done => done)
        trivial
  | listChecks headSha =>
      exact iff_of_true (map_handled (ask_handled listChecks_handled _ _) fun _ fits => fits)
        trivial
  | mergePullRequest surroundings request numbered =>
      exact iff_of_true (map_handled (mergePullRequest_handled numbered) fun _ fits => fits) trivial

end Operations

section Sample

def sampleCommit : RemoteCommitRequest where
  branch := .ofString "feature"
  expectedHeadSha := .ofString sampleSha
  message := .ofString "m"
  changes := [⟨.ofString "a.py", .ofString "x"⟩]
  branch_valid := by decide
  sha_valid := by decide
  changes_bound := by decide

/-- A branch without its object is a `KeyError`. -/
theorem commit_unhandled : (commitAndPush (fun _ => .value (.dict [])) sampleCommit []).1 =
    .error .invalid ∧
    ¬ Handled Outcome.Valid ((Operation.commitAndPush sampleCommit).run id fun _ =>
      .value (.dict [])) := by
  have raised : (commitAndPush (fun _ => .value (.dict [])) sampleCommit []).1 = .error .invalid :=
    rfl
  refine ⟨raised, ?_⟩
  change ¬ Handled Outcome.Valid
    ((commitAndPush (fun _ => .value (.dict [])) sampleCommit []).1.map Outcome.commit)
  rw [raised]
  rintro ⟨code, told⟩
  cases told

end Sample

end SynapseOS.Git
