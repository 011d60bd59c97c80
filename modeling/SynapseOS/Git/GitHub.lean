import SynapseOS.Git.Remote

/-! The merge of a pull request through GitHub (`infrastructure/git/github/provider.py`). -/

namespace SynapseOS.Git

open Execution Tools

inductive RemoteGitAuditOutcome
  | started
  | succeeded
  | failed
  | blocked
  deriving DecidableEq, Repr

def RemoteGitAuditOutcome.terminal : RemoteGitAuditOutcome → Bool
  | .started => false
  | .succeeded | .failed | .blocked => true

/-- What the audit sink raises: an `Exception`, or something that is none. -/
inductive SinkRaise
  | exception
  | interrupt
  deriving DecidableEq, Repr

def SinkRaise.seen : SinkRaise → Raised
  | .exception => .remote .auditFailed
  | .interrupt => .other

/-- What the sink does with one event: it may keep it, and it may raise all the same. -/
structure SinkReaction where
  kept : Bool
  raised : Option SinkRaise
  deriving DecidableEq, Repr

inductive Reply
  | value (body : JsonValue)
  | raises (raised : Raised)

def Reply.read : Reply → Except Raised JsonValue
  | .value body => .ok body
  | .raises raised => .error raised

inductive GateReply
  | pass
  | block
  | raises (raised : Raised)

structure RemoteMergeRequest where
  number : Nat
  expectedHeadSha : PyStr

/-- What surrounds one merge: the replies to its three requests, whether GitHub merges at the last
one, the gate, and the sink's reaction to each of its events. -/
structure MergeWorld where
  configured : Bool
  pull : Reply
  gate : GateReply
  checks : Reply
  merge : Reply
  applied : Bool
  sink : Nat → SinkReaction
  upper : PyStr → PyStr

structure AuditRecord where
  outcome : RemoteGitAuditOutcome
  reaction : SinkReaction
  deriving DecidableEq, Repr

structure MergeRun where
  result : Except Raised RemoteMergeResult
  records : List AuditRecord
  sent : Bool

/-- `require_passing_checks`. -/
def passingChecks (checks : List RemoteCheck) (expectedHeadSha : PyStr) : Bool :=
  decide (checks ≠ []) && checks.all fun check =>
    decide (check.headSha = expectedHeadSha ∧ check.status = .completed ∧
      check.conclusion = some .success)

section Merge

variable (world : MergeWorld) (request : RemoteMergeRequest)

def prepareMerge : Except Raised Unit := do
  let pull ← pullRequest world.upper (← mapping (← world.pull.read))
  if pull.headSha ≠ request.expectedHeadSha then .error (.remote .staleState) else pure ()
  match world.gate with
  | .raises raised => .error raised
  | .block => .error (.remote .gateBlocked)
  | .pass => pure ()
  let checks ← listChecks world.upper (← world.checks.read)
  if passingChecks checks request.expectedHeadSha = true then pure ()
  else .error (.remote .gateBlocked)

def readMerge : Except Raised RemoteMergeResult :=
  do mergeResult request.number (← world.merge.read)

/-- `_record_audit`: the records with the event, and what it raises. -/
def recordAudit (outcome : RemoteGitAuditOutcome) (records : List AuditRecord) :
    List AuditRecord × Option Raised :=
  let reaction := world.sink records.length
  (records ++ [⟨outcome, reaction⟩],
    reaction.raised.map SinkRaise.seen)

def handleMerge (raised : Raised) (records : List AuditRecord) (sent : Bool) : MergeRun :=
  match raised with
  | .other => ⟨.error .other, records, sent⟩
  | .remote code =>
      let (after, failure) := recordAudit world .blocked records
      ⟨.error (failure.getD (.remote code)), after, sent⟩
  | .invalid =>
      let (after, failure) := recordAudit world .failed records
      ⟨.error (failure.getD (.remote .responseInvalid)), after, sent⟩

def mergePullRequest : MergeRun :=
  if world.configured = false then ⟨.error (.remote .gateBlocked), [], false⟩
  else
    match recordAudit world .started [] with
    | (records, some failure) => ⟨.error failure, records, false⟩
    | (records, none) =>
        match prepareMerge world request with
        | .error raised => handleMerge world raised records false
        | .ok _ =>
            match readMerge world request with
            | .error raised => handleMerge world raised records true
            | .ok result =>
                match recordAudit world .succeeded records with
                | (after, some failure) => handleMerge world failure after true
                | (after, none) => ⟨.ok result, after, true⟩

end Merge

section Property

def MergeRun.lastOutcome (run : MergeRun) : Option RemoteGitAuditOutcome :=
  ((run.records.filter fun record => record.reaction.kept).map fun record =>
    record.outcome).getLast?

def MergeRun.merged (world : MergeWorld) (run : MergeRun) : Prop :=
  run.sent = true ∧ world.applied = true

def Reply.saysMerged : Reply → Prop
  | .value (.dict data) => JsonObject.get data "merged" = some (.boolean true)
  | _ => False

/-- The audit of a run tells what happened. -/
structure TruthfulAudit (world : MergeWorld) (run : MergeRun) : Prop where
  unmerged : run.lastOutcome = some .blocked ∨ run.lastOutcome = some .failed → ¬ run.merged world
  succeeded : run.lastOutcome = some .succeeded → world.merge.saysMerged
  returned : ∀ result, run.result = .ok result → result.merged = true →
    ∃ record ∈ run.records, record.outcome = .succeeded ∧ record.reaction.raised = none
  once : run.records.Pairwise fun first second =>
    first.outcome.terminal = true → first.reaction.raised = none → second.outcome.terminal = false

end Property

section Cases

variable (world : MergeWorld) (request : RemoteMergeRequest)

def Sends : Prop :=
  world.configured = true ∧ (world.sink 0).raised = none ∧ prepareMerge world request = .ok ()

/-- What can go wrong after the request is sent does not: an error is only recorded of a merge that
was not applied, and a success only of a reply that says so. -/
structure MergeSound : Prop where
  refused : ∀ raised, readMerge world request = .error raised → raised ≠ .other →
    (world.sink 1).kept = true → world.applied = false
  unrecorded : ∀ result, readMerge world request = .ok result →
    (world.sink 1).raised = some .exception → (world.sink 2).kept = true → world.applied = false
  accepted : ∀ result, readMerge world request = .ok result → (world.sink 1).kept = true →
    ((world.sink 1).raised = some .exception → (world.sink 2).kept = false) → world.merge.saysMerged

def RecordsError (records : List AuditRecord) : Prop :=
  ∃ outcome, (outcome = .blocked ∨ outcome = .failed) ∧
    records = [⟨.started, world.sink 0⟩, ⟨outcome, world.sink 1⟩]

theorem recordAudit_calm (outcome : RemoteGitAuditOutcome) (records : List AuditRecord)
    (calm : (world.sink records.length).raised = none) :
    recordAudit world outcome records = (records ++ [⟨outcome, world.sink records.length⟩],
      none) := by
  rw [recordAudit, calm]
  rfl

theorem recordAudit_raises (outcome : RemoteGitAuditOutcome) (records : List AuditRecord)
    {failure : SinkRaise} (raises : (world.sink records.length).raised = some failure) :
    recordAudit world outcome records =
      (records ++ [⟨outcome, world.sink records.length⟩], some failure.seen) := by
  rw [recordAudit, raises]
  rfl

theorem handleMerge_cases (raised : Raised) (sent : Bool) :
    let run := handleMerge world raised [⟨.started, world.sink 0⟩] sent
    run.sent = sent ∧ (∃ failure, run.result = .error failure) ∧
      ((raised = .other ∧ run.records = [⟨.started, world.sink 0⟩]) ∨
        (raised ≠ .other ∧ RecordsError world run.records)) := by
  cases raised with
  | other => exact ⟨rfl, ⟨_, rfl⟩, .inl ⟨rfl, rfl⟩⟩
  | remote code =>
      exact ⟨rfl, ⟨_, rfl⟩, .inr ⟨Raised.noConfusion, .blocked, .inl rfl, rfl⟩⟩
  | invalid => exact ⟨rfl, ⟨_, rfl⟩, .inr ⟨Raised.noConfusion, .failed, .inr rfl, rfl⟩⟩

/-- A run that does not send the request. -/
theorem merge_unsent (unsent : ¬ Sends world request) :
    let run := mergePullRequest world request
    run.sent = false ∧ (∃ failure, run.result = .error failure) ∧
      (run.records = [] ∨ run.records = [⟨.started, world.sink 0⟩] ∨
        RecordsError world run.records) := by
  unfold mergePullRequest
  by_cases configured : world.configured = true
  · rw [if_neg (by rw [configured]; exact Bool.noConfusion)]
    cases starts : (world.sink 0).raised with
    | some failure =>
        rw [recordAudit_raises world .started [] starts]
        exact ⟨rfl, ⟨_, rfl⟩, .inr (.inl rfl)⟩
    | none =>
        rw [recordAudit_calm world .started [] starts]
        cases prepared : prepareMerge world request with
        | ok done => exact absurd ⟨configured, starts, prepared⟩ unsent
        | error raised =>
            obtain ⟨sent, result, records⟩ := handleMerge_cases world raised false
            refine ⟨sent, result, ?_⟩
            rcases records with ⟨_, alone⟩ | ⟨_, recorded⟩
            · exact .inr (.inl alone)
            · exact .inr (.inr recorded)
  · rw [if_pos (Bool.not_eq_true _ ▸ configured)]
    exact ⟨rfl, ⟨_, rfl⟩, .inl rfl⟩

/-- A run that sends the request, by the reply and the sink. -/
theorem merge_sent (sends : Sends world request) :
    let run := mergePullRequest world request
    run.sent = true ∧
      ((∃ raised, readMerge world request = .error raised ∧
        (∃ failure, run.result = .error failure) ∧
          ((raised = .other ∧ run.records = [⟨.started, world.sink 0⟩]) ∨
            (raised ≠ .other ∧ RecordsError world run.records))) ∨
        ∃ result, readMerge world request = .ok result ∧
          (((world.sink 1).raised = none ∧ run.result = .ok result ∧
              run.records = [⟨.started, world.sink 0⟩, ⟨.succeeded, world.sink 1⟩]) ∨
            ((world.sink 1).raised = some .interrupt ∧ (∃ failure, run.result = .error failure) ∧
              run.records = [⟨.started, world.sink 0⟩, ⟨.succeeded, world.sink 1⟩]) ∨
            ((world.sink 1).raised = some .exception ∧ (∃ failure, run.result = .error failure) ∧
              run.records = [⟨.started, world.sink 0⟩, ⟨.succeeded, world.sink 1⟩,
                ⟨.blocked, world.sink 2⟩]))) := by
  obtain ⟨configured, starts, prepared⟩ := sends
  unfold mergePullRequest
  rw [if_neg (by rw [configured]; exact Bool.noConfusion)]
  rw [recordAudit_calm world .started [] starts]
  simp only [prepared]
  cases reply : readMerge world request with
  | error raised =>
      obtain ⟨sent, result, records⟩ := handleMerge_cases world raised true
      exact ⟨sent, .inl ⟨raised, rfl, result, records⟩⟩
  | ok result =>
      cases ends : (world.sink 1).raised with
      | none =>
          rw [show ([] : List AuditRecord) ++
            [⟨.started, world.sink ([] : List AuditRecord).length⟩] =
            [⟨.started, world.sink 0⟩] from rfl, recordAudit_calm world .succeeded
              [⟨.started, world.sink 0⟩] ends]
          exact ⟨rfl, .inr ⟨result, rfl, .inl ⟨rfl, rfl, rfl⟩⟩⟩
      | some failure =>
          rw [show ([] : List AuditRecord) ++
            [⟨.started, world.sink ([] : List AuditRecord).length⟩] =
            [⟨.started, world.sink 0⟩] from rfl, recordAudit_raises world .succeeded
              [⟨.started, world.sink 0⟩] ends]
          cases failure with
          | interrupt => exact ⟨rfl, .inr ⟨result, rfl, .inr (.inl ⟨rfl, ⟨_, rfl⟩, rfl⟩)⟩⟩
          | exception => exact ⟨rfl, .inr ⟨result, rfl, .inr (.inr ⟨rfl, ⟨_, rfl⟩, rfl⟩)⟩⟩

end Cases

section Truth

variable {world : MergeWorld} {request : RemoteMergeRequest} {run : MergeRun}

theorem lastOutcome_one {first : AuditRecord} (records : run.records = [first]) :
    run.lastOutcome = if first.reaction.kept = true then some first.outcome else none := by
  unfold MergeRun.lastOutcome
  rw [records]
  cases kept : first.reaction.kept <;> simp [kept]

theorem lastOutcome_two {first second : AuditRecord} (records : run.records = [first, second]) :
    run.lastOutcome = if second.reaction.kept = true then some second.outcome
      else if first.reaction.kept = true then some first.outcome else none := by
  unfold MergeRun.lastOutcome
  rw [records]
  cases one : first.reaction.kept <;> cases two : second.reaction.kept <;> simp [one, two]

theorem lastOutcome_three {first second third : AuditRecord}
    (records : run.records = [first, second, third]) :
    run.lastOutcome = if third.reaction.kept = true then some third.outcome
      else if second.reaction.kept = true then some second.outcome
      else if first.reaction.kept = true then some first.outcome else none := by
  unfold MergeRun.lastOutcome
  rw [records]
  cases one : first.reaction.kept <;> cases two : second.reaction.kept <;>
    cases three : third.reaction.kept <;> simp [one, two, three]

theorem truthful_unsent (unsent : run.sent = false)
    (failed : ∃ failure, run.result = .error failure)
    (records : run.records = [] ∨ run.records = [⟨.started, world.sink 0⟩] ∨
      RecordsError world run.records) : TruthfulAudit world run := by
  have silent : run.lastOutcome ≠ some .succeeded := by
    rcases records with none_ | one | ⟨outcome, kind, two⟩
    · unfold MergeRun.lastOutcome
      rw [none_]
      simp
    · rw [lastOutcome_one one]
      split <;> simp
    · rw [lastOutcome_two two]
      rcases kind with rfl | rfl <;> split_ifs <;> simp
  obtain ⟨failure, result⟩ := failed
  refine ⟨fun _ merged => ?_, fun succeeded => absurd succeeded silent, fun other ok => ?_, ?_⟩
  · obtain ⟨was, _⟩ := merged
    rw [unsent] at was
    cases was
  · rw [result] at ok
    cases ok
  · rcases records with none_ | one | ⟨outcome, kind, two⟩
    · rw [none_]
      exact .nil
    · rw [one]
      exact List.pairwise_singleton _ _
    · rw [two]
      simp [RemoteGitAuditOutcome.terminal]

theorem truthful_silent (failed : ∃ failure, run.result = .error failure)
    (alone : run.records = [⟨.started, world.sink 0⟩]) : TruthfulAudit world run := by
  have last := lastOutcome_one alone
  obtain ⟨failure, result⟩ := failed
  refine ⟨fun failing => ?_, fun succeeded => ?_, fun other ok => ?_, ?_⟩
  · rw [last] at failing
    split at failing <;> simp at failing
  · rw [last] at succeeded
    split at succeeded <;> simp at succeeded
  · rw [result] at ok
    cases ok
  · rw [alone]
    exact List.pairwise_singleton _ _

theorem truthful_refused (sent : run.sent = true) (failed : ∃ failure, run.result = .error failure)
    (records : RecordsError world run.records) :
    TruthfulAudit world run ↔ ((world.sink 1).kept = true → world.applied = false) := by
  obtain ⟨outcome, kind, two⟩ := records
  obtain ⟨failure, result⟩ := failed
  have last := lastOutcome_two two
  have silent : run.lastOutcome ≠ some .succeeded := by
    rw [last]
    rcases kind with rfl | rfl <;> split_ifs <;> simp
  constructor
  · intro truthful kept
    rw [if_pos kept] at last
    by_contra applied
    refine truthful.unmerged ?_ ⟨sent, Bool.not_eq_false _ ▸ applied⟩
    rcases kind with rfl | rfl
    · exact .inl last
    · exact .inr last
  · intro unapplied
    refine ⟨fun failing merged => ?_, fun succeeded => absurd succeeded silent,
      fun other ok => ?_, ?_⟩
    · by_cases kept : (world.sink 1).kept = true
      · obtain ⟨_, applied⟩ := merged
        rw [unapplied kept] at applied
        cases applied
      · rw [last, if_neg kept] at failing
        split at failing <;> simp at failing
    · rw [result] at ok
      cases ok
    · rw [two]
      simp [RemoteGitAuditOutcome.terminal]

theorem truthful_accepted (result : RemoteMergeResult)
    (returns : run.result = .ok result ∧ (world.sink 1).raised = none ∨
      ∃ failure, run.result = .error failure)
    (records : run.records = [⟨.started, world.sink 0⟩, ⟨.succeeded, world.sink 1⟩]) :
    TruthfulAudit world run ↔ ((world.sink 1).kept = true → world.merge.saysMerged) := by
  have last := lastOutcome_two records
  constructor
  · intro truthful kept
    rw [if_pos kept] at last
    exact truthful.succeeded last
  · intro told
    refine ⟨fun failing merged => ?_, fun succeeded => ?_, fun other ok _ => ?_, ?_⟩
    · rw [last] at failing
      split_ifs at failing <;> simp at failing
    · by_cases kept : (world.sink 1).kept = true
      · exact told kept
      · rw [last, if_neg kept] at succeeded
        split at succeeded <;> simp at succeeded
    · rcases returns with ⟨_, calm⟩ | ⟨failure, raised⟩
      · exact ⟨_, by rw [records]; exact List.mem_cons_of_mem _ List.mem_cons_self, rfl, calm⟩
      · rw [raised] at ok
        cases ok
    · rw [records]
      simp [RemoteGitAuditOutcome.terminal]

theorem truthful_unrecorded (sent : run.sent = true)
    (failed : ∃ failure, run.result = .error failure)
    (raised : (world.sink 1).raised = some .exception)
    (records : run.records = [⟨.started, world.sink 0⟩, ⟨.succeeded, world.sink 1⟩,
      ⟨.blocked, world.sink 2⟩]) :
    TruthfulAudit world run ↔ ((world.sink 2).kept = true → world.applied = false) ∧
      ((world.sink 1).kept = true → (world.sink 2).kept = false → world.merge.saysMerged) := by
  obtain ⟨failure, result⟩ := failed
  have last := lastOutcome_three records
  constructor
  · intro truthful
    refine ⟨fun kept => ?_, fun kept unkept => ?_⟩
    · rw [if_pos kept] at last
      by_contra applied
      exact truthful.unmerged (.inl last) ⟨sent, Bool.not_eq_false _ ▸ applied⟩
    · rw [if_neg (by rw [unkept]; exact Bool.noConfusion), if_pos kept] at last
      exact truthful.succeeded last
  · rintro ⟨unapplied, told⟩
    refine ⟨fun failing merged => ?_, fun succeeded => ?_, fun other ok => ?_, ?_⟩
    · by_cases kept : (world.sink 2).kept = true
      · obtain ⟨_, applied⟩ := merged
        rw [unapplied kept] at applied
        cases applied
      · rw [last, if_neg kept] at failing
        split_ifs at failing <;> simp at failing
    · by_cases kept : (world.sink 2).kept = true
      · rw [last, if_pos kept] at succeeded
        cases succeeded
      · by_cases before : (world.sink 1).kept = true
        · exact told before (Bool.not_eq_true _ ▸ kept)
        · rw [last, if_neg kept, if_neg before] at succeeded
          split at succeeded <;> simp at succeeded
    · rw [result] at ok
      cases ok
    · rw [records]
      simp [RemoteGitAuditOutcome.terminal, raised]

/-- The audit of a merge is truthful exactly when no merge was applied behind a recorded error, and
a recorded success has a reply that says so. -/
theorem merge_audit_truthful (world : MergeWorld) (request : RemoteMergeRequest) :
    TruthfulAudit world (mergePullRequest world request) ↔
      (Sends world request → MergeSound world request) := by
  by_cases sends : Sends world request
  · obtain ⟨sent, ⟨raised, reply, failed, records⟩ | ⟨result, reply, records⟩⟩ :=
      merge_sent world request sends
    · rcases records with ⟨escaped, alone⟩ | ⟨other, recorded⟩
      · refine ⟨fun _ _ => ⟨fun failure read other => ?_, fun result read => ?_,
          fun result read => ?_⟩, fun _ => truthful_silent failed alone⟩
        · rw [reply] at read
          cases read
          exact absurd escaped other
        all_goals
          rw [reply] at read
          cases read
      · rw [truthful_refused sent failed recorded]
        constructor
        · intro unapplied _
          refine ⟨fun _ _ _ => unapplied, fun result read => ?_, fun result read => ?_⟩
          all_goals
            rw [reply] at read
            cases read
        · intro sound
          exact (sound sends).refused raised reply other
    · have readable : ∀ raised, readMerge world request ≠ .error raised := by
        intro raised read
        rw [reply] at read
        cases read
      rcases records with ⟨calm, returns, two⟩ | ⟨stopped, failed, two⟩ | ⟨raised, failed, three⟩
      · rw [truthful_accepted result (.inl ⟨returns, calm⟩) two]
        refine ⟨fun told _ => ⟨fun raised read => absurd read (readable raised), ?_, ?_⟩,
          fun sound kept => (sound sends).accepted result reply kept ?_⟩
        · intro _ _ raised
          rw [calm] at raised
          cases raised
        · exact fun _ _ kept _ => told kept
        · rw [calm]
          exact fun raised => by cases raised
      · rw [truthful_accepted result (.inr failed) two]
        refine ⟨fun told _ => ⟨fun raised read => absurd read (readable raised), ?_, ?_⟩,
          fun sound kept => (sound sends).accepted result reply kept ?_⟩
        · intro _ _ raised
          rw [stopped] at raised
          cases raised
        · exact fun _ _ kept _ => told kept
        · rw [stopped]
          exact fun raised => by cases raised
      · rw [truthful_unrecorded sent failed raised three]
        refine ⟨fun both _ => ⟨fun raised read => absurd read (readable raised), ?_, ?_⟩,
          fun sound => ⟨(sound sends).unrecorded result reply raised, fun kept unkept =>
            (sound sends).accepted result reply kept fun _ => unkept⟩⟩
        · exact fun _ _ _ kept => both.1 kept
        · exact fun _ _ kept unkept => both.2 kept (unkept raised)
  · obtain ⟨unsent, failed, records⟩ := merge_unsent world request sends
    exact ⟨fun _ sending => absurd sending sends, fun _ => truthful_unsent unsent failed records⟩

end Truth

section Sample

def sampleSha : String := "aaaaaaaaaaaaaaaaaaaaaaaaaaaaaaaaaaaaaaaa"

def samplePull : JsonValue := .dict [("number", .integer 7), ("state", .string "OPEN"),
  ("title", .string "Ship"),
  ("head", .dict [("ref", .string "feature"), ("sha", .string sampleSha)]),
  ("base", .dict [("ref", .string "main")]), ("mergeable", .boolean true)]

def sampleChecks : JsonValue := .dict [("check_runs", .list [.dict [("name", .string "tests"),
  ("status", .string "COMPLETED"), ("conclusion", .string "SUCCESS"),
  ("head_sha", .string sampleSha)]])]

def sampleWorld (merge : Reply) (applied : Bool) : MergeWorld where
  configured := true
  pull := .value samplePull
  gate := .pass
  checks := .value sampleChecks
  merge := merge
  applied := applied
  sink := fun _ => ⟨true, none⟩
  upper := id

def sampleMerge : RemoteMergeRequest := ⟨7, .ofString sampleSha⟩

/-- The request times out after GitHub merged, and a refused merge is answered as one. -/
theorem merge_misreported :
    (let world := sampleWorld (.raises (.remote .timedOut)) true
      let run := mergePullRequest world sampleMerge
      run.lastOutcome = some .blocked ∧ run.sent = true ∧ world.applied = true) ∧
    (let world := sampleWorld (.value (.dict [("merged", .boolean false),
        ("message", .string "Head branch was modified")])) false
      let run := mergePullRequest world sampleMerge
      run.lastOutcome = some .succeeded ∧
        run.result = .ok ⟨7, false, none, .ofString "Head branch was modified"⟩) := by
  refine ⟨by decide, ?_, ?_⟩
  · decide
  · rfl

end Sample

end SynapseOS.Git
