import SynapseOS.LocalGit.Workflow

/-! The calls of one `GitWorkflow` follow one another, each with its start and its end on record. -/

namespace SynapseOS.LocalGit

open Execution Transition

variable {checksum : PreparationPayload → PyStr} {calls : CallId → Call} {s t : State calls}
  {id other : CallId}

section Records

def Records (calls : CallId → Call) (id : CallId) (stage : GitAuditStage)
    (record : GitAuditRecord) : Prop :=
  record.context = (calls id).context ∧ record.operation = (calls id).request.operation ∧
    record.stage = stage

def Concludes (calls : CallId → Call) (id : CallId) (record : GitAuditRecord) :
    Outcome (calls id).request → Prop
  | .returned result => Records calls id .completed record ∧
      record.data = (calls id).request.completedData result
  | .raised (.git code) => Records calls id .failed record ∧
      record.data = [(.errorCode, .text code.text)]
  | .raised _ => False

theorem admit_data {call : Call} {rootStands : Bool} {data : GitAuditData}
    (admitted : call.validate rootStands = .ok data) : call.request.startedData = .ok data := by
  obtain ⟨_, _, started⟩ := bind_ok admitted
  exact started

theorem startRecord_built {data : GitAuditData}
    (started : (calls id).request.startedData = .ok data) :
    ∃ record, startRecord calls id data = .ok record := by
  obtain ⟨few, frozen⟩ := started_frozen started
  exact ⟨_, gitAuditRecord_ok few frozen rfl⟩

theorem startRecord_records {data : GitAuditData} {record : GitAuditRecord}
    (built : startRecord calls id data = .ok record) : Records calls id .started record := by
  obtain ⟨context, operation, stage, _⟩ := gitAuditRecord_fields built
  exact ⟨context, operation, stage⟩

theorem fail_concludes (id : CallId) (code : GitWorkflowErrorCode) :
    ∃ record, (calls id).fail code = .ok (record, .raised (.git code)) ∧
      Concludes calls id record (.raised (.git code)) := by
  have frozen : [((.errorCode : GitAuditDataKey), GitAuditDataValue.text code.text)].all freezable =
      true := by
    rw [List.all_cons, freezable_text (error_bounded code) rfl]
    rfl
  have built :
    ∃ record, gitAuditRecord (calls id).context (calls id).request.operation .failed .failed
      [(.errorCode, .text code.text)] = .ok record := ⟨_, gitAuditRecord_ok (by simp) frozen rfl⟩
  obtain ⟨record, built⟩ := built
  obtain ⟨context, operation, stage, _, data⟩ := gitAuditRecord_fields built
  refine ⟨record, ?_, ⟨context, operation, stage⟩, data⟩
  unfold Call.fail
  rw [built]
  rfl

theorem returned_concludes (id : CallId) (result : (calls id).request.Result) :
    ∃ record, (calls id).conclude (.ok (some result)) = .ok (record, .returned result) ∧
      Concludes calls id record (.returned result) := by
  obtain ⟨few, frozen⟩ := completed_frozen (calls id).request result
  have built : ∃ record, gitAuditRecord (calls id).context (calls id).request.operation .completed
      .succeeded ((calls id).request.completedData result) = .ok record :=
    ⟨_, gitAuditRecord_ok few frozen rfl⟩
  obtain ⟨record, built⟩ := built
  obtain ⟨context, operation, stage, _, data⟩ := gitAuditRecord_fields built
  refine ⟨record, ?_, ⟨context, operation, stage⟩, data⟩
  simp only [Call.conclude]
  rw [built]
  rfl

/-- How the execution of a call concludes: by a terminal record, or without one for a cancellation,
an exit or a value that is no model. -/
theorem conclude_cases (id : CallId) (ended : Except Thrown (Option (calls id).request.Result)) :
    (∃ record outcome, (calls id).conclude ended = .ok (record, outcome) ∧
      Concludes calls id record outcome) ∨
    (ended = .error .cancelled ∧ (calls id).conclude ended = .error .cancelled) ∨
    (ended = .error .exit ∧ (calls id).conclude ended = .error .exit) ∨
    (ended = .ok none ∧ (calls id).conclude ended = .error .other) := by
  cases ended with
  | error thrown =>
      cases thrown with
      | git code =>
          obtain ⟨record, built, concludes⟩ := fail_concludes id code
          exact .inl ⟨record, _, built, concludes⟩
      | cancelled => exact .inr (.inl ⟨rfl, rfl⟩)
      | timeout =>
          obtain ⟨record, built, concludes⟩ := fail_concludes id .timedOut
          exact .inl ⟨record, _, built, concludes⟩
      | other =>
          obtain ⟨record, built, concludes⟩ := fail_concludes id .gitFailed
          exact .inl ⟨record, _, built, concludes⟩
      | exit => exact .inr (.inr (.inl ⟨rfl, rfl⟩))
  | ok answer =>
      cases answer with
      | none => exact .inr (.inr (.inr ⟨rfl, rfl⟩))
      | some result =>
          obtain ⟨record, built, concludes⟩ := returned_concludes id result
          exact .inl ⟨record, _, built, concludes⟩

end Records

section Blocks

/-- What a call leaves in the trace when it ends so. -/
inductive Block (checksum : PreparationPayload → PyStr) (calls : CallId → Call) (id : CallId) :
    List (Event calls) → Outcome (calls id).request → Prop
  | rejected (rootStands : Bool) (thrown : Thrown)
      (refusal : (calls id).validate rootStands = .error thrown) :
      Block checksum calls id [] (.raised thrown)
  | withdrawn : Block checksum calls id [] (.raised .cancelled)
  | refused (record : GitAuditRecord) (thrown : Thrown)
      (starts : Records calls id .started record) :
      Block checksum calls id [.refused id record thrown] (.raised (recordFailure thrown))
  | closed (record : GitAuditRecord) (reply : Reply (calls id).request) (expired cancelling : Bool)
      (answer : Option Thrown) (starts : Records calls id .started record) :
      Block checksum calls id
        ([.recorded id record, .invoked id] ++
          (close checksum id reply expired cancelling answer).1)
        (close checksum id reply expired cancelling answer).2

theorem close_owned {reply : Reply (calls id).request} {expired cancelling : Bool}
    {answer : Option Thrown} {event : Event calls}
    (member : event ∈ (close checksum id reply expired cancelling answer).1) :
    event.owner = id := by
  simp only [close] at member
  split at member
  · rcases List.mem_singleton.mp member with rfl
    rfl
  · rcases List.mem_cons.mp member with rfl | last
    · rfl
    · rcases List.mem_singleton.mp last with rfl
      rfl
  · rcases List.mem_cons.mp member with rfl | last
    · rfl
    · rcases List.mem_singleton.mp last with rfl
      rfl

def Placed (checksum : PreparationPayload → PyStr) (s : State calls) (id : CallId) : Prop :=
  match s.phase id with
  | .idle => s.holder ≠ some id ∧ ∀ event ∈ s.trace, event.owner ≠ id
  | .waiting data => s.holder ≠ some id ∧ (calls id).request.startedData = .ok data ∧
      ∀ event ∈ s.trace, event.owner ≠ id
  | .running => s.holder = some id ∧ ∃ log record, s.trace = log ++ [.recorded id record,
      .invoked id] ∧
      Records calls id .started record ∧ ∀ event ∈ log, event.owner ≠ id
  | .ended outcome => s.holder ≠ some id ∧
      ∃ block, Block checksum calls id block outcome ∧ Segment Event.owner s.trace id block

theorem placed_initial (id : CallId) : Placed checksum (initial calls) id :=
  ⟨nofun, fun _ member => nomatch member⟩

theorem placed_waiting {data : GitAuditData} (placed : Placed checksum s id)
    (waits : s.phase id = .waiting data) : s.holder ≠ some id ∧
      (calls id).request.startedData = .ok data ∧ ∀ event ∈ s.trace, event.owner ≠ id := by
  unfold Placed at placed
  rw [waits] at placed
  exact placed

theorem placed_other {more : List (Event calls)} (placed : Placed checksum s other)
    (phase : t.phase other = s.phase other) (trace : t.trace = s.trace ++ more)
    (foreign : ∀ event ∈ more, event.owner ≠ other)
    (holds : t.holder = some other ↔ s.holder = some other)
    (quiet : s.holder = some other → more = []) : Placed checksum t other := by
  unfold Placed at placed ⊢
  rw [phase, trace]
  have absent (before : ∀ event ∈ s.trace, event.owner ≠ other) :
      ∀ event ∈ s.trace ++ more, event.owner ≠ other := by
    intro event member
    rcases List.mem_append.mp member with old | new
    · exact before event old
    · exact foreign event new
  cases standing : s.phase other with
  | idle =>
      rw [standing] at placed
      exact ⟨fun held => placed.1 (holds.mp held), absent placed.2⟩
  | waiting data =>
      rw [standing] at placed
      exact ⟨fun held => placed.1 (holds.mp held), placed.2.1, absent placed.2.2⟩
  | running =>
      rw [standing] at placed
      obtain ⟨held, log, record, split, starts, before⟩ := placed
      exact ⟨holds.mpr held, log, record, by rw [quiet held, List.append_nil, split],
        starts, before⟩
  | ended outcome =>
      rw [standing] at placed
      obtain ⟨free, block, shape, segment⟩ := placed
      exact ⟨fun held => free (holds.mp held), block, shape, segment.grow foreign⟩

theorem placed_set {phase : Phase (calls id).request} (placed : ∀ id, Placed checksum s id)
    (own : Placed checksum (s.set id phase) id) (other : CallId) :
    Placed checksum (s.set id phase) other := by
  by_cases same : other = id
  · rw [same]
    exact own
  · exact placed_other (placed other) (set_other same) (List.append_nil _).symm
      (fun _ member => nomatch member) Iff.rfl fun _ => rfl

theorem placed_entered {rootStands : Bool} (placed : Placed checksum s id)
    (idle : s.phase id = .idle) : Placed checksum (s.set id (entered calls id rootStands)) id := by
  unfold Placed at placed ⊢
  rw [idle] at placed
  rw [set_same]
  unfold entered
  cases admitted : (calls id).validate rootStands with
  | ok data => exact ⟨placed.1, admit_data admitted, placed.2⟩
  | error thrown => exact ⟨placed.1, [], .rejected rootStands thrown admitted,
      segment_absent placed.2⟩

/-- Each step keeps every call in its place. -/
theorem placed_moves (placed : ∀ id, Placed checksum s id) (moves : Moves checksum s t)
    (other : CallId) : Placed checksum t other := by
  cases moves with
  | called id rootStands idle => exact placed_set placed (placed_entered (placed id) idle) other
  | withdrawn id data waits =>
      obtain ⟨free, _, absent⟩ := placed_waiting (placed id) waits
      refine placed_set placed ?_ other
      unfold Placed
      rw [set_same]
      exact ⟨free, [], .withdrawn, segment_absent absent⟩
  | unbuilt id data thrown waits invalid =>
      obtain ⟨_, started, _⟩ := placed_waiting (placed id) waits
      obtain ⟨record, built⟩ := startRecord_built started
      rw [built] at invalid
      cases invalid
  | refused id data record thrown waits free built =>
      obtain ⟨_, _, absent⟩ := placed_waiting (placed id) waits
      by_cases same : other = id
      · subst same
        unfold Placed
        simp only [set_same]
        refine ⟨?_, _, .refused record thrown (startRecord_records built), segment_concat absent⟩
        simp [free]
      · refine placed_other (placed other) (set_other same) rfl ?_ Iff.rfl ?_
        · intro event member
          rw [List.mem_singleton.mp member]
          exact Ne.symm same
        · intro held
          rw [free] at held
          cases held
  | begun id data record waits free built =>
      obtain ⟨_, _, absent⟩ := placed_waiting (placed id) waits
      by_cases same : other = id
      · subst same
        unfold Placed
        simp only [set_same]
        exact ⟨trivial, s.trace, record, rfl, startRecord_records built, absent⟩
      · refine placed_other (placed other) (set_other same) rfl ?_ ?_ ?_
        · intro event member
          rcases List.mem_cons.mp member with rfl | last
          · exact Ne.symm same
          · rw [List.mem_singleton.mp last]
            exact Ne.symm same
        · rw [free]
          simp [Ne.symm same]
        · intro held
          rw [free] at held
          cases held
  | closed id reply expired cancelling answer runs =>
      have own := placed id
      unfold Placed at own
      rw [runs] at own
      obtain ⟨held, log, record, split, starts, absent⟩ := own
      by_cases same : other = id
      · subst same
        unfold Placed
        simp only [set_same]
        refine ⟨nofun, _, .closed record reply expired cancelling answer starts, ?_⟩
        rw [split, List.append_assoc]
        exact segment_concat absent
      · refine placed_other (placed other) (set_other same) rfl ?_ ?_ ?_
        · intro event member
          rw [close_owned member]
          exact Ne.symm same
        · rw [held]
          simp [Ne.symm same]
        · intro also
          rw [held] at also
          exact absurd (Option.some.inj also).symm same

theorem placed_run (run : Reaches (step checksum) (fun _ _ => True) (initial calls) s) :
    ∀ id, Placed checksum s id :=
  run.invariant (fun s => ∀ id, Placed checksum s id) placed_initial
    fun _ _ _ placed _ taken => placed_moves placed (step_moves checksum taken)

end Blocks

section Operations

/-- A value of the declared model, or an exception that is one of `Exception` or a cancellation. -/
def Reply.contracted {request : GitRequest} : Reply request → Prop
  | .returned _ => True
  | .foreign => False
  | .raised thrown => thrown ≠ .exit

/-- What the provider and the recorder did for a call is of their contracts. -/
def Contracted (s : State calls) (id : CallId) : Prop :=
  (∀ reply, .left id reply ∈ s.trace → reply.contracted) ∧
    ∀ record thrown, .refused id record thrown ∈ s.trace → thrown ≠ .exit

def Accepted (s : State calls) (id : CallId) : Prop :=
  ∀ record thrown, .refused id record thrown ∉ s.trace

/-- A result, a `GitWorkflowError` or a cancellation. -/
def Outcome.sanctioned {request : GitRequest} : Outcome request → Prop
  | .returned _ | .raised (.git _) | .raised .cancelled => True
  | .raised _ => False

theorem concludes_sanctioned {record : GitAuditRecord} {outcome : Outcome (calls id).request}
    (concludes : Concludes calls id record outcome) : outcome.sanctioned := by
  cases outcome with
  | returned result => trivial
  | raised thrown =>
      cases thrown with
      | git code => trivial
      | cancelled => trivial
      | timeout => exact concludes.elim
      | other => exact concludes.elim
      | exit => exact concludes.elim

theorem recordFailure_sanctioned {thrown : Thrown} (contracted : thrown ≠ .exit) :
    (Outcome.raised (recordFailure thrown) : Outcome (calls id).request).sanctioned := by
  cases thrown with
  | git code => trivial
  | cancelled => trivial
  | timeout => trivial
  | other => trivial
  | exit => exact contracted rfl

theorem leaveTimeout_exit {α : Type} {expired cancelling : Bool} {ended : Except Thrown α}
    (exits : leaveTimeout expired cancelling ended = .error .exit) : ended = .error .exit := by
  unfold leaveTimeout at exits
  split at exits
  · split at exits <;> cases exits
  · exact exits

theorem leaveTimeout_ok {α : Type} {expired cancelling : Bool} {ended : Except Thrown α} {value : α}
    (ends : leaveTimeout expired cancelling ended = .ok value) : ended = .ok value := by
  unfold leaveTimeout at ends
  split at ends
  · cases ends
  · exact ends

theorem invoke_contracted (checksum : PreparationPayload → PyStr) {scope : GitWorkflowContext}
    {request : GitRequest} {reply : Reply request}
    (contracted : reply.contracted) : request.invoke checksum scope reply ≠ .error .exit ∧
      request.invoke checksum scope reply ≠ .ok none := by
  cases reply with
  | returned value =>
      cases request <;> exact ⟨nofun, nofun⟩
  | foreign => exact contracted.elim
  | raised thrown =>
      have same : request.invoke checksum scope (.raised thrown) = .error thrown := by
        cases request <;> rfl
      rw [same]
      exact ⟨fun exits => contracted (Except.error.inj exits), nofun⟩

/-- How the end of an operation goes on record, when its reply is contracted. -/
theorem close_cases (checksum : PreparationPayload → PyStr) {reply : Reply (calls id).request}
    (expired cancelling : Bool)
    (answer : Option Thrown) (contracted : reply.contracted) :
    close checksum id reply expired cancelling answer = ([.left id reply], .raised .cancelled) ∨
    (∃ record thrown, close checksum id reply expired cancelling answer =
      ([.left id reply, .refused id record thrown], .raised (recordFailure thrown))) ∨
    ∃ record outcome, close checksum id reply expired cancelling answer =
      ([.left id reply, .recorded id record], outcome) ∧ Concludes calls id record outcome := by
  have invoked : (calls id).request.invoke checksum (calls id).context.toGitWorkflowContext reply ≠
      .error .exit ∧ (calls id).request.invoke checksum
        (calls id).context.toGitWorkflowContext reply ≠
      .ok none := invoke_contracted checksum contracted
  simp only [close]
  rcases conclude_cases id (leaveTimeout expired cancelling
      ((calls id).request.invoke checksum (calls id).context.toGitWorkflowContext reply)) with
    ⟨record, outcome, concluded, concludes⟩ | ⟨_, concluded⟩ | ⟨exits, _⟩ | ⟨none_, _⟩
  · rw [concluded]
    cases answer with
    | none => exact .inr (.inr ⟨record, outcome, rfl, concludes⟩)
    | some thrown => exact .inr (.inl ⟨record, thrown, rfl⟩)
  · rw [concluded]
    exact .inl rfl
  · exact absurd (leaveTimeout_exit exits) invoked.1
  · exact absurd (leaveTimeout_ok none_) invoked.2

theorem running_held (placed : Placed checksum s id) (runs : s.phase id = .running) :
    s.holder = some id := by
  unfold Placed at placed
  rw [runs] at placed
  exact placed.1

theorem close_left (checksum : PreparationPayload → PyStr) (id : CallId)
    (reply : Reply (calls id).request) (expired cancelling : Bool)
    (answer : Option Thrown) : ∃ rest,
      (close checksum id reply expired cancelling answer).1 = .left id reply :: rest ∧
        ∀ event ∈ rest, event ≠ .invoked id := by
  simp only [close]
  split
  · exact ⟨[], rfl, fun _ member => nomatch member⟩
  · next record outcome _ =>
      refine ⟨[.recorded id record], rfl, fun event member => ?_⟩
      rw [List.mem_singleton.mp member]
      nofun
  · next record outcome thrown _ =>
      refine ⟨[.refused id record thrown], rfl, fun event member => ?_⟩
      rw [List.mem_singleton.mp member]
      nofun

theorem invoked_bracketed {before after : List (Event calls)} (placed : Placed checksum s id)
    (split : s.trace = before ++ .invoked id :: after) :
    (∃ earlier record, before = earlier ++ [.recorded id record] ∧
      Records calls id .started record) ∧
      (after = [] ∨ ∃ reply later, after = .left id reply :: later) := by
  have member : .invoked id ∈ s.trace := by
    rw [split]
    exact List.mem_append_right _ List.mem_cons_self
  have differs (record : GitAuditRecord) : ∀ event ∈ [(.recorded id record : Event calls)],
      event ≠ .invoked id := by
    intro event single
    rw [List.mem_singleton.mp single]
    nofun
  unfold Placed at placed
  cases standing : s.phase id with
  | idle =>
      rw [standing] at placed
      exact absurd rfl (placed.2 _ member)
  | waiting data =>
      rw [standing] at placed
      exact absurd rfl (placed.2.2 _ member)
  | running =>
      rw [standing] at placed
      obtain ⟨_, log, record, shape, starts, absent⟩ := placed
      have first : ∀ event ∈ log ++ [.recorded id record], ¬ event = .invoked id := by
        intro event early same
        rcases List.mem_append.mp early with old | single
        · exact absent event old (same ▸ rfl)
        · exact differs record event single same
      have regrouped : (log ++ [.recorded id record]) ++ .invoked id :: [] =
          before ++ .invoked id :: after := by
        rw [← split, shape, List.append_assoc]
        rfl
      have last : ∀ event ∈ ([] : List (Event calls)), ¬ event = .invoked id :=
        fun _ empty => nomatch empty
      obtain ⟨same, _, final⟩ := split_unique first last regrouped rfl
      exact ⟨⟨log, record, same, starts⟩, .inl final⟩
  | ended outcome =>
      rw [standing] at placed
      obtain ⟨_, block, shape, segment⟩ := placed
      cases shape with
      | rejected rootStands thrown refusal => exact nomatch segment.member member rfl
      | withdrawn => exact nomatch segment.member member rfl
      | refused record thrown starts =>
          have same := List.mem_singleton.mp (segment.member member rfl)
          cases same
      | closed record reply expired cancelling answer starts =>
          obtain ⟨rest, opening, later⟩ := close_left checksum id reply expired cancelling answer
          rw [opening] at segment
          have once : ∀ event ∈ [.recorded id record] ++ .left id reply :: rest, event ≠
              .invoked id := by
            intro event own
            rcases List.mem_append.mp own with single | tail
            · exact differs record event single
            · rcases List.mem_cons.mp tail with rfl | tail
              · nofun
              · exact later event tail
          have around : Segment Event.owner s.trace id
              ([.recorded id record] ++ .invoked id :: .left id reply :: rest) := segment
          obtain ⟨⟨earlier, same⟩, following, final⟩ := around.around rfl once split
          exact ⟨⟨earlier, record, same, starts⟩, .inr ⟨reply, rest ++ following, final⟩⟩

theorem ended_audited {outcome : Outcome (calls id).request} (placed : Placed checksum s id)
    (ends : s.phase id = .ended outcome) (contracted : Contracted s id) :
    ((∃ record, .recorded id record ∈ s.trace) → outcome.sanctioned) ∧
    (Accepted s id → outcome ≠ .raised .cancelled →
      (∃ rootStands thrown, (calls id).validate rootStands = .error thrown ∧
        outcome = .raised thrown ∧
        ∀ event ∈ s.trace, event.owner ≠ id) ∨
      ∃ before start reply terminal after,
        s.trace = before ++ [.recorded id start, .invoked id, .left id reply,
          .recorded id terminal] ++ after ∧
        (∀ event ∈ before ++ after, event.owner ≠ id) ∧ Records calls id .started start ∧
        Concludes calls id terminal outcome) := by
  unfold Placed at placed
  rw [ends] at placed
  obtain ⟨_, block, shape, segment⟩ := placed
  have inside {event : Event calls} (own : event ∈ block) : event ∈ s.trace := by
    obtain ⟨before, after, same, _⟩ := segment
    rw [same]
    exact List.mem_append_left _ (List.mem_append_right _ own)
  cases shape with
  | rejected rootStands thrown refusal =>
      refine ⟨fun ⟨record, member⟩ => (nomatch segment.member member rfl), fun _ _ => ?_⟩
      refine .inl ⟨rootStands, thrown, refusal, rfl, fun event member owned => ?_⟩
      exact nomatch segment.member member owned
  | withdrawn => exact ⟨fun _ => trivial, fun _ other => absurd rfl other⟩
  | refused record thrown starts =>
      refine ⟨fun _ =>
        recordFailure_sanctioned (contracted.2 record thrown (inside List.mem_cons_self)), ?_⟩
      exact fun accepted => absurd (inside List.mem_cons_self) (accepted record thrown)
  | closed record reply expired cancelling answer starts =>
      obtain ⟨rest, opening, _⟩ := close_left checksum id reply expired cancelling answer
      have replied : reply.contracted := by
        refine contracted.1 reply (inside ?_)
        rw [opening]
        simp
      rcases close_cases checksum expired cancelling answer replied with
        closed | ⟨terminal, thrown, closed⟩ | ⟨terminal, outcome, closed, concludes⟩
      · rw [closed]
        exact ⟨fun _ => trivial, fun _ other => absurd rfl other⟩
      · have refused : .refused id terminal thrown ∈ s.trace := by
          refine inside ?_
          rw [closed]
          simp
        rw [closed]
        exact ⟨fun _ => recordFailure_sanctioned (contracted.2 terminal thrown refused),
          fun accepted => absurd refused (accepted terminal thrown)⟩
      · rw [closed] at segment ⊢
        refine ⟨fun _ => concludes_sanctioned concludes, fun _ _ => .inr ?_⟩
        obtain ⟨before, after, same, foreign⟩ := segment
        exact ⟨before, record, reply, terminal, after, same, foreign, starts, concludes⟩

/-- Operations of one workflow never overlap, are entered after their start is on record, and end
audited when the provider and the recorder keep their contracts. -/
theorem operations_audited (run : Reaches (step checksum) (fun _ _ => True) (initial calls) s) :
    (∀ first second, s.phase first = .running → s.phase second = .running → first = second) ∧
    (∀ id before after, s.trace = before ++ .invoked id :: after →
      (∃ earlier record, before = earlier ++ [.recorded id record] ∧
        Records calls id .started record) ∧
        (after = [] ∨ ∃ reply later, after = .left id reply :: later)) ∧
    ∀ id outcome, s.phase id = .ended outcome → Contracted s id →
      ((∃ record, .recorded id record ∈ s.trace) → outcome.sanctioned) ∧
      (Accepted s id → outcome ≠ .raised .cancelled →
        (∃ rootStands thrown, (calls id).validate rootStands = .error thrown ∧
          outcome = .raised thrown ∧
          ∀ event ∈ s.trace, event.owner ≠ id) ∨
        ∃ before start reply terminal after,
          s.trace = before ++ [.recorded id start, .invoked id, .left id reply,
            .recorded id terminal] ++ after ∧
          (∀ event ∈ before ++ after, event.owner ≠ id) ∧ Records calls id .started start ∧
          Concludes calls id terminal outcome) := by
  have placed := placed_run run
  refine ⟨fun first second runs also => ?_, fun id before after split => ?_,
    fun id outcome ends kept => ?_⟩
  · have held := running_held (placed first) runs
    rw [running_held (placed second) also] at held
    exact (Option.some.inj held).symm
  · exact invoked_bracketed (placed id) split
  · exact ended_audited (placed id) ends kept

end Operations

section Sample

theorem developer_identifier : Tools.identifierPattern "developer" = true := by decide

def sampleActor : GitAuthority where
  agentId := 1
  profile :=
    { id := ⟨"developer", developer_identifier⟩
      role := .ofString "Developer"
      status := .working
      autonomyLevel := 1
      permissionIds := [⟨"git.read", by decide⟩]
      toolIds := [] }
  permissionIds := ⟨[.gitRead], by decide⟩
  permissions_few := by decide
  active := by decide
  granted := by
    intro identifier
    simp only [List.mem_singleton, exists_eq_left]
    exact eq_comm

theorem one_second : (0 : ℚ) < 1 ∧ (1 : ℚ) ≤ 3600 := by norm_num

def sampleCall : Call where
  context :=
    { workspaceRoot := .ofString "/work"
      projectId := 2
      taskId := 3
      actorLogicalId := .ofString "developer"
      correlationId := 4
      actor := sampleActor
      agentRunId := none
      timeoutSeconds := 1
      logical := rfl
      timeout_valid := one_second }
  request := .getStatus

def sampleStart : GitAuditRecord :=
  ⟨sampleCall.context, .getStatus, .started, .succeeded, [], by decide, by decide, by decide⟩

abbrev SampleReply := Reply GitRequest.getStatus

def sampleEnd (reply : SampleReply) : State (fun _ => sampleCall) :=
  let closed := close (fun _ => []) 0 reply false false none
  { ((((initial _).set 0 (.waiting [])).set 0 .running).set 0 (.ended closed.2)) with
    trace := [.recorded 0 sampleStart, .invoked 0] ++ closed.1 }

theorem sample_reaches (reply : SampleReply) :
    Reaches (step fun _ => []) (fun _ _ => True) (initial fun _ => sampleCall)
    (sampleEnd reply) := by
  have called : Reaches (step fun _ => []) (fun _ _ => True) (initial fun _ => sampleCall)
      ((initial _).set 0 (.waiting [])) := .tail (a := .call 0 true) .refl trivial rfl
  have begun := called.tail (a := .acquire 0 none) trivial rfl
  exact begun.tail (a := .finish 0 reply false false none) trivial rfl

def sampleFailure : GitAuditRecord :=
  ⟨sampleCall.context, .getStatus, .failed, .failed,
    [(.errorCode, .text GitWorkflowErrorCode.gitFailed.text)],
    by decide, by decide, by decide⟩

theorem sample_trace : (sampleEnd (.raised .other)).trace =
    [.recorded 0 sampleStart, .invoked 0, .left 0 (.raised .other), .recorded 0 sampleFailure] :=
  rfl

theorem sample_accepted : Accepted (sampleEnd (.raised .other)) 0 := by
  intro record thrown member
  rw [sample_trace] at member
  simp at member

theorem sample_contracted : Contracted (sampleEnd (.raised .other)) 0 := by
  refine ⟨fun reply member => ?_,
    fun record thrown member => absurd member (sample_accepted record thrown)⟩
  rw [sample_trace] at member
  simp only [List.mem_cons, reduceCtorEq, List.not_mem_nil, or_false, false_or] at member
  rw [Event.left.inj member |>.2 |> eq_of_heq]
  show Thrown.other ≠ .exit
  simp

theorem operations_audited_sample : ∃ before start reply terminal after,
    (sampleEnd (.raised .other)).trace =
      before ++ [.recorded 0 start, .invoked 0, .left 0 reply, .recorded 0 terminal] ++ after ∧
    Concludes (fun _ => sampleCall) 0 terminal (.raised (.git .gitFailed)) := by
  have audited :=
    (operations_audited (sample_reaches (.raised .other))).2.2 0 _ rfl sample_contracted
  rcases audited.2 sample_accepted nofun with ⟨_, _, _, _, absent⟩ |
    ⟨before, start, reply, terminal, after, split, _, _, concludes⟩
  · exact absurd rfl
      (absent (.recorded 0 sampleStart) (by rw [sample_trace]; exact List.mem_cons_self))
  · exact ⟨before, start, reply, terminal, after, split, concludes⟩

/-- An exit of the provider, and a value that is no model, leave an accepted start without an
end. -/
theorem started_alone :
    (∃ s : State fun _ => sampleCall, Reaches (step fun _ => []) (fun _ _ => True) (initial _) s ∧
      s.phase 0 = .ended (.raised .exit) ∧
      s.trace = [.recorded 0 sampleStart, .invoked 0, .left 0 (.raised .exit)]) ∧
    ∃ s : State fun _ => sampleCall, Reaches (step fun _ => []) (fun _ _ => True) (initial _) s ∧
      s.phase 0 = .ended (.raised .other) ∧
      s.trace = [.recorded 0 sampleStart, .invoked 0, .left 0 .foreign] :=
  ⟨⟨_, sample_reaches (.raised .exit), rfl, rfl⟩, _, sample_reaches .foreign, rfl, rfl⟩

end Sample

end SynapseOS.LocalGit
