import SynapseOS.Lib.Trace
import SynapseOS.Runtime.Runs

/-! A run whose recorder raises `AUDIT_FAILED`. -/

namespace SynapseOS.Runtime

open Tools

/-- A record call that raises `AUDIT_FAILED` is the last event, and the run stands where that
exception was raised. -/
def Stopped (p : Point) (l : Ledger) : Prop :=
  ∀ before record after,
    l.trace = before ++ .recorded record (some (.runtime .auditFailed)) :: after →
    after = [] ∧ ((p = .thrown (.runtime .auditFailed) ∧ record.outcome ≠ .timedOut) ∨
      (p = .escaped (.runtime .auditFailed) ∧ record.outcome = .timedOut))

section Moves

variable {limits : RuntimeLimits} {p q : Point} {l m : Ledger}

/-- Where the run can go on, no record call has raised `AUDIT_FAILED`. -/
theorem stopped_clean (stopped : Stopped p l) (thrown : p ≠ .thrown (.runtime .auditFailed))
    (escaped : p ≠ .escaped (.runtime .auditFailed)) (record : RuntimeAuditRecord) :
    .recorded record (some (.runtime .auditFailed)) ∉ l.trace := by
  intro member
  obtain ⟨before, after, split⟩ := List.append_of_mem member
  rcases (stopped before record after split).2 with ⟨same, _⟩ | ⟨same, _⟩
  · exact thrown same
  · exact escaped same

theorem stopped_same (clean : ∀ record, .recorded record (some (.runtime .auditFailed)) ∉ l.trace)
    (same : m.trace = l.trace) : Stopped q m := by
  intro before record after split
  have member : .recorded record (some (.runtime .auditFailed)) ∈ l.trace := by
    rw [← same, split]
    exact List.mem_append_right _ List.mem_cons_self
  exact absurd member (clean record)

theorem stopped_log (clean : ∀ record, .recorded record (some (.runtime .auditFailed)) ∉ l.trace)
    (event : Event)
    (now : ∀ record, event = .recorded record (some (.runtime .auditFailed)) →
      (q = .thrown (.runtime .auditFailed) ∧ record.outcome ≠ .timedOut) ∨
        (q = .escaped (.runtime .auditFailed) ∧ record.outcome = .timedOut)) :
    Stopped q (l.log event) := by
  intro before record after split
  rcases split_concat split with ⟨rfl, rfl, same⟩ | ⟨rest, rfl, earlier⟩
  · exact ⟨rfl, now record same.symm⟩
  · have member : .recorded record (some (.runtime .auditFailed)) ∈ l.trace := by
      rw [earlier]
      exact List.mem_append_right _ List.mem_cons_self
    exact absurd member (clean record)

theorem stopped_move (stopped : Stopped p l) (taken : Move limits p l q m) : Stopped q m := by
  have clean := stopped_clean stopped
  cases taken with
  | begin_ | pay | timeOutInvalid => exact stopped_same (clean (by simp) (by simp)) rfl
  | recover _ code ordinary => exact stopped_same (clean (by simpa using ordinary) (by simp)) rfl
  | expire _ e late =>
      rcases late with rfl | rfl
      · exact stopped_same (clean (by simp) (by simp)) rfl
      · exact stopped_same (clean (by simp) (by simp)) rfl
  | invalid _ _ recording =>
      apply stopped_same (clean _ _) rfl
      · rintro rfl
        cases recording
      · rintro rfl
        cases recording
  | reject _ _ record e recording _ timely =>
      apply stopped_log (clean _ _)
      · intro other same
        obtain ⟨rfl, raised⟩ := Event.recorded.inj same
        rw [Option.some.inj raised]
        exact .inl ⟨rfl, timely⟩
      · rintro rfl
        cases recording
      · rintro rfl
        cases recording
  | timeOutRejected _ record e describes =>
      apply stopped_log (clean (by simp) (by simp))
      intro other same
      obtain ⟨rfl, raised⟩ := Event.recorded.inj same
      rw [Option.some.inj raised]
      exact .inr ⟨rfl, describes.outcome⟩
  | call _ name arguments =>
      exact stopped_log (clean (by simp) (by simp)) (.toolCalled name arguments) (by simp)
  | answer _ step output =>
      exact stopped_log (clean (by simp) (by simp)) (.answered step output) (by simp)
  | append _ _ entry =>
      exact stopped_log (clean (by simp) (by simp)) (.appended entry _) (by simp)
  | open_ | ask | refuse | drop | obtain_ | unaudited | interrupt | close | observed | rethrow
  | terminate | timeOut | withdraw =>
      exact stopped_log (clean (by simp) (by simp)) _ (by simp)

theorem reached_stopped (reached : Reached limits p l) : Stopped p l := by
  apply reached_invariant Stopped _ _ reached
  · intro before record after split
    simp at split
  · exact fun _ _ _ _ _ stopped taken => stopped_move stopped taken

end Moves

def AuditFailure (outcome : Except Exn RuntimeResult) : Prop :=
  ∃ r, outcome = .ok r ∧ r.status = .failed ∧ r.reason = .auditFailed

theorem ends_closed {rt : AgentRuntime} {task : RuntimeTask} {context : ToolExecutionContext}
    {outcome : Except Exn RuntimeResult} {l : Ledger} (ends : Ends rt task context outcome l)
    {before after : Trace} {record : RuntimeAuditRecord}
    (split : l.trace = before ++ .recorded record (some (.runtime .auditFailed)) :: after) :
    after = [] ∧ (AuditFailure outcome ↔ record.outcome ≠ .timedOut) := by
  cases ends with
  | mismatched => simp at split
  | returned _ status reason r _ reached =>
      rcases (reached_stopped reached before record after split).2 with ⟨other, _⟩ | ⟨other, _⟩
      · cases other
      · cases other
  | auditFailed _ r _ reached reports =>
      obtain ⟨last, standing⟩ := reached_stopped reached before record after split
      rcases standing with ⟨_, timely⟩ | ⟨other, _⟩
      · refine ⟨last, ⟨fun _ => timely, fun _ => ?_⟩⟩
        exact ⟨r, rfl, reports.status, reports.reason⟩
      · cases other
  | raised _ e _ reached _ other =>
      rcases (reached_stopped reached before record after split).2 with ⟨same, _⟩ | ⟨same, _⟩
      · exact absurd (Point.thrown.inj same) other.2.2.2
      · cases same
  | escaped _ e _ reached =>
      obtain ⟨last, standing⟩ := reached_stopped reached before record after split
      rcases standing with ⟨other, _⟩ | ⟨_, late⟩
      · cases other
      · refine ⟨last, ⟨?_, fun timely => absurd late timely⟩⟩
        rintro ⟨r, returned, _⟩
        cases returned

/-- After a record call raised `AUDIT_FAILED` no tool is called, and the run returns FAILED with
AUDIT_FAILED unless the call was for the terminal record of the global timeout. -/
theorem audit_failure_closes (rt : AgentRuntime) (task : RuntimeTask)
    (context : ToolExecutionContext) (before after : Trace) (record : RuntimeAuditRecord)
    (split : (run rt task context start).2.trace =
      before ++ .recorded record (some (.runtime .auditFailed)) :: after) :
    (AuditFailure (run rt task context start).1 ∧ ∀ name arguments,
        .toolCalled name arguments ∉ after) ↔ record.outcome ≠ .timedOut := by
  obtain ⟨rfl, closed⟩ := ends_closed (run_ends rt task context) split
  constructor
  · exact fun held => closed.mp held.1
  · exact fun timely => ⟨closed.mpr timely, fun _ _ member => nomatch member⟩

def failingEnv (fails : RuntimeAuditOutcome → Bool) : Collaborators :=
  { sampleEnv with
    record := fun _ record =>
      if fails record.outcome then some (.runtime .auditFailed) else none }

def failingRuntime : AgentRuntime :=
  ⟨failingEnv fun outcome => decide (outcome = .succeeded), sampleLimits 100 hundred_tokens,
    by decide⟩

def Event.failsTimely : Event → Bool
  | .recorded record (some (.runtime .auditFailed)) => decide (record.outcome ≠ .timedOut)
  | _ => false

theorem timely_split {trace : Trace} (found : trace.any Event.failsTimely = true) :
    ∃ before record after,
      trace = before ++ .recorded record (some (.runtime .auditFailed)) :: after ∧
        record.outcome ≠ .timedOut := by
  obtain ⟨event, member, timely⟩ := List.any_eq_true.mp found
  unfold Event.failsTimely at timely
  split at timely
  · next record =>
      obtain ⟨before, after, split⟩ := List.append_of_mem member
      exact ⟨before, record, after, split, of_decide_eq_true timely⟩
  · cases timely

theorem audit_failure_closes_sample :
    AuditFailure (run failingRuntime sampleTask sampleContext start).1 := by
  obtain ⟨before, record, after, split, timely⟩ : ∃ before record after,
      (run failingRuntime sampleTask sampleContext start).2.trace =
        before ++ .recorded record (some (.runtime .auditFailed)) :: after ∧
      record.outcome ≠ .timedOut := timely_split (by decide +kernel)
  exact ((audit_failure_closes failingRuntime sampleTask sampleContext before after record
    split).mpr timely).1

def lateRuntime : AgentRuntime :=
  ⟨{ failingEnv fun outcome => decide (outcome = .timedOut) with
      observe := fun _ _ _ => .error .expired }, sampleLimits 100 hundred_tokens, by decide⟩

theorem audit_failure_escapes :
    ((run lateRuntime sampleTask sampleContext start).2.trace.any fun event => match event with
      | .recorded _ (some (.runtime .auditFailed)) => true
      | _ => false) = true ∧
    verdict (run lateRuntime sampleTask sampleContext start).1 =
      .error (.runtime .auditFailed) := by
  decide +kernel

end SynapseOS.Runtime
