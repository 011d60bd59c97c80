import SynapseOS.Runtime.Invariants
import SynapseOS.Runtime.Simulation

/-! How a run of `AgentRuntime.run` ends. -/

namespace SynapseOS.Runtime

open Tools Program

structure Reports (r : RuntimeResult) (status : RuntimeTerminalStatus)
    (reason : RuntimeTerminalReason) (l : Ledger) : Prop where
  status : r.status = status
  reason : r.reason = reason
  counters : r.counters = l.counters
  history : r.history = l.history

/-- The ways in which a run ends, by the point of the protocol it came to. -/
inductive Ends (rt : AgentRuntime) (task : RuntimeTask) (context : ToolExecutionContext) :
    Except Exn RuntimeResult → Ledger → Prop
  | mismatched (different : task.taskId ≠ context.taskId) :
      Ends rt task context (.error (.runtime .invalidRequest)) {}
  | returned (l : Ledger) (status : RuntimeTerminalStatus) (reason : RuntimeTerminalReason)
      (r : RuntimeResult) (matched : task.taskId = context.taskId)
      (reached : Reached rt.limits (.closed status reason) l)
      (reports : Reports r status reason l) : Ends rt task context (.ok r) l
  | auditFailed (l : Ledger) (r : RuntimeResult) (matched : task.taskId = context.taskId)
      (reached : Reached rt.limits (.thrown (.runtime .auditFailed)) l)
      (reports : Reports r .failed .auditFailed l) : Ends rt task context (.ok r) l
  | raised (l : Ledger) (e : Exn) (matched : task.taskId = context.taskId)
      (reached : Reached rt.limits (.thrown e) l) (uncaught : Uncaught e l)
      (other : e ≠ .cancelled ∧ e ≠ .timeout ∧ e ≠ .expired ∧ e ≠ .runtime .auditFailed) :
      Ends rt task context (.error e) l
  | escaped (l : Ledger) (e : Exn) (matched : task.taskId = context.taskId)
      (reached : Reached rt.limits (.escaped e) l) : Ends rt task context (.error e) l

section Ends

variable {rt : AgentRuntime} {task : RuntimeTask} {context : ToolExecutionContext}
  {p : Point} {φ : Ledger → Prop}

theorem perfCounter_run {α : Type} (rest : ℚ → Action α) (w : World) :
    (perfCounter rt >>= rest) w =
      rest (rt.env.reading w.readings) { w with readings := w.readings + 1 } := rfl

theorem terminalRecord_run {α : Type} (outcome : RuntimeAuditOutcome)
    (reason : RuntimeTerminalReason) (rest : Except Exn RuntimeAuditRecord → Action α) (w : World) :
    (terminalRecord rt context outcome reason >>= rest) w =
      rest (buildRecord context w.run.counters .report outcome
        (elapsedMs w.run.started (rt.env.reading w.readings)) (some reason) none none none)
        { w with readings := w.readings + 1 } := rfl

theorem result_triple (ending : Ending) (bounded : ∀ l, Reached rt.limits p l → l.counters.Bounded)
    (accepts : ∀ l, Reached rt.limits p l → ending.1.accepts ending.2.1 = true) :
    Triple (At rt p φ) (result rt ending (rt.env.reading 0))
      (fun r w => Reached rt.limits p w.ledger ∧ Reports r ending.1 ending.2.1 w.ledger)
      (fun _ _ => False) := by
  intro w standing
  have fits : w.run.counters.Bounded := bounded _ standing.reached
  have later : 0 ≤ (rt.env.reading w.readings - rt.env.reading 0) * 1000 := by
    apply mul_nonneg
    · exact sub_nonneg.mpr (rt.env.monotone (Nat.zero_le _))
    · norm_num
  have retained : w.run.history.length ≤ 1000 := by
    have kept : w.run.history = _ := (reached_kept standing.reached).history
    rw [kept]
    exact (length_rtake_le _ _).trans rt.limits.history_bounds.2
  unfold result
  rw [perfCounter_run, look_run, dif_pos fits, dif_pos later, dif_pos retained,
    dif_pos (accepts _ standing.reached)]
  exact ⟨standing.reached, rfl, rfl, rfl, rfl⟩

def Ejected (rt : AgentRuntime) (e : Exn) (w : World) : Prop :=
  (e = .timeout ∧ At rt .overdue (fun _ => True) w) ∨
    (e ≠ .timeout ∧ e ≠ .expired ∧ Failing rt e w)

theorem timeoutScope_at {α : Type} {pre : World → Prop} {body : Action α}
    {post : α → World → Prop} (triple : Triple pre body post (Failing rt)) :
    Triple pre (timeoutScope body) post (Ejected rt) := by
  unfold timeoutScope
  apply triple_bind (triple_attempt triple)
  intro outcome
  split
  · apply triple_raise
    intro w failing
    exact .inl ⟨rfl, .move failing.reached (.expire _ _ (.inl rfl)), trivial, failing.sane⟩
  · next foreign =>
      apply triple_resume
      rintro e w rfl failing
      by_cases late : e = .timeout
      · subst late
        exact .inl ⟨rfl, .move failing.reached (.expire _ _ (.inr rfl)), trivial, failing.sane⟩
      · exact .inr ⟨late, fun expired => foreign (by rw [expired]), failing⟩

theorem cancellation_at :
    Triple (Failing rt .cancelled)
      (do
        let built ← terminalRecord rt context .cancelled .cancelled
        let record ← resume built
        let w ← look
        let raised := rt.env.recordCancellation w.trace record
        update fun w => w.log (.cancellation record raised)
        match raised with
        | none => pure ()
        | some e => raise e)
      (fun _ w => ∀ e, Reached rt.limits (.escaped e) w.ledger)
      (fun _ w => ∀ e, Reached rt.limits (.escaped e) w.ledger) := by
  intro w failing
  have bounded : w.run.counters.Bounded := by
    rcases reached_sized failing.reached with other | bounded
    · cases other
    · exact bounded
  have duration := elapsedMs_bounds _ _ failing.sane.started
  have over_ (record : RuntimeAuditRecord) (raised : Option Exn) (e : Exn) :
      Reached rt.limits (.escaped e) (w.ledger.log (.cancellation record raised)) :=
    .move failing.reached (.withdraw _ record raised e)
  rw [terminalRecord_run]
  unfold buildRecord
  rw [dif_pos duration, dif_pos bounded, resume_ok_run, look_run]
  dsimp only
  rw [update_run]
  generalize rt.env.recordCancellation _ _ = raised
  cases raised with
  | none => exact over_ _ none
  | some e => exact over_ _ (some e)

/-- A cancelled run stays cancelled unless the recorder raises a foreign error. -/
theorem auditCancellation_at (matched : task.taskId = context.taskId) :
    Triple (Failing rt .cancelled)
      (auditCancellation rt context >>= fun _ => (raise .cancelled : Action RuntimeResult))
      (fun _ _ => False) (fun e w => Ends rt task context (.error e) w.ledger) := by
  have escapes (e : Exn) (w : World) (reached : ∀ e, Reached rt.limits (.escaped e) w.ledger) :
      Ends rt task context (.error e) w.ledger := .escaped _ e matched (reached e)
  have body : Triple (Failing rt .cancelled) (auditCancellation rt context)
      (fun _ w => ∀ e, Reached rt.limits (.escaped e) w.ledger)
      (fun e w => Ends rt task context (.error e) w.ledger) := by
    apply exceptRuntime_triple cancellation_at
    · intro code
      exact triple_give () fun _ reached => reached
    · exact fun e w _ reached => escapes e w reached
  apply triple_bind body
  intro _
  exact triple_raise _ fun w reached => escapes _ w reached

theorem timedOut_at (matched : task.taskId = context.taskId) :
    Triple (At rt .overdue fun _ => True)
      (terminalAudit rt context .timedOut .globalTimeout >>= fun _ =>
        result rt (.timedOut, .globalTimeout, none) (rt.env.reading 0))
      (fun r w => Ends rt task context (.ok r) w.ledger)
      (fun e w => Ends rt task context (.error e) w.ledger) := by
  have moves : Recording rt.limits (fun _ => True) (fun _ => True) .overdue
      (.closed .timedOut .globalTimeout) .escaped .report .timedOut (some .globalTimeout) := by
    refine ⟨?_, ?_, ?_, fun _ _ _ _ _ => trivial, fun _ _ => trivial⟩
    · exact fun l record _ describes => .timeOut l record describes
    · exact fun l record e _ describes => .timeOutRejected l record e describes
    · exact fun l _ excess => .timeOutInvalid l excess
  apply triple_bind (triple_weaken (terminalAudit_at moves context) (fun _ held => held)
    (fun _ _ held => held) fun e w held => .escaped _ e matched held.reached)
  intro _
  exact triple_weaken (result_triple (p := .closed .timedOut .globalTimeout)
    (.timedOut, .globalTimeout, none)
    (fun _ reached => reached_sized reached) fun _ _ => by decide) (fun _ held => held)
    (fun r w held => .returned _ _ _ r matched held.1 held.2) fun _ _ impossible =>
      impossible.elim

/-- What `run` makes of the outcome of `_execute`. -/
theorem outcome_at (matched : task.taskId = context.taskId) (outcome : Except Exn Ending) :
    Triple (Outcome (Closed rt) (Ejected rt) outcome)
      (match outcome with
        | .ok ending => result rt ending (rt.env.reading 0)
        | .error .cancelled => do
            auditCancellation rt context
            raise .cancelled
        | .error .timeout => do
            terminalAudit rt context .timedOut .globalTimeout
            result rt (.timedOut, .globalTimeout, none) (rt.env.reading 0)
        | .error (.runtime code) =>
            if code ≠ .auditFailed then raise (.runtime code)
            else result rt (.failed, .auditFailed, none) (rt.env.reading 0)
        | .error e => raise e)
      (fun r w => Ends rt task context (.ok r) w.ledger)
      (fun e w => Ends rt task context (.error e) w.ledger) := by
  have failing (e : Exn) (foreign : e ≠ .timeout) (w : World)
      (ejected : Outcome (Closed rt) (Ejected rt) (.error e) w) : e ≠ .expired ∧
      Failing rt e w := by
    rcases ejected with ⟨late, _⟩ | ⟨_, failing⟩
    · exact absurd late foreign
    · exact failing
  split
  · next ending =>
      exact triple_weaken (result_triple (p := .closed ending.1 ending.2.1) ending
        (fun _ reached => reached_sized reached) fun _ reached => (reached_closed reached).1)
          (fun _ held => held)
        (fun r w held => .returned _ _ _ r matched held.1 held.2) fun _ _ impossible =>
          impossible.elim
  · exact triple_weaken (auditCancellation_at matched)
      (fun w held => (failing .cancelled (by decide) w held).2)
      (fun _ _ impossible => impossible.elim) fun _ _ held => held
  · apply triple_weaken (timedOut_at matched) _ (fun _ _ held => held) fun _ _ held => held
    rintro w (⟨_, overdue⟩ | ⟨other, _⟩)
    · exact overdue
    · exact absurd rfl other
  · next code =>
      apply triple_ite
      · intro ordinary
        apply triple_raise
        intro w held
        have thrown := (failing (.runtime code) (by simp) w held).2
        exact .raised _ _ matched thrown.reached thrown.fact (by simp [ordinary])
      · intro audit
        obtain rfl : code = .auditFailed := not_not.mp audit
        have fits (l : Ledger) (reached : Reached rt.limits (.thrown (.runtime .auditFailed)) l) :
            l.counters.Bounded := by
          rcases reached_sized reached with other | bounded
          · cases other
          · exact bounded
        exact triple_weaken (result_triple (.failed, .auditFailed, none) fits fun _ _ => by decide)
          (fun w held => (failing _ (by simp) w held).2)
          (fun r w held => .auditFailed _ r matched held.1 held.2) fun _ _ impossible =>
            impossible.elim
  · next e cancelled late foreign =>
      apply triple_raise
      intro w held
      have timely : e ≠ .timeout := fun same => late (by rw [same])
      have thrown := failing e timely w held
      refine .raised _ _ matched thrown.2.reached thrown.2.fact ⟨?_, timely, thrown.1, ?_⟩
      · exact fun same => cancelled (by rw [same])
      · exact fun same => foreign .auditFailed (by rw [same])

theorem begun_at : At rt (.resting 0) (Ready rt 6 (Spent 0))
    { run := { started := rt.env.reading 1, maxHistory := rt.limits.maxHistoryEntries }
      readings := 2 } := by
  have before : Before 6 {} := by
    intro record member
    cases member
  refine ⟨.start, ⟨.inr rt.limits.token_bounds.1, before, rfl, Nat.le_refl 0⟩, ?_, ?_, rfl⟩
  · exact rt.env.monotone (Nat.le_succ 1)
  · intro step begun found
    cases found

theorem ends_of_outcome {outcome : Except Exn RuntimeResult} {w : World}
    (ran : Outcome (fun r w => Ends rt task context (.ok r) w.ledger)
      (fun e w => Ends rt task context (.error e) w.ledger) outcome w) :
    Ends rt task context outcome w.ledger := by
  cases outcome with
  | error e => exact ran
  | ok r => exact ran

/-- Every run ends in one of these ways. -/
theorem run_ends (rt : AgentRuntime) (task : RuntimeTask) (context : ToolExecutionContext) :
    Ends rt task context (run rt task context start).1 (run rt task context start).2.ledger := by
  unfold run
  rw [perfCounter_run]
  by_cases matched : task.taskId = context.taskId
  · rw [if_neg (not_not.mpr matched), perfCounter_run, update_run]
    have executed : Triple (At rt (.resting 0) (Ready rt 6 (Spent 0))) (execute rt task context)
        (Closed rt) (Failing rt) := execute_at task context
    have ran := triple_outcome
      (triple_bind (triple_attempt (timeoutScope_at executed)) (outcome_at matched)) begun_at
    exact ends_of_outcome ran
  · rw [if_pos matched]
    exact .mismatched matched

end Ends

section Sample

theorem long_text : 1 ≤ 4096 := by decide

theorem one_reply : 1 ≤ 10000000 := by decide

def sampleText (limit : Nat) (room : 1 ≤ limit) : Text limit := ⟨"x", by decide, room⟩

def reply {α : Type} (value : α) (tokens : Nat) (bounds : tokens ≤ 10000000) : ReasonerOutput α :=
  ⟨value, tokens, true, bounds, fun absent => nomatch absent⟩

theorem tool_identifier : identifierPattern "tool" = true := by decide

def sampleTool : Identifier := ⟨"tool", tool_identifier⟩

def sampleObservation : RuntimeObservation :=
  ⟨sampleText _ (by decide), [], [], by decide, by decide⟩

def samplePlan : RuntimePlan :=
  ⟨sampleText _ (by decide), [sampleText _ (by decide)], [sampleText _ (by decide)], by decide,
    by decide⟩

def toolDecision : RuntimeDecision :=
  ⟨.toolCall, some sampleTool, [], sampleText _ long_text, 1, by decide, certain, by decide⟩

def completeDecision : RuntimeDecision :=
  ⟨.complete, none, [], sampleText _ (by decide), 1, by decide, by norm_num, by decide⟩

def sampleResult : ToolResult :=
  ⟨sampleTool, .succeeded, [], none, none, 0, false, 0, le_refl 0, by decide⟩

def sampleEnv : Collaborators where
  maxStepTokens := 1
  observe _ _ _ := .ok (reply sampleObservation 1 (by decide))
  plan _ _ _ _ := .ok (reply samplePlan 1 (by decide))
  decide trace _ _ _ _ :=
    .ok (reply (if callsOf trace = 0 then toolDecision else completeDecision) 1 (by decide))
  verify _ _ _ _ _ :=
    .ok (reply ⟨.continue_, sampleText _ (by decide), true⟩ 1 (by decide))
  report _ _ _ _ _ :=
    .ok (reply ⟨sampleText _ (by decide), [], [], by decide, by decide⟩ 1 (by decide))
  execute _ _ _ _ := .ok sampleResult
  record _ _ := none
  recordCancellation _ _ := none
  fingerprint _ := ""
  reading _ := 0
  monotone := monotone_const

theorem three_iterations : 1 ≤ 3 ∧ 3 ≤ 100 := by decide

theorem one_second : (0 : ℚ) < 1 ∧ (1 : ℚ) ≤ 3600 := by norm_num

theorem two_calls : 2 ≤ 1000 := by decide

theorem hundred_tokens : 1 ≤ 100 ∧ 100 ≤ 10000000 := by decide

theorem one_token : 1 ≤ 1 ∧ 1 ≤ 131072 := by decide

def sampleLimits (maxTokens : Nat) (bounds : 1 ≤ maxTokens ∧ maxTokens ≤ 10000000) :
    RuntimeLimits :=
  ⟨3, 1, 2, 1, maxTokens, 2, 2, 1, three_iterations, one_second, two_calls, by decide,
    bounds, by decide, by decide, one_token, by decide⟩

def sampleTask : RuntimeTask :=
  ⟨1, sampleText _ (by decide), [sampleText _ (by decide)], by decide, by decide, by decide⟩

def sampleContext : ToolExecutionContext := ⟨"/", sampleTool, 1, 1, 1, [sampleTool], 1, by decide⟩

def sampleRuntime : AgentRuntime := ⟨sampleEnv, sampleLimits 100 hundred_tokens, by decide⟩

def verdict : Except Exn RuntimeResult →
    Except Exn (RuntimeTerminalStatus × RuntimeTerminalReason)
  | .ok r => .ok (r.status, r.reason)
  | .error e => .error e

end Sample

end SynapseOS.Runtime
