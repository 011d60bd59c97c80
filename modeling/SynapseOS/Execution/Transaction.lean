import SynapseOS.Execution.Course
import SynapseOS.Execution.Sample

/-! The transaction that a tool returns is resolved. -/

namespace SynapseOS.Execution

open Tools Permissions Program

def Event.resolves : Event → Bool
  | .committed _ _ | .rolledBack _ _ => true
  | .begun _ _ | .requested _ | .permission _ | .evaluated _ | .parsed _ _ | .toolStarted _ _
  | .toolEnded _ | .interrupted | .finished _ _ _ => false

def Event.succeeds : Event → Bool
  | .finished _ finish none => decide (finish.outcome = .succeeded)
  | .finished _ _ (some _) => false
  | .begun _ _ | .requested _ | .permission _ | .evaluated _ | .parsed _ _ | .toolStarted _ _
  | .toolEnded _ | .interrupted | .committed _ _ | .rolledBack _ _ => false

def resolutions (trace : Trace) : Trace := trace.filter Event.resolves

def succeeded (trace : Trace) : Bool := trace.any Event.succeeds

/-- The transaction is resolved once: committed if the success was recorded, rolled back
otherwise. -/
def ResolvedOnce (pending : Nat) (trace : Trace) : Prop :=
  ∃ raised, resolutions trace =
    [if succeeded trace = true then .committed pending raised else .rolledBack pending raised]

/-- The checks of an output raise only what the handlers name, and an output that passes them fits
into the finish record. -/
def digestible (env : Collaborators) (raw : RawValue) : Bool :=
  match checkOutput env raw with
  | .error e => handled e
  | .ok checked => decide (checked.1 ≤ 128 ∧ checked.2 ≤ 1048576)

def Event.crashes : Event → Bool
  | .finished _ finish (some e) => decide (finish.outcome = .succeeded) && !e.ordinary
  | .finished _ _ none => false
  | .begun _ _ | .requested _ | .permission _ | .evaluated _ | .parsed _ _ | .toolStarted _ _
  | .toolEnded _ | .interrupted | .committed _ _ | .rolledBack _ _ => false

def OrdinaryRefusals (trace : Trace) : Prop := ∀ event ∈ trace, event.crashes = false

instance (trace : Trace) : Decidable (OrdinaryRefusals trace) :=
  inferInstanceAs (Decidable (∀ event ∈ trace, _))

section Early

variable {t rest : Trace}

theorem resolutions_early (early : Early t) : resolutions (t ++ rest) = resolutions rest := by
  have none_ : t.filter Event.resolves = [] := by
    apply List.filter_eq_nil_iff.mpr
    intro event member resolves
    have soon := early event member
    cases event <;> simp_all [Event.early, Event.resolves]
  rw [resolutions, List.filter_append, none_, List.nil_append]
  rfl

theorem succeeded_early (early : Early t) : succeeded (t ++ rest) = succeeded rest := by
  have none_ : t.any Event.succeeds = false := by
    apply List.any_eq_false.mpr
    intro event member succeeds
    have soon := early event member
    cases event <;> simp_all [Event.early, Event.succeeds]
  rw [succeeded, List.any_append, none_, Bool.false_or]
  rfl

theorem refusals_early (early : Early t) :
    OrdinaryRefusals (t ++ rest) ↔ OrdinaryRefusals rest := by
  have calm : OrdinaryRefusals t := by
    intro event member
    have soon := early event member
    cases event <;> simp_all [Event.early, Event.crashes]
  unfold OrdinaryRefusals
  rw [List.forall_mem_append]
  exact ⟨fun held => held.2, fun held => ⟨calm, held⟩⟩

end Early

section Settled

variable {env : Collaborators} {handle : ToolAuditHandle} {t : Trace} {value : RawValue}
  {pending : Nat}

def ResolvesRightly (env : Collaborators) (value : RawValue) (pending : Nat) (trace : Trace) :
    Prop :=
  ResolvedOnce pending trace ↔
    (.interrupted ∈ trace ∨ digestible env value = true) ∧ OrdinaryRefusals trace

theorem resolvesRightly_early (early : Early t) {rest : Trace}
    (rightly : ResolvesRightly env value pending rest) :
    ResolvesRightly env value pending (t ++ rest) := by
  have resolved : ResolvedOnce pending (t ++ rest) ↔ ResolvedOnce pending rest := by
    unfold ResolvedOnce
    rw [resolutions_early early, succeeded_early early]
  unfold ResolvesRightly
  rw [resolved, refusals_early early, interrupted_early early]
  exact rightly

theorem rightly_resolved {rest : Trace} (resolved : ResolvedOnce pending rest)
    (wanted : .interrupted ∈ rest ∨ digestible env value = true)
    (refusals : OrdinaryRefusals rest) : ResolvesRightly env value pending rest :=
  ⟨fun _ => ⟨wanted, refusals⟩, fun _ => resolved⟩

theorem rightly_pending {rest : Trace} (unresolved : resolutions rest = [])
    (unwanted : ¬ ((.interrupted ∈ rest ∨ digestible env value = true) ∧ OrdinaryRefusals rest)) :
    ResolvesRightly env value pending rest := by
  constructor
  · rintro ⟨raised, once⟩
    rw [unresolved] at once
    cases once
  · exact fun wanted => absurd wanted unwanted

theorem halted_rest {e : PyExn} {u : Trace} (halted : Halted env value t e u) :
    ∃ rest, u = t ++ rest ∧ ((rest = [.interrupted] ∧ e = .cancelled) ∨
      (rest = [] ∧ checkOutput env value = .error e)) := by
  cases halted with
  | interrupted => exact ⟨[.interrupted], rfl, .inl ⟨rfl, rfl⟩⟩
  | rejected _ checked => exact ⟨[], (List.append_nil t).symm, .inr ⟨rfl, checked⟩⟩

theorem digestible_error {e : PyExn} (checked : checkOutput env value = .error e) :
    digestible env value = true ↔ handled e = true := by
  unfold digestible
  rw [checked]

theorem digestible_ok {fields bytes : Nat} (checked : checkOutput env value = .ok (fields, bytes)) :
    digestible env value = true ↔ fields ≤ 128 ∧ bytes ≤ 1048576 := by
  unfold digestible
  rw [checked]
  exact decide_eq_true_iff

/-- What a handler does after the processing stopped resolves the transaction. -/
theorem halted_rightly {e : PyExn} {u rest : Trace} (early : Early t)
    (halted : Halted env value t e u) (named : handled e = true)
    (once : ∃ raised, resolutions rest = [.rolledBack pending raised])
    (failed : succeeded rest = false) (refusals : OrdinaryRefusals rest) :
    ResolvesRightly env value pending (u ++ rest) := by
  obtain ⟨raised, once⟩ := once
  obtain ⟨stop, rfl, stopped⟩ := halted_rest halted
  rw [List.append_assoc]
  apply resolvesRightly_early early
  rcases stopped with ⟨rfl, rfl⟩ | ⟨rfl, checked⟩
  · apply rightly_resolved
    · refine ⟨raised, ?_⟩
      have later : succeeded ([.interrupted] ++ rest) = false := failed
      rw [later]
      exact once
    · exact .inl List.mem_cons_self
    · exact List.forall_mem_cons.mpr ⟨rfl, refusals⟩
  · apply rightly_resolved
    · refine ⟨raised, ?_⟩
      rw [List.nil_append, failed]
      exact once
    · exact .inr ((digestible_error checked).mpr named)
    · exact refusals

theorem handled_cancellation {e : PyExn} (cancelled : e.cancellation = true) :
    handled e = true := by
  unfold handled
  rw [cancelled, Bool.true_or]

theorem handled_malformed {e : PyExn} (malformed : e.malformed = true) : handled e = true := by
  unfold handled
  rw [malformed, Bool.or_true]

theorem refusals_other {handle : ToolAuditHandle} {finish : ToolAuditFinish} {raised : Option PyExn}
    (other : finish.outcome ≠ .succeeded) (pending : Nat) :
    OrdinaryRefusals [.rolledBack pending none, .finished handle finish raised] := by
  refine List.forall_mem_cons.mpr ⟨rfl, List.forall_mem_singleton.mpr ?_⟩
  cases raised <;> simp [Event.crashes, other]

theorem succeeded_other {handle : ToolAuditHandle} {finish : ToolAuditFinish}
    {raised : Option PyExn} (other : finish.outcome ≠ .succeeded) (pending : Nat) :
    succeeded [.rolledBack pending none, .finished handle finish raised] = false := by
  cases raised <;> simp [succeeded, Event.succeeds, other]

theorem halted_told {e : PyExn} {u : Trace} {finish : ToolAuditFinish} (raised : Option PyExn)
    (early : Early t) (halted : Halted env value t e u) (named : handled e = true)
    (other : finish.outcome ≠ .succeeded) :
    ResolvesRightly env value pending
      (u ++ [.rolledBack pending none] ++ [.finished handle finish raised]) := by
  rw [List.append_assoc]
  exact halted_rightly early halted named ⟨none, rfl⟩ (succeeded_other other pending)
    (refusals_other other pending)

theorem committed_rightly {finish : ToolAuditFinish} (raised : Option PyExn)
    (digestible : digestible env value = true) (success : finish.outcome = .succeeded) :
    ResolvesRightly env value pending [.finished handle finish none,
      .committed pending raised] := by
  apply rightly_resolved
  · refine ⟨raised, ?_⟩
    simp [resolutions, succeeded, Event.resolves, Event.succeeds, success]
  · exact .inr digestible
  · exact List.forall_mem_cons.mpr ⟨rfl, List.forall_mem_singleton.mpr rfl⟩

theorem refused_rightly {finish : ToolAuditFinish} {refusal : PyExn} (raised : Option PyExn)
    (digestible : digestible env value = true) (ordinary : refusal.ordinary = true) :
    ResolvesRightly env value pending
      [.finished handle finish (some refusal), .rolledBack pending raised] := by
  apply rightly_resolved
  · exact ⟨raised, rfl⟩
  · exact .inr digestible
  · refine List.forall_mem_cons.mpr ⟨?_, List.forall_mem_singleton.mpr rfl⟩
    rw [Event.crashes, ordinary, Bool.not_true, Bool.and_false]

theorem concluded_rightly {finish : ToolAuditFinish} {outcome : Except PyExn Unit} {u v : Trace}
    {final : Except PyExn ToolResult} (early : Early t) (digestible : digestible env value = true)
    (success : finish.outcome = .succeeded) (told : Told handle finish t outcome u)
    (concluded : Concluded (.transactional value pending) u outcome final v) :
    ResolvesRightly env value pending v := by
  cases told with
  | accepted =>
      cases concluded with
      | returned result status =>
          rw [List.append_assoc]
          exact resolvesRightly_early early (committed_rightly none digestible success)
      | uncommitted _ raised same =>
          obtain rfl := Option.some.inj same
          rw [List.append_assoc]
          exact resolvesRightly_early early (committed_rightly (some raised) digestible success)
  | refused refusal =>
      have ordinary_of (restored : sanitize refusal (.tool .audit .auditFailed) =
          .tool .audit .auditFailed) : refusal.ordinary = true := by
        by_contra fatal
        rw [sanitize, if_neg fatal] at restored
        rw [restored] at fatal
        exact fatal rfl
      generalize sanitized : sanitize refusal (.tool .audit .auditFailed) = e at concluded
      cases concluded with
      | restored =>
          rw [List.append_assoc]
          exact resolvesRightly_early early
            (refused_rightly none digestible (ordinary_of sanitized))
      | unrestored _ raised same =>
          obtain rfl := Option.some.inj same
          rw [List.append_assoc]
          exact resolvesRightly_early early
            (refused_rightly (some raised) digestible (ordinary_of sanitized))
      | escaped _ fatal =>
          apply resolvesRightly_early early
          apply rightly_pending
          · rfl
          · rintro ⟨_, refusals⟩
            have ordinary : refusal.ordinary = true := by
              simpa [Event.crashes, success] using refusals _ (List.mem_singleton_self _)
            rw [sanitize, if_pos ordinary] at sanitized
            rw [← sanitized] at fatal
            cases fatal

theorem settled_rightly {final : Except PyExn ToolResult} {v : Trace} (early : Early t)
    (settled : Settled env handle (.transactional value pending) t final v) :
    ResolvesRightly env value pending v := by
  cases settled with
  | escaped halted unhandled =>
      obtain ⟨stop, rfl, stopped⟩ := halted_rest halted
      apply resolvesRightly_early early
      rcases stopped with ⟨rfl, rfl⟩ | ⟨rfl, checked⟩
      · cases unhandled
      · apply rightly_pending
        · rfl
        · rintro ⟨interrupted | digestible, _⟩
          · cases interrupted
          · have caught := (digestible_error checked).mp digestible
            rw [unhandled] at caught
            cases caught
  | unrestored halted named _ raised same =>
      obtain rfl := Option.some.inj same
      exact halted_rightly early halted named ⟨some raised, rfl⟩ rfl
        (List.forall_mem_singleton.mpr rfl)
  | withdrawn halted cancelled withdrawn =>
      cases withdrawn with
      | raised finish outcome =>
          exact halted_told none early halted (handled_cancellation cancelled) (by simp [outcome])
      | untold finish raised outcome =>
          exact halted_told (some raised) early halted (handled_cancellation cancelled)
            (by simp [outcome])
  | refused halted malformed refused =>
      cases refused with
      | returned finish result outcome status =>
          exact halted_told none early halted (handled_malformed malformed)
            (by simp [outcome, Failure.outcome])
      | untold finish raised outcome =>
          exact halted_told (some raised) early halted (handled_malformed malformed)
            (by simp [outcome, Failure.outcome])
  | excessive fields bytes checked excess =>
      have empty : ResolvesRightly env value pending [] := by
        apply rightly_pending
        · rfl
        · rintro ⟨interrupted | digestible, _⟩
          · cases interrupted
          · exact excess ((digestible_ok checked).mp digestible)
      have same := resolvesRightly_early early empty
      rw [List.append_nil] at same
      exact same
  | told fields bytes checked bounds finish success told concluded =>
      exact concluded_rightly early ((digestible_ok checked).mpr bounds) success told concluded

end Settled

section Returned

variable {env : Collaborators} {handle : ToolAuditHandle} {raw : RawOutput} {t v : Trace}
  {final : Except PyExn ToolResult}

theorem prior_returned (prior : Prior t) : .toolEnded (.ok raw) ∉ t := by
  intro member
  exact nomatch prior _ member

/-- A call whose tool returned an output went on with that output. -/
theorem audited_settled (audited : Audited env final v)
    (returned : .toolEnded (.ok raw) ∈ v) :
    ∃ handle t, Early t ∧ Settled env handle raw t final v := by
  have past (event : Event) (other : event ≠ .toolEnded (.ok raw)) {t : Trace} (prior : Prior t) :
      .toolEnded (.ok raw) ∉ t ++ [event] := by
    intro member
    rcases List.mem_append.mp member with before | last
    · exact prior_returned prior before
    · exact other (List.mem_singleton.mp last).symm
  cases audited with
  | rejected e => cases returned
  | unaudited start raised e => cases List.mem_singleton.mp returned
  | audited handle course =>
      cases course with
      | refused prior begins calm refused =>
          cases refused with
          | returned finish result => exact absurd returned (past _ (by simp) prior)
          | untold finish raised => exact absurd returned (past _ (by simp) prior)
      | escaped e prior => exact absurd returned (prior_returned prior)
      | @started name input t _ _ prior begins calm started =>
          cases started with
          | ran outcome ran =>
              have early : Early (t ++ [.toolStarted name input] ++ [.toolEnded outcome]) := by
                refine early_append (early_append (early_of_prior prior) ?_) ?_
                · exact fun event member => List.mem_singleton.mp member ▸ rfl
                · exact fun event member => List.mem_singleton.mp member ▸ rfl
              obtain ⟨rest, shape, late⟩ := ran_later ran
              rw [shape] at returned
              have same : outcome = .ok raw := by
                rcases List.mem_append.mp returned with before | after
                · rcases List.mem_append.mp before with first | last
                  · exact absurd first (past _ (by simp) prior)
                  · exact (Event.toolEnded.inj (List.mem_singleton.mp last)).symm
                · exact absurd after (not_early_mem late rfl)
              subst same
              cases ran with
              | settled settled => exact ⟨handle, _, early, settled⟩

end Returned

/-- The transaction that a tool returns is resolved once, by a commit if the success was recorded
and by a rollback otherwise, exactly when the call is cancelled after the tool or the checks of
the output raise only what the handlers name, and the recorder refuses with ordinary exceptions. -/
theorem transaction_resolved (env : Collaborators) (toolName : PyValue) (arguments : RawValue)
    (context : Option ToolExecutionContext) (value : RawValue) (pending : Nat)
    (returned : .toolEnded (.ok (.transactional value pending)) ∈
      (execute env toolName arguments context {}).2.trace) :
    ResolvedOnce pending (execute env toolName arguments context {}).2.trace ↔
      (.interrupted ∈ (execute env toolName arguments context {}).2.trace ∨
        digestible env value = true) ∧
      OrdinaryRefusals (execute env toolName arguments context {}).2.trace := by
  obtain ⟨handle, t, early, settled⟩ :=
    audited_settled (execute_audited env toolName arguments context) returned
  exact settled_rightly early settled

def Event.returns (env : Collaborators) (digested : Bool) : Event → Bool
  | .toolEnded (.ok (.transactional value _)) => digestible env value == digested
  | .toolEnded (.ok (.plain _)) | .toolEnded (.error _) => false
  | .begun _ _ | .requested _ | .permission _ | .evaluated _ | .parsed _ _ | .toolStarted _ _
  | .interrupted | .finished _ _ _ | .committed _ _ | .rolledBack _ _ => false

theorem returned_of_any {env : Collaborators} {digested : Bool} {trace : Trace}
    (found : trace.any (Event.returns env digested) = true) :
    ∃ value pending, .toolEnded (.ok (.transactional value pending)) ∈ trace ∧
      digestible env value = digested := by
  obtain ⟨event, member, returns⟩ := List.any_eq_true.mp found
  unfold Event.returns at returns
  split at returns
  · next value pending => exact ⟨value, pending, member, by simpa using returns⟩
  all_goals cases returns

def writeEnv : Collaborators := sampleEnv (sampleTool (.transactional (.mapping (.ofFields [])) 7))

theorem transaction_resolved_sample :
    ∃ pending, ResolvedOnce pending (sampleCall writeEnv).2.trace := by
  have found : (sampleCall writeEnv).2.trace.any (Event.returns writeEnv true) = true := by
    decide +kernel
  have refusals : OrdinaryRefusals (sampleCall writeEnv).2.trace := by decide +kernel
  obtain ⟨value, pending, returned, digests⟩ := returned_of_any found
  exact ⟨pending, (transaction_resolved writeEnv _ _ _ value pending returned).mpr
    ⟨.inr digests, refusals⟩⟩

def deepEnv : Collaborators :=
  sampleEnv (sampleTool
    (.transactional (.mapping (.ofFields [(.ofString "data", nested 1000)])) 7))

theorem transaction_pending :
    (sampleCall deepEnv).2.trace.any (Event.returns deepEnv false) = true ∧
      (sampleCall deepEnv).2.trace.all (fun event => !event.resolves) = true := by
  decide +kernel

end SynapseOS.Execution
