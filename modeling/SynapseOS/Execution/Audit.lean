import SynapseOS.Execution.Transaction

/-! The audit of a call is finished. -/

namespace SynapseOS.Execution

open Tools Permissions

def Event.finishes : Event → Bool
  | .finished _ _ _ => true
  | .begun _ _ | .requested _ | .permission _ | .evaluated _ | .parsed _ _ | .toolStarted _ _
  | .toolEnded _ | .interrupted | .committed _ _ | .rolledBack _ _ => false

def auditOutcome : ToolResultStatus → ToolAuditOutcome
  | .succeeded => .succeeded
  | .failed => .failed
  | .denied => .denied
  | .timedOut => .timedOut

theorem auditOutcome_failure (failure : Failure) :
    auditOutcome failure.status = failure.outcome := by
  cases failure <;> rfl

def Cancelled (trace : Trace) : Prop :=
  .interrupted ∈ trace ∨ .toolEnded (.error .cancelled) ∈ trace

/-- One finish record, which agrees with the result, or with the cancellation that is raised. -/
def FinishedOnce (handle : ToolAuditHandle) (final : Except PyExn ToolResult) (trace : Trace) :
    Prop :=
  ∃ finish, trace.filter Event.finishes = [.finished handle finish none] ∧
    (∀ result, final = .ok result → finish.outcome = auditOutcome result.status) ∧
    (Cancelled trace → finish.outcome = .cancelled ∧ final = .error .cancelled)

/-- The collaborators raise only what the handlers name, the output of the tool can be digested,
and no rollback raises. -/
structure Named (env : Collaborators) (trace : Trace) : Prop where
  calm : Calm trace
  digests : ∀ raw, .toolEnded (.ok raw) ∈ trace →
    .interrupted ∈ trace ∨ digestible env (unwrapOutput raw).1 = true
  restores : ∀ pending e, .rolledBack pending (some e) ∉ trace

def Accepting (trace : Trace) : Prop := ∀ handle finish e, .finished handle finish (some e) ∉ trace

section After

variable {env : Collaborators} {handle : ToolAuditHandle} {t rest : Trace} {name : Identifier}
  {input : Input} {outcome : Except PyExn RawOutput} {final : Except PyExn ToolResult}

def ended (t : Trace) (name : Identifier) (input : Input) (outcome : Except PyExn RawOutput) :
    Trace :=
  t ++ [.toolStarted name input] ++ [.toolEnded outcome]

theorem ended_early (prior : Prior t) : Early (ended t name input outcome) := by
  refine early_append (early_append (early_of_prior prior) ?_) ?_
  · exact List.forall_mem_singleton.mpr rfl
  · exact List.forall_mem_singleton.mpr rfl

theorem toolEnded_mem (prior : Prior t) (late : ∀ event ∈ rest, event.early = false)
    (other : Except PyExn RawOutput) :
    .toolEnded other ∈ ended t name input outcome ++ rest ↔ other = outcome := by
  constructor
  · intro member
    rcases List.mem_append.mp member with before | after
    · rcases List.mem_append.mp before with first | last
      · rcases List.mem_append.mp first with soon | started
        · exact nomatch prior _ soon
        · cases List.mem_singleton.mp started
      · exact Event.toolEnded.inj (List.mem_singleton.mp last)
    · exact absurd after (not_early_mem late rfl)
  · rintro rfl
    exact List.mem_append_left _ (List.mem_append_right _ (List.mem_singleton_self _))

theorem finishes_early (early : Early t) :
    (t ++ rest).filter Event.finishes = rest.filter Event.finishes := by
  have none_ : t.filter Event.finishes = [] := by
    apply List.filter_eq_nil_iff.mpr
    intro event member finishes
    have soon := early event member
    cases event <;> simp_all [Event.early, Event.finishes]
  rw [List.filter_append, none_, List.nil_append]

def FinishedAfter (handle : ToolAuditHandle) (outcome : Except PyExn RawOutput)
    (final : Except PyExn ToolResult) (rest : Trace) : Prop :=
  ∃ finish, rest.filter Event.finishes = [.finished handle finish none] ∧
    (∀ result, final = .ok result → finish.outcome = auditOutcome result.status) ∧
    (.interrupted ∈ rest ∨ outcome = .error .cancelled →
      finish.outcome = .cancelled ∧ final = .error .cancelled)

structure NamedAfter (env : Collaborators) (outcome : Except PyExn RawOutput) (rest : Trace) :
    Prop where
  expected : Event.unexpected (.toolEnded outcome) = false
  digests : ∀ raw, outcome = .ok raw →
    .interrupted ∈ rest ∨ digestible env (unwrapOutput raw).1 = true
  restores : ∀ pending e, .rolledBack pending (some e) ∉ rest

theorem finishedAfter_iff (prior : Prior t) (late : ∀ event ∈ rest, event.early = false) :
    FinishedOnce handle final (ended t name input outcome ++ rest) ↔
      FinishedAfter handle outcome final rest := by
  have early : Early (ended t name input outcome) := ended_early prior
  have cancelled : Cancelled (ended t name input outcome ++ rest) ↔
      .interrupted ∈ rest ∨ outcome = .error .cancelled := by
    unfold Cancelled
    rw [interrupted_early early, toolEnded_mem prior late]
    exact or_congr_right eq_comm
  unfold FinishedOnce FinishedAfter
  rw [finishes_early early, cancelled]

theorem namedAfter_iff (prior : Prior t) (calm : Calm t)
    (late : ∀ event ∈ rest, event.early = false) :
    Named env (ended t name input outcome ++ rest) ↔ NamedAfter env outcome rest := by
  have early : Early (ended t name input outcome) := ended_early prior
  have calmly : Calm (ended t name input outcome ++ rest) ↔
      Event.unexpected (.toolEnded outcome) = false := by
    have after : Calm rest := by
      intro event member
      have last := late event member
      cases event <;> simp_all [Event.early, Event.unexpected]
    have started : Calm [.toolStarted name input] := (calm_single _).mpr rfl
    rw [calm_append, ended, calm_append, calm_append]
    exact ⟨fun held => (calm_single _).mp held.1.2, fun expected =>
      ⟨⟨⟨calm, started⟩, (calm_single _).mpr expected⟩, after⟩⟩
  constructor
  · rintro ⟨held, digests, restores⟩
    refine ⟨calmly.mp held, ?_, ?_⟩
    · intro raw same
      rw [← interrupted_early early]
      exact digests raw ((toolEnded_mem prior late _).mpr same.symm)
    · intro pending e member
      exact restores pending e (List.mem_append_right _ member)
  · rintro ⟨expected, digests, restores⟩
    refine ⟨calmly.mpr expected, ?_, ?_⟩
    · intro raw member
      rw [interrupted_early early]
      exact digests raw ((toolEnded_mem prior late _).mp member).symm
    · intro pending e member
      exact restores pending e ((mem_early early rfl).mp member)

theorem both_hold {finish : ToolAuditFinish}
    (once : rest.filter Event.finishes = [.finished handle finish none])
    (agrees : ∀ result, final = .ok result → finish.outcome = auditOutcome result.status)
    (cancels : .interrupted ∈ rest ∨ outcome = .error .cancelled →
      finish.outcome = .cancelled ∧ final = .error .cancelled)
    (named : NamedAfter env outcome rest) :
    FinishedAfter handle outcome final rest ↔ NamedAfter env outcome rest :=
  ⟨fun _ => named, fun _ => ⟨finish, once, agrees, cancels⟩⟩

theorem both_fail (unfinished : rest.filter Event.finishes = [])
    (unnamed : ¬ NamedAfter env outcome rest) :
    FinishedAfter handle outcome final rest ↔ NamedAfter env outcome rest := by
  constructor
  · rintro ⟨finish, once, _⟩
    rw [unfinished] at once
    cases once
  · exact fun named => absurd named unnamed

variable {raw : RawOutput}

theorem resolution_finishes (note : Nat → Option PyExn → Event)
    (other : ∀ pending raised, (note pending raised).finishes = false)
    (transaction : Option Nat) : (resolution note transaction).filter Event.finishes = [] := by
  cases transaction with
  | none => rfl
  | some pending =>
      show [note pending none].filter Event.finishes = []
      rw [List.filter_cons_of_neg (by simp [other]), List.filter_nil]

theorem resolution_restores (transaction : Option Nat) (pending : Nat) (e : PyExn) :
    .rolledBack pending (some e) ∉ resolution .rolledBack transaction := by
  intro member
  obtain ⟨other, _, same⟩ := List.mem_map.mp member
  exact nomatch (Event.rolledBack.inj same).2

theorem handled_both {e : PyExn} {stop : Trace} {finish : ToolAuditFinish}
    (stopped : (stop = [.interrupted] ∧ e = .cancelled) ∨
      (stop = [] ∧ checkOutput env (unwrapOutput raw).1 = .error e))
    (named : handled e = true)
    (agrees : ∀ result, final = .ok result → finish.outcome = auditOutcome result.status)
    (cancels : e = .cancelled → finish.outcome = .cancelled ∧ final = .error .cancelled) :
    FinishedAfter handle (.ok raw) final
        (stop ++ resolution .rolledBack (unwrapOutput raw).2 ++ [.finished handle finish none]) ↔
      NamedAfter env (.ok raw)
        (stop ++ resolution .rolledBack (unwrapOutput raw).2 ++
          [.finished handle finish none]) := by
  have silent : stop.filter Event.finishes = [] := by
    rcases stopped with ⟨rfl, _⟩ | ⟨rfl, _⟩
    · rfl
    · rfl
  have quiet (pending : Nat) (e : PyExn) : .rolledBack pending (some e) ∉ stop := by
    rcases stopped with ⟨rfl, _⟩ | ⟨rfl, _⟩
    · exact fun member => nomatch List.mem_singleton.mp member
    · exact fun member => nomatch member
  apply both_hold
  · rw [List.filter_append, List.filter_append, silent,
      resolution_finishes .rolledBack (fun _ _ => rfl)]
    rfl
  · exact agrees
  · rintro (member | other)
    · apply cancels
      rcases stopped with ⟨_, same⟩ | ⟨rfl, _⟩
      · exact same
      · rcases List.mem_append.mp member with back | last
        · obtain ⟨other, _, same⟩ := List.mem_map.mp back
          cases same
        · cases List.mem_singleton.mp last
    · cases other
  · refine ⟨rfl, ?_, ?_⟩
    · intro other same
      obtain rfl := Except.ok.inj same
      rcases stopped with ⟨rfl, _⟩ | ⟨_, checked⟩
      · exact .inl List.mem_cons_self
      · exact .inr ((digestible_error checked).mpr named)
    · intro pending e member
      rcases List.mem_append.mp member with before | last
      · rcases List.mem_append.mp before with first | back
        · exact quiet pending e first
        · exact resolution_restores _ pending e back
      · cases List.mem_singleton.mp last

theorem committed_both {finish : ToolAuditFinish} {commits : Trace}
    (digests : digestible env (unwrapOutput raw).1 = true) (success : finish.outcome = .succeeded)
    (silent : commits.filter Event.finishes = [])
    (only : ∀ event ∈ commits, ∃ pending raised, event = .committed pending raised)
    (agrees : ∀ result, final = .ok result → auditOutcome result.status = .succeeded) :
    FinishedAfter handle (.ok raw) final ([.finished handle finish none] ++ commits) ↔
      NamedAfter env (.ok raw) ([.finished handle finish none] ++ commits) := by
  apply both_hold
  · rw [List.filter_append, silent]
    rfl
  · intro result same
    rw [success, agrees result same]
  · rintro (member | other)
    · rcases List.mem_append.mp member with first | later
      · cases List.mem_singleton.mp first
      · obtain ⟨_, _, same⟩ := only _ later
        cases same
    · cases other
  · refine ⟨rfl, ?_, ?_⟩
    · intro other same
      obtain rfl := Except.ok.inj same
      exact .inr digests
    · intro pending e member
      rcases List.mem_append.mp member with first | later
      · cases List.mem_singleton.mp first
      · obtain ⟨_, _, same⟩ := only _ later
        cases same

theorem concluded_told {finish : ToolAuditFinish} {told : Except PyExn Unit} {v : Trace}
    {raised : Option PyExn}
    (concluded : Concluded raw (t ++ [.finished handle finish raised]) told final v) :
    .finished handle finish raised ∈ v := by
  have here : .finished handle finish raised ∈ t ++ [.finished handle finish raised] :=
    List.mem_append_right _ (List.mem_singleton_self _)
  cases concluded with
  | returned | uncommitted | restored | unrestored => exact List.mem_append_left _ here
  | escaped => exact here

theorem settled_both {v : Trace} (settled : Settled env handle raw t final v)
    (accepting : Accepting v) :
    ∃ rest, v = t ++ rest ∧
      (FinishedAfter handle (.ok raw) final rest ↔ NamedAfter env (.ok raw) rest) := by
  cases settled with
  | escaped halted unhandled =>
      obtain ⟨stop, rfl, stopped⟩ := halted_rest halted
      refine ⟨stop, rfl, ?_⟩
      rcases stopped with ⟨_, rfl⟩ | ⟨rfl, checked⟩
      · cases unhandled
      · apply both_fail
        · rfl
        · intro named
          rcases named.digests raw rfl with interrupted | digests
          · cases interrupted
          · have caught := (digestible_error checked).mp digests
            rw [unhandled] at caught
            cases caught
  | unrestored halted named pending raised same =>
      obtain ⟨stop, rfl, stopped⟩ := halted_rest halted
      refine ⟨stop ++ [Event.rolledBack pending (some raised)], List.append_assoc _ _ _, ?_⟩
      apply both_fail
      · rcases stopped with ⟨rfl, _⟩ | ⟨rfl, _⟩
        · rfl
        · rfl
      · exact fun named => named.restores pending raised
          (List.mem_append_right _ (List.mem_singleton_self _))
  | withdrawn halted cancelled withdrawn =>
      obtain ⟨stop, rfl, stopped⟩ := halted_rest halted
      cases withdrawn with
      | untold finish raised =>
          exact absurd (List.mem_append_right _ (List.mem_singleton_self _))
            (accepting handle finish raised)
      | raised finish outcome =>
          refine ⟨stop ++ resolution .rolledBack (unwrapOutput raw).2 ++
            [Event.finished handle finish none], by simp only [List.append_assoc], ?_⟩
          apply handled_both stopped (handled_cancellation cancelled)
          · exact fun _ other => nomatch other
          · rintro rfl
            exact ⟨outcome, rfl⟩
  | refused halted malformed refused =>
      obtain ⟨stop, rfl, stopped⟩ := halted_rest halted
      cases refused with
      | untold finish raised =>
          exact absurd (List.mem_append_right _ (List.mem_singleton_self _))
            (accepting handle finish raised)
      | returned finish result outcome status =>
          refine ⟨stop ++ resolution .rolledBack (unwrapOutput raw).2 ++
            [Event.finished handle finish none], by simp only [List.append_assoc], ?_⟩
          apply handled_both stopped (handled_malformed malformed)
          · intro other same
            obtain rfl := Except.ok.inj same
            rw [outcome, status]
            rfl
          · rintro rfl
            cases malformed
  | excessive fields bytes checked excess =>
      refine ⟨[], (List.append_nil t).symm, ?_⟩
      apply both_fail
      · rfl
      · intro named
        rcases named.digests raw rfl with interrupted | digests
        · cases interrupted
        · exact excess ((digestible_ok checked).mp digests)
  | told fields bytes checked bounds finish success told concluded =>
      have digests : digestible env (unwrapOutput raw).1 = true :=
        (digestible_ok checked).mpr bounds
      cases told with
      | refused raised => exact absurd (concluded_told concluded) (accepting handle finish raised)
      | accepted =>
          cases concluded with
          | returned result status =>
              refine ⟨[Event.finished handle finish none] ++
                resolution .committed (unwrapOutput raw).2,
                List.append_assoc _ _ _, ?_⟩
              apply committed_both digests success
              · exact resolution_finishes .committed (fun _ _ => rfl) _
              · intro event member
                obtain ⟨pending, _, rfl⟩ := List.mem_map.mp member
                exact ⟨pending, none, rfl⟩
              · intro other same
                rw [← Except.ok.inj same, status]
                rfl
          | uncommitted pending raised same =>
              refine ⟨[Event.finished handle finish none] ++
                [Event.committed pending (some raised)],
                List.append_assoc _ _ _, ?_⟩
              apply committed_both digests success rfl
              · exact List.forall_mem_singleton.mpr ⟨pending, some raised, rfl⟩
              · exact fun _ other => nomatch other

theorem ran_both {v : Trace} (ran : Ran env handle t outcome final v) (accepting : Accepting v) :
    ∃ rest, v = t ++ rest ∧
      (FinishedAfter handle outcome final rest ↔ NamedAfter env outcome rest) := by
  cases ran with
  | settled settled => exact settled_both settled accepting
  | @refused e _ _ _ ordinary refused =>
      cases refused with
      | untold finish raised =>
          exact absurd (List.mem_append_right _ (List.mem_singleton_self _))
            (accepting handle finish raised)
      | returned finish result told status =>
          refine ⟨[.finished handle finish none], rfl, ?_⟩
          apply both_hold rfl
          · intro other same
            rw [← Except.ok.inj same, told, status, auditOutcome_failure]
          · rintro (member | same)
            · cases List.mem_singleton.mp member
            · obtain rfl := Except.error.inj same
              cases ordinary
          · refine ⟨?_, ?_, ?_⟩
            · rw [Event.unexpected, ordinary, Bool.true_or]
              rfl
            · simp
            · simp
  | withdrawn withdrawn =>
      cases withdrawn with
      | untold finish raised =>
          exact absurd (List.mem_append_right _ (List.mem_singleton_self _))
            (accepting handle finish raised)
      | raised finish told =>
          refine ⟨[.finished handle finish none], rfl, ?_⟩
          apply both_hold rfl
          · simp
          · exact fun _ => ⟨told, rfl⟩
          · refine ⟨rfl, ?_, ?_⟩
            · simp
            · simp
  | escaped e fatal other =>
      refine ⟨[], (List.append_nil t).symm, ?_⟩
      apply both_fail rfl
      intro named
      have expected := named.expected
      rw [Event.unexpected, fatal, decide_eq_false other] at expected
      cases expected

end After

section Calls

variable {env : Collaborators} {handle : ToolAuditHandle} {final : Except PyExn ToolResult}
  {v : Trace}

theorem course_both (course : Course env handle final v) (accepting : Accepting v) :
    FinishedOnce handle final v ↔ Named env v := by
  cases course with
  | @refused failure t _ _ prior begins calm refused =>
      have early : Early t := early_of_prior prior
      cases refused with
      | untold finish raised =>
          exact absurd (List.mem_append_right _ (List.mem_singleton_self _))
            (accepting handle finish raised)
      | returned finish result told status =>
          have unended (outcome : Except PyExn RawOutput) :
              .toolEnded outcome ∉ t ++ [.finished handle finish none] := by
            intro member
            rcases List.mem_append.mp member with before | last
            · exact nomatch prior _ before
            · cases List.mem_singleton.mp last
          constructor
          · intro _
            refine ⟨calm_append.mpr ⟨calm, (calm_single _).mpr rfl⟩, ?_, ?_⟩
            · exact fun raw member => absurd member (unended _)
            · intro pending e member
              cases List.mem_singleton.mp ((mem_early early rfl).mp member)
          · intro _
            refine ⟨finish, ?_, ?_, ?_⟩
            · rw [finishes_early early]
              rfl
            · intro other same
              rw [← Except.ok.inj same, told, status, auditOutcome_failure]
            · rintro (member | member)
              · cases List.mem_singleton.mp ((interrupted_early early).mp member)
              · exact absurd member (unended _)
  | escaped e prior begins unexpected =>
      constructor
      · rintro ⟨finish, once, _⟩
        have none_ : (v ++ []).filter Event.finishes = [] := finishes_early (early_of_prior prior)
        rw [List.append_nil, once] at none_
        cases none_
      · exact fun named => absurd named.calm unexpected
  | started prior begins calm started =>
      cases started with
      | ran outcome ran =>
          obtain ⟨rest, rfl, both⟩ := ran_both ran accepting
          obtain ⟨other, same, late⟩ := ran_later ran
          obtain rfl := List.append_cancel_left same
          exact (finishedAfter_iff prior late).trans
            (both.trans (namedAfter_iff prior calm late).symm)

theorem course_begins (course : Course env handle final v) : Begins handle v := by
  cases course with
  | refused prior begins calm refused =>
      cases refused with
      | returned | untold => exact begins_append begins (begins_single fun _ _ same => nomatch same)
  | escaped e prior begins => exact begins
  | started prior begins calm started =>
      cases started with
      | ran outcome ran =>
          obtain ⟨rest, rfl, late⟩ := ran_later ran
          have after : Begins handle rest := by
            intro start answer member
            cases late _ member
          exact begins_append (begins_append (begins_append begins
            (begins_single fun _ _ same => nomatch same))
              (begins_single fun _ _ same => nomatch same)) after

end Calls

/-- A call whose audit was begun, and whose recorder accepts every finish record, records exactly
one, which agrees with the result or with the cancellation that the call raises, exactly when
handlers name everything that is raised and no rollback raises. -/
theorem audit_finished (env : Collaborators) (toolName : PyValue) (arguments : RawValue)
    (context : Option ToolExecutionContext) (start : ToolAuditStart) (handle : ToolAuditHandle)
    (begun : .begun start (.ok handle) ∈ (execute env toolName arguments context {}).2.trace)
    (accepting : Accepting (execute env toolName arguments context {}).2.trace) :
    FinishedOnce handle (execute env toolName arguments context {}).1
        (execute env toolName arguments context {}).2.trace ↔
      Named env (execute env toolName arguments context {}).2.trace := by
  have audited := execute_audited env toolName arguments context
  revert begun accepting audited
  generalize (execute env toolName arguments context {}).1 = final
  generalize (execute env toolName arguments context {}).2.trace = trace
  intro begun accepting audited
  cases audited with
  | rejected => cases begun
  | unaudited => cases List.mem_singleton.mp begun
  | audited other course =>
      obtain rfl := Except.ok.inj (course_begins course start _ begun)
      exact course_both course accepting

section Sample

def Event.smooth (env : Collaborators) : Event → Bool
  | .toolEnded (.ok raw) => digestible env (unwrapOutput raw).1
  | .rolledBack _ (some _) | .finished _ _ (some _) => false
  | event => !event.unexpected

theorem smooth_named {env : Collaborators} {trace : Trace}
    (smooth : ∀ event ∈ trace, event.smooth env = true) : Accepting trace ∧ Named env trace := by
  refine ⟨?_, ?_, ?_, ?_⟩
  · exact fun handle finish e member => nomatch smooth _ member
  · intro event member
    have plain := smooth event member
    cases event with
    | toolEnded outcome =>
        cases outcome with
        | ok raw => rfl
        | error e => simpa [Event.smooth] using plain
    | rolledBack | finished => rfl
    | begun | requested | permission | evaluated | parsed | toolStarted | interrupted | committed =>
        simpa [Event.smooth] using plain
  · exact fun raw member => .inr (smooth _ member)
  · exact fun pending e member => nomatch smooth _ member

def Event.begins : Event → Bool
  | .begun _ (.ok _) => true
  | .begun _ (.error _) => false
  | .requested _ | .permission _ | .evaluated _ | .parsed _ _ | .toolStarted _ _ | .toolEnded _
  | .interrupted | .finished _ _ _ | .committed _ _ | .rolledBack _ _ => false

theorem begun_of_any {trace : Trace} (found : trace.any Event.begins = true) :
    ∃ start handle, .begun start (.ok handle) ∈ trace := by
  obtain ⟨event, member, begins⟩ := List.any_eq_true.mp found
  unfold Event.begins at begins
  split at begins
  · next start handle => exact ⟨start, handle, member⟩
  all_goals cases begins

theorem audit_finished_sample :
    ∃ handle, FinishedOnce handle (sampleCall writeEnv).1 (sampleCall writeEnv).2.trace := by
  have found : (sampleCall writeEnv).2.trace.any Event.begins = true := by decide +kernel
  have smooth : ∀ event ∈ (sampleCall writeEnv).2.trace, event.smooth writeEnv = true := by
    decide +kernel
  obtain ⟨start, handle, begun⟩ := begun_of_any found
  obtain ⟨accepting, named⟩ := smooth_named smooth
  exact ⟨handle, (audit_finished writeEnv _ _ _ start handle begun accepting).mpr named⟩

/-- The tool returns no mapping, and its transaction cannot be rolled back. -/
def stuckEnv (cancelled : Bool) : Collaborators :=
  { sampleEnv (sampleTool (.transactional .foreign 7)) with
    rollback := fun _ _ => some .otherError
    interrupted := fun _ => cancelled }

def failure? : Except PyExn ToolResult → Option PyExn
  | .ok _ => none
  | .error e => some e

def unfinished (call : Except PyExn ToolResult × World) : Bool :=
  call.2.trace.any Event.begins && call.2.trace.all (fun event => !event.finishes) &&
    decide (failure? call.1 = some (.tool .base .compensationFailed))

theorem audit_unfinished :
    unfinished (sampleCall (stuckEnv false)) = true ∧
      unfinished (sampleCall (stuckEnv true)) = true := by
  decide +kernel

end Sample

end SynapseOS.Execution
