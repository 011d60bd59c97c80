import SynapseOS.Execution.Executor

/-! The ways in which a call of `ToolExecutor.execute` ends, with everything that happened. -/

namespace SynapseOS.Execution

open Tools Permissions Program

def On (t : Trace) (w : World) : Prop := w.trace = t

def Ending {α : Type} (t : Trace) (body : Action α) (ends : Except PyExn α → Trace → Prop) : Prop :=
  Triple (On t) body (fun a w => ends (.ok a) w.trace) fun e w => ends (.error e) w.trace

section Rules

variable {α β : Type} {t : Trace} {ends : Except PyExn β → Trace → Prop} (env : Collaborators)

theorem ending_logged {rest : Unit → Action β} (event : Event)
    (next : Ending (t ++ [event]) (rest ()) ends) :
    Ending t (update (fun w => w.log event) >>= rest) ends := by
  intro w held
  apply next (w.log event)
  exact congrArg (· ++ [event]) held

theorem ending_looked {rest : World → Action β}
    (next : ∀ w, w.trace = t → Ending t (rest w) ends) : Ending t (look >>= rest) ends :=
  fun w held => next w held w held

theorem ending_timed {rest : ℚ → Action β} (next : ∀ now, Ending t (rest now) ends) :
    Ending t (perfCounter env >>= rest) ends :=
  fun w held => next (env.reading w.readings) { w with readings := w.readings + 1 } held

theorem ending_duration {rest : { duration : ℚ // 0 ≤ duration } → Action β} (startedAt : ℚ)
    (next : ∀ duration, Ending t (rest duration) ends) :
    Ending t (durationMs env startedAt >>= rest) ends :=
  fun w held => next _ { w with readings := w.readings + 1 } held

theorem ending_give {a : β} (ended : ends (.ok a) t) : Ending t (pure a) ends :=
  triple_give a fun w held => by
    rw [show w.trace = t from held]
    exact ended

theorem ending_raise {e : PyExn} (ended : ends (.error e) t) : Ending t (raise e) ends :=
  triple_raise e fun w held => by
    rw [show w.trace = t from held]
    exact ended

theorem ending_resumed {rest : α → Action β} (outcome : Except PyExn α)
    (returns : ∀ a, outcome = .ok a → Ending t (rest a) ends)
    (raises : ∀ e, outcome = .error e → ends (.error e) t) :
    Ending t (resume outcome >>= rest) ends := by
  apply triple_resumed
  · exact returns
  · intro e w failed held
    rw [show w.trace = t from held]
    exact raises e failed

/-- The rest of a body goes on from every trace in which its first part returns. -/
theorem ending_bind {first : Except PyExn α → Trace → Prop} {body : Action α} {rest : α → Action β}
    (begins : Ending t body first) (returns : ∀ a u, first (.ok a) u → Ending u (rest a) ends)
    (raises : ∀ e u, first (.error e) u → ends (.error e) u) :
    Ending t (body >>= rest) ends := by
  have weak : Triple (On t) body (fun a w => first (.ok a) w.trace) fun e w =>
      ends (.error e) w.trace :=
    triple_weaken begins (fun _ held => held) (fun _ _ held => held) fun e w held =>
      raises e w.trace held
  exact triple_bind weak fun a w held => returns a w.trace held w rfl

theorem ending_attempt {first : Except PyExn α → Trace → Prop} {body : Action α}
    {rest : Except PyExn α → Action β} (begins : Ending t body first)
    (next : ∀ outcome u, first outcome u → Ending u (rest outcome) ends) :
    Ending t (attempt body >>= rest) ends := by
  intro w held
  have outcome := triple_outcome begins held
  rw [attempt_run]
  apply next (body w).1 (body w).2.trace _ _ rfl
  revert outcome
  cases (body w).1 with
  | error e => exact id
  | ok a => exact id

theorem ending_weaken {p : Except PyExn β → Trace → Prop} {body : Action β}
    (strong : Ending t body p) (implies : ∀ outcome u, p outcome u → ends outcome u) :
    Ending t body ends :=
  triple_weaken strong (fun _ held => held) (fun a w held => implies (.ok a) w.trace held)
    fun e w held => implies (.error e) w.trace held

end Rules

section Audit

inductive Told (handle : ToolAuditHandle) (finish : ToolAuditFinish) (t : Trace) :
    Except PyExn Unit → Trace → Prop
  | accepted : Told handle finish t (.ok ()) (t ++ [.finished handle finish none])
  | refused (raised : PyExn) :
      Told handle finish t (.error (sanitize raised (.tool .audit .auditFailed)))
        (t ++ [.finished handle finish (some raised)])

inductive Refused (handle : ToolAuditHandle) (failure : Failure) (t : Trace) :
    Except PyExn ToolResult → Trace → Prop
  | returned (finish : ToolAuditFinish) (result : ToolResult)
      (outcome : finish.outcome = failure.outcome) (status : result.status = failure.status) :
      Refused handle failure t (.ok result) (t ++ [.finished handle finish none])
  | untold (finish : ToolAuditFinish) (raised : PyExn)
      (outcome : finish.outcome = failure.outcome) :
      Refused handle failure t (.error (sanitize raised (.tool .audit .auditFailed)))
        (t ++ [.finished handle finish (some raised)])

inductive Withdrawn (handle : ToolAuditHandle) (t : Trace) (e : PyExn) :
    Except PyExn ToolResult → Trace → Prop
  | raised (finish : ToolAuditFinish) (outcome : finish.outcome = .cancelled) :
      Withdrawn handle t e (.error e) (t ++ [.finished handle finish none])
  | untold (finish : ToolAuditFinish) (raised : PyExn) (outcome : finish.outcome = .cancelled) :
      Withdrawn handle t e (.error (sanitize raised (.tool .audit .auditFailed)))
        (t ++ [.finished handle finish (some raised)])

variable {t : Trace} (env : Collaborators) (handle : ToolAuditHandle) (startedAt : ℚ)

theorem finishAudit_ending (finish : ToolAuditFinish) :
    Ending t (finishAudit env handle finish) (Told handle finish t) := by
  unfold finishAudit
  apply ending_looked
  intro w _
  apply ending_logged
  cases env.auditFinish w.trace handle finish with
  | none => exact ending_give .accepted
  | some raised => exact ending_raise (.refused raised)

theorem failureResult_ending (toolName : Identifier) (failure : Failure) (code : ToolErrorCode) :
    Ending t (failureResult env handle toolName startedAt failure code)
      (Refused handle failure t) := by
  unfold failureResult
  apply ending_duration
  intro duration
  apply ending_bind (finishAudit_ending env handle _)
  · rintro _ _ ⟨⟩
    exact ending_give (.returned _ _ rfl rfl)
  · rintro _ _ ⟨⟩
    exact .untold _ _ rfl

theorem cancelledAudit_ending :
    Ending t (cancelledAudit env handle startedAt) fun outcome u =>
      ∃ finish, finish.outcome = .cancelled ∧ Told handle finish t outcome u := by
  unfold cancelledAudit
  apply ending_duration
  intro duration
  exact ending_weaken (finishAudit_ending env handle _) fun _ _ told => ⟨_, rfl, told⟩

end Audit

section Transaction

def resolution (note : Nat → Option PyExn → Event) (transaction : Option Nat) : Trace :=
  transaction.toList.map fun pending => note pending none

inductive Resolving (note : Nat → Option PyExn → Event) (transaction : Option Nat) (t : Trace) :
    Except PyExn Unit → Trace → Prop
  | done : Resolving note transaction t (.ok ()) (t ++ resolution note transaction)
  | failed (pending : Nat) (raised : PyExn) (same : transaction = some pending) :
      Resolving note transaction t (.error (sanitize raised (.tool .base .compensationFailed)))
        (t ++ [note pending (some raised)])

theorem resolving_none (note : Nat → Option PyExn → Event) (t : Trace) :
    Resolving note none t (.ok ()) t := by
  have resolving : Resolving note none t (.ok ()) (t ++ []) := .done
  rw [List.append_nil] at resolving
  exact resolving

variable {t : Trace} (env : Collaborators) (transaction : Option Nat)

theorem rollback_ending :
    Ending t (rollback env transaction) (Resolving .rolledBack transaction t) := by
  cases transaction with
  | none => exact ending_give (resolving_none _ t)
  | some pending =>
      unfold rollback
      apply ending_looked
      intro w _
      apply ending_logged
      cases env.rollback w.trace pending with
      | none => exact ending_give .done
      | some raised => exact ending_raise (.failed pending raised rfl)

theorem commit_ending :
    Ending t (commit env transaction) (Resolving .committed transaction t) := by
  cases transaction with
  | none => exact ending_give (resolving_none _ t)
  | some pending =>
      unfold commit
      apply ending_looked
      intro w _
      apply ending_logged
      cases env.commit w.trace pending with
      | none => exact ending_give .done
      | some raised => exact ending_raise (.failed pending raised rfl)

end Transaction

section Output

def checkOutput (env : Collaborators) (raw : RawValue) : Except PyExn (Nat × Nat) := do
  let fields ← copyFields raw
  let bytes ← env.python.jsonBytes (fieldsValue fields)
  let _ ← boundedOutput env fields
  .ok (fields.length, bytes)

inductive Halted (env : Collaborators) (raw : RawValue) (t : Trace) : PyExn → Trace → Prop
  | interrupted : Halted env raw t .cancelled (t ++ [.interrupted])
  | rejected (e : PyExn) (checked : checkOutput env raw = .error e) : Halted env raw t e t

inductive Digested (env : Collaborators) (raw : RawValue) (t : Trace) :
    Except PyExn Processed → Trace → Prop
  | halted {e : PyExn} {u : Trace} (halted : Halted env raw t e u) :
      Digested env raw t (.error e) u
  | processed (p : Processed)
      (checked : checkOutput env raw = .ok (p.fields.length, p.bytes))
      (status : p.result.status = .succeeded) : Digested env raw t (.ok p) t

variable {t : Trace} (env : Collaborators) (handle : ToolAuditHandle) (toolName : Identifier)
  (startedAt : ℚ)

theorem processOutput_ending (raw : RawValue) :
    Ending t (processOutput env handle toolName startedAt raw) (Digested env raw t) := by
  unfold processOutput
  apply ending_looked
  intro w _
  split
  · apply ending_logged
    exact ending_raise (.halted .interrupted)
  · apply ending_resumed
    · intro fields copied
      apply ending_duration
      intro duration
      apply ending_resumed
      · intro bytes encoded
        apply ending_resumed
        · intro output bounded
          refine ending_give (.processed _ ?_ rfl)
          simp only [checkOutput, copied, encoded, bounded, bind, Except.bind]
        · intro e bounded
          refine .halted (.rejected e ?_)
          simp only [checkOutput, copied, encoded, bounded, bind, Except.bind]
      · intro e encoded
        refine .halted (.rejected e ?_)
        simp only [checkOutput, copied, encoded, bind, Except.bind]
    · intro e copied
      refine .halted (.rejected e ?_)
      simp only [checkOutput, copied, bind, Except.bind]

def handled (e : PyExn) : Bool := e.cancellation || e.malformed

/-- What follows the success record: a commit if it was accepted, a rollback if it was refused
with an ordinary exception. -/
inductive Concluded (raw : RawOutput) (u : Trace) :
    Except PyExn Unit → Except PyExn ToolResult → Trace → Prop
  | returned (result : ToolResult) (status : result.status = .succeeded) :
      Concluded raw u (.ok ()) (.ok result) (u ++ resolution .committed (unwrapOutput raw).2)
  | uncommitted (pending : Nat) (raised : PyExn) (same : (unwrapOutput raw).2 = some pending) :
      Concluded raw u (.ok ()) (.error (sanitize raised (.tool .base .compensationFailed)))
        (u ++ [.committed pending (some raised)])
  | restored : Concluded raw u (.error (.tool .audit .auditFailed))
        (.error (.tool .audit .auditFailed)) (u ++ resolution .rolledBack (unwrapOutput raw).2)
  | unrestored (pending : Nat) (raised : PyExn) (same : (unwrapOutput raw).2 = some pending) :
      Concluded raw u (.error (.tool .audit .auditFailed))
        (.error (sanitize raised (.tool .base .compensationFailed)))
        (u ++ [.rolledBack pending (some raised)])
  | escaped (e : PyExn) (fatal : e.ordinary = false) : Concluded raw u (.error e) (.error e) u

inductive Settled (env : Collaborators) (handle : ToolAuditHandle) (raw : RawOutput) (t : Trace) :
    Except PyExn ToolResult → Trace → Prop
  | escaped {e : PyExn} {u : Trace} (halted : Halted env (unwrapOutput raw).1 t e u)
      (unhandled : handled e = false) : Settled env handle raw t (.error e) u
  | unrestored {e : PyExn} {u : Trace} (halted : Halted env (unwrapOutput raw).1 t e u)
      (named : handled e = true) (pending : Nat) (raised : PyExn)
      (same : (unwrapOutput raw).2 = some pending) :
      Settled env handle raw t (.error (sanitize raised (.tool .base .compensationFailed)))
        (u ++ [.rolledBack pending (some raised)])
  | withdrawn {e : PyExn} {u v : Trace} {outcome : Except PyExn ToolResult}
      (halted : Halted env (unwrapOutput raw).1 t e u) (cancelled : e.cancellation = true)
      (withdrawn : Withdrawn handle (u ++ resolution .rolledBack (unwrapOutput raw).2)
        e outcome v) :
      Settled env handle raw t outcome v
  | refused {e : PyExn} {u v : Trace} {outcome : Except PyExn ToolResult}
      (halted : Halted env (unwrapOutput raw).1 t e u) (malformed : e.malformed = true)
      (refused : Refused handle .failed (u ++ resolution .rolledBack (unwrapOutput raw).2)
        outcome v) : Settled env handle raw t outcome v
  | excessive (fields bytes : Nat)
      (checked : checkOutput env (unwrapOutput raw).1 = .ok (fields, bytes))
      (excess : ¬ (fields ≤ 128 ∧ bytes ≤ 1048576)) :
      Settled env handle raw t (.error .valueError) t
  | told {outcome : Except PyExn Unit} {u : Trace} {final : Except PyExn ToolResult} {v : Trace}
      (fields bytes : Nat) (checked : checkOutput env (unwrapOutput raw).1 = .ok (fields, bytes))
      (bounds : fields ≤ 128 ∧ bytes ≤ 1048576) (finish : ToolAuditFinish)
      (succeeded : finish.outcome = .succeeded) (told : Told handle finish t outcome u)
      (concluded : Concluded raw u outcome final v) : Settled env handle raw t final v

theorem sanitize_audit (raised : PyExn) :
    sanitize raised (.tool .audit .auditFailed) = .tool .audit .auditFailed ∨
      (sanitize raised (.tool .audit .auditFailed) = raised ∧ raised.ordinary = false) := by
  unfold sanitize
  split
  · exact .inl rfl
  · next fatal => exact .inr ⟨rfl, by simpa using fatal⟩

theorem succeed_ending (raw : RawOutput) (p : Processed)
    (checked : checkOutput env (unwrapOutput raw).1 = .ok (p.fields.length, p.bytes))
    (status : p.result.status = .succeeded) :
    Ending t (succeed env handle (unwrapOutput raw).2 p) (Settled env handle raw t) := by
  unfold succeed
  split
  · next bounds =>
      apply ending_attempt (finishAudit_ending env handle _)
      intro outcome u told
      apply ending_weaken (p := Concluded raw u outcome)
      · cases told with
        | accepted =>
            apply ending_bind (commit_ending env _)
            · rintro _ _ ⟨⟩
              exact ending_give (.returned p.result status)
            · rintro _ _ (_ | ⟨pending, raised, same⟩)
              exact .uncommitted pending raised same
        | refused raised =>
            rcases sanitize_audit raised with ordinary | ⟨same, fatal⟩
            · rw [ordinary]
              apply ending_bind (rollback_ending env _)
              · rintro _ _ ⟨⟩
                exact ending_raise .restored
              · rintro _ _ (_ | ⟨pending, raised, same⟩)
                exact .unrestored pending raised same
            · rw [same]
              cases raised with
              | cancelled | expired | fatal => exact ending_raise (.escaped _ rfl)
              | tool | permission | typeError | valueError | recursionError | timeoutError
              | otherError => cases fatal
      · exact fun final v concluded =>
          .told _ _ checked bounds _ rfl told concluded
  · next excess => exact ending_raise (.excessive _ _ checked excess)

theorem withdraw_ending (e : PyExn) :
    Ending t (finallyRaise (cancelledAudit env handle startedAt) e) (Withdrawn handle t e) := by
  unfold finallyRaise
  apply ending_attempt (cancelledAudit_ending env handle startedAt)
  rintro outcome u ⟨finish, cancelled, told⟩
  cases told with
  | accepted => exact ending_raise (.raised finish cancelled)
  | refused raised => exact ending_raise (.untold finish raised cancelled)

theorem settle_ending (raw : RawOutput) :
    Ending t (settle env handle toolName startedAt raw) (Settled env handle raw t) := by
  unfold settle
  apply ending_attempt (processOutput_ending env handle toolName startedAt (unwrapOutput raw).1)
  intro outcome u digested
  cases digested with
  | @halted e _ halted =>
      dsimp only
      split
      · next cancelled =>
          have named : handled e = true := by
            unfold handled
            rw [cancelled, Bool.true_or]
          apply ending_bind (rollback_ending env _)
          · rintro _ v ⟨⟩
            exact ending_weaken (withdraw_ending env handle startedAt e) fun _ _ withdrawn =>
              .withdrawn halted cancelled withdrawn
          · rintro _ _ (_ | ⟨pending, raised, same⟩)
            exact .unrestored halted named pending raised same
      · next uncancelled =>
          split
          · next malformed =>
              have named : handled e = true := by
                unfold handled
                rw [malformed, Bool.or_true]
              apply ending_bind (rollback_ending env _)
              · rintro _ v ⟨⟩
                exact ending_weaken (failureResult_ending env handle startedAt toolName _ _)
                  fun _ _ refused => .refused halted malformed refused
              · rintro _ _ (_ | ⟨pending, raised, same⟩)
                exact .unrestored halted named pending raised same
          · next wellFormed =>
              have unhandled : handled e = false := by
                simp [handled, uncancelled, wellFormed]
              exact ending_raise (.escaped halted unhandled)
  | processed p checked status => exact succeed_ending env handle raw p checked status

end Output

section Permission

inductive Asked (env : Collaborators) (request : PermissionRequest) (t : Trace) :
    Except PyExn (Except PyExn PermissionDecision) → Trace → Prop
  | evaluated (s : World) (outcome : Except PyExn PermissionDecision)
      (noted : List PermissionEvent)
      (evaluation : env.engine.Evaluation s (some request) outcome noted) :
      Asked env request t (.ok outcome)
        (t ++ [.requested request] ++ noted.map .permission ++ [.evaluated outcome])

theorem noteAll_trace (env : Collaborators) (noted : List PermissionEvent) (w : World) :
    (env.engine.noteAll noted w).trace = w.trace ++ noted.map .permission := by
  induction noted generalizing w with
  | nil => exact (List.append_nil _).symm
  | cons event rest ih =>
      have tail := ih (env.engine.note event w)
      have head : (env.engine.note event w).trace = w.trace ++ [.permission event] := rfl
      rw [head, List.append_assoc] at tail
      exact tail

theorem askPermission_ending {t : Trace} (env : Collaborators) (tool : Tool) (name : Identifier)
    (context : ToolExecutionContext) :
    Ending t (askPermission env tool name context)
      (Asked env (permissionRequest tool name context) t) := by
  unfold askPermission
  dsimp only
  apply ending_logged
  generalize permissionRequest tool name context = request
  have evaluates : Ending (t ++ [.requested request]) (env.engine.evaluate (some request))
      fun outcome u => ∃ s noted, u = t ++ [.requested request] ++ noted.map .permission ∧
        env.engine.Evaluation s (some request) outcome noted := by
    intro w held
    have ran : Triple (fun u => u = w) (env.engine.evaluate (some request))
        (fun decision u => ∃ s noted, u.trace = t ++ [.requested request] ++ noted.map .permission ∧
          env.engine.Evaluation s (some request) (.ok decision) noted)
        (fun e u => ∃ s noted, u.trace = t ++ [.requested request] ++ noted.map .permission ∧
          env.engine.Evaluation s (some request) (.error e) noted) := by
      apply triple_weaken (env.engine.evaluate_triple (some request) w) fun _ same => same
      · rintro decision u ⟨noted, rfl, evaluation⟩
        exact ⟨w, noted, by rw [noteAll_trace, held], evaluation⟩
      · rintro e u ⟨noted, rfl, evaluation⟩
        exact ⟨w, noted, by rw [noteAll_trace, held], evaluation⟩
    exact ran w rfl
  apply ending_attempt evaluates
  rintro outcome u ⟨s, noted, rfl, evaluation⟩
  apply ending_logged
  exact ending_give (.evaluated s outcome noted evaluation)

end Permission

section Tool

inductive Ran (env : Collaborators) (handle : ToolAuditHandle) (t : Trace) :
    Except PyExn RawOutput → Except PyExn ToolResult → Trace → Prop
  | settled {raw : RawOutput} {final : Except PyExn ToolResult} {v : Trace}
      (settled : Settled env handle raw t final v) : Ran env handle t (.ok raw) final v
  | refused {e : PyExn} {failure : Failure} {final : Except PyExn ToolResult} {v : Trace}
      (ordinary : e.ordinary = true) (refused : Refused handle failure t final v) :
      Ran env handle t (.error e) final v
  | withdrawn {final : Except PyExn ToolResult} {v : Trace}
      (withdrawn : Withdrawn handle t .cancelled final v) :
      Ran env handle t (.error .cancelled) final v
  | escaped (e : PyExn) (fatal : e.ordinary = false) (other : e ≠ .cancelled) :
      Ran env handle t (.error e) (.error e) t

inductive Started (env : Collaborators) (handle : ToolAuditHandle) (name : Identifier)
    (input : Input) (t : Trace) : Except PyExn ToolResult → Trace → Prop
  | ran (outcome : Except PyExn RawOutput) {final : Except PyExn ToolResult} {v : Trace}
      (ran : Ran env handle (t ++ [.toolStarted name input] ++ [.toolEnded outcome]) outcome
        final v) : Started env handle name input t final v

variable {t : Trace} (env : Collaborators) (handle : ToolAuditHandle) (tool : Tool)
  (name : Identifier) (startedAt : ℚ)

theorem runTool_ending (input : Input) (context : ToolExecutionContext) :
    Ending t (runTool env handle tool name startedAt input context)
      (Started env handle name input t) := by
  unfold runTool
  apply ending_logged
  apply ending_looked
  intro w _
  dsimp only
  generalize timeoutScope (tool.execute w.trace input context) = outcome
  apply ending_logged
  apply ending_weaken (p := Ran env handle (t ++ [.toolStarted name input] ++ [.toolEnded outcome])
    outcome)
  · split
    · exact ending_weaken (settle_ending env handle name startedAt _) fun _ _ => .settled
    · exact ending_weaken (failureResult_ending env handle startedAt name _ _) fun _ _ =>
        .refused rfl
    · apply ending_bind (cancelledAudit_ending env handle startedAt)
      · rintro _ _ ⟨finish, cancelled, ⟨⟩⟩
        exact ending_raise (.withdrawn (.raised finish cancelled))
      · rintro _ _ ⟨finish, cancelled, _ | ⟨raised⟩⟩
        exact .withdrawn (.untold finish raised cancelled)
    · exact ending_weaken (failureResult_ending env handle startedAt name _ _) fun _ _ =>
        .refused rfl
    · next e _ uncancelled _ =>
        split
        · next ordinary =>
            exact ending_weaken (failureResult_ending env handle startedAt name _ _) fun _ _ =>
              .refused ordinary
        · next fatal =>
            exact ending_raise (.escaped e (by simpa using fatal) fun same => uncancelled same)
  · exact fun _ _ ran => .ran outcome ran

inductive Invoked (env : Collaborators) (handle : ToolAuditHandle) (tool : Tool) (name : Identifier)
    (arguments : Fields) (t : Trace) : Except PyExn ToolResult → Trace → Prop
  | started {input : Input} {final : Except PyExn ToolResult} {v : Trace}
      (valid : tool.parse arguments = .ok input)
      (started : Started env handle name input (t ++ [.parsed arguments (.ok input)]) final v) :
      Invoked env handle tool name arguments t final v
  | refused {e : PyExn} {failure : Failure} {final : Except PyExn ToolResult} {v : Trace}
      (malformed : e.malformed = true)
      (refused : Refused handle failure (t ++ [.parsed arguments (.error e)]) final v) :
      Invoked env handle tool name arguments t final v
  | escaped (e : PyExn) (other : e.malformed = false) :
      Invoked env handle tool name arguments t (.error e) (t ++ [.parsed arguments (.error e)])

theorem invoke_ending (arguments : Fields) (context : ToolExecutionContext) :
    Ending t (invoke env handle tool name startedAt arguments context)
      (Invoked env handle tool name arguments t) := by
  unfold invoke
  dsimp only
  apply ending_logged
  cases valid : tool.parse arguments with
  | ok input =>
      exact ending_weaken (runTool_ending env handle tool name startedAt input context)
        fun _ _ => .started valid
  | error e =>
      dsimp only
      split
      · next malformed =>
          exact ending_weaken (failureResult_ending env handle startedAt name _ _) fun _ _ =>
            .refused malformed
      · next other => exact ending_raise (.escaped e (by simpa using other))

end Tool

section Execute

inductive Admitted (env : Collaborators) (handle : ToolAuditHandle) (tool : Tool)
    (name : Identifier) (arguments : Fields) (t : Trace) :
    Except PyExn PermissionDecision → Except PyExn ToolResult → Trace → Prop
  | refused {outcome : Except PyExn PermissionDecision} {failure : Failure}
      {final : Except PyExn ToolResult} {v : Trace}
      (expected : ∀ e, outcome = .error e → ∃ kind, e = .permission kind)
      (refused : Refused handle failure t final v) :
      Admitted env handle tool name arguments t outcome final v
  | escaped (e : PyExn) (other : ∀ kind, e ≠ .permission kind) :
      Admitted env handle tool name arguments t (.error e) (.error e) t
  | invoked {decision : PermissionDecision} {final : Except PyExn ToolResult} {v : Trace}
      (allowed : decision.outcome = .allow)
      (invoked : Invoked env handle tool name arguments t final v) :
      Admitted env handle tool name arguments t (.ok decision) final v

inductive Exit (env : Collaborators) (request : Except PyExn (Identifier × Fields))
    (submitted : Option ToolExecutionContext) : Except PyExn ToolResult → Trace → Prop
  | rejected (e : PyExn) : Exit env request submitted (.error e) []
  | unaudited (start : ToolAuditStart) (raised e : PyExn) :
      Exit env request submitted (.error e) [.begun start (.error raised)]
  | refused (start : ToolAuditStart) (handle : ToolAuditHandle) {failure : Failure}
      {final : Except PyExn ToolResult} {v : Trace}
      (refused : Refused handle failure [.begun start (.ok handle)] final v) :
      Exit env request submitted final v
  | asked (start : ToolAuditStart) (handle : ToolAuditHandle) (tool : Tool) (name : Identifier)
      (context : ToolExecutionContext) (arguments : Fields)
      {outcome : Except PyExn PermissionDecision} {u : Trace} {final : Except PyExn ToolResult}
      {v : Trace} (valid : request = .ok (name, arguments)) (same : submitted = some context)
      (registered : env.registry.get name = some tool)
      (declared : name ∈ context.declaredToolIds)
      (asked : Asked env (permissionRequest tool name context) [.begun start (.ok handle)]
        (.ok outcome) u)
      (admitted : Admitted env handle tool name arguments u outcome final v) :
      Exit env request submitted final v

inductive Begun (t : Trace) : Except PyExn ToolAuditHandle → Trace → Prop
  | begun (start : ToolAuditStart) (handle : ToolAuditHandle) :
      Begun t (.ok handle) (t ++ [.begun start (.ok handle)])
  | refused (start : ToolAuditStart) (raised e : PyExn) :
      Begun t (.error e) (t ++ [.begun start (.error raised)])
  | invalid (e : PyExn) : Begun t (.error e) t

variable (env : Collaborators)

theorem beginAudit_ending {t : Trace} (name : Identifier) (argumentCount : Nat)
    (context : ToolExecutionContext) :
    Ending t (beginAudit env name argumentCount context) (Begun t) := by
  unfold beginAudit
  split
  · apply ending_looked
    intro w _
    apply ending_logged
    generalize env.auditBegin w.trace _ = answer
    cases answer with
    | ok handle => exact ending_give (.begun _ handle)
    | error raised => exact ending_raise (.refused _ raised _)
  · exact ending_raise (.invalid _)

theorem validateContext_ok {submitted : Option ToolExecutionContext}
    {context : ToolExecutionContext} (valid : validateContext env submitted = .ok context) :
    ∃ original resolved, submitted = some original ∧
      context = { original with workspaceRoot := resolved } := by
  cases submitted with
  | none => cases valid
  | some original =>
      simp only [validateContext] at valid
      cases found : env.directory original.workspaceRoot with
      | none =>
          rw [found] at valid
          cases valid
      | some resolved =>
          rw [found] at valid
          exact ⟨original, resolved, rfl, (Except.ok.inj valid).symm⟩

/-- Every call ends in one of these ways. -/
theorem execute_ending (toolName : PyValue) (arguments : RawValue)
    (submitted : Option ToolExecutionContext) :
    Ending [] (execute env toolName arguments submitted)
      (Exit env (validateRequest toolName arguments) submitted) := by
  unfold execute
  apply ending_resumed
  · intro context valid
    obtain ⟨original, resolved, rfl, rfl⟩ := validateContext_ok env valid
    apply ending_resumed
    · intro request requested
      apply ending_timed
      intro startedAt
      apply ending_bind (beginAudit_ending env _ _ _)
      · rintro handle _ ⟨start⟩
        split
        · exact ending_weaken (failureResult_ending env handle startedAt _ _ _) fun _ _ =>
            .refused start handle
        · next tool registered =>
            split
            · exact ending_weaken (failureResult_ending env handle startedAt _ _ _) fun _ _ =>
                .refused start handle
            · next declared =>
                apply ending_bind (askPermission_ending env tool _ _)
                · intro outcome u asked
                  apply ending_weaken (p := Admitted env handle tool request.1 request.2 u outcome)
                  · split
                    · next kind =>
                        exact ending_weaken (failureResult_ending env handle startedAt _ _ _)
                          fun _ _ => .refused fun e same =>
                            ⟨kind, (Except.error.inj same).symm⟩
                    · next e other =>
                        exact ending_raise (.escaped e fun kind same => other kind (by rw [same]))
                    · next decision =>
                        split
                        · exact ending_weaken (failureResult_ending env handle startedAt _ _ _)
                            fun _ _ => .refused fun e same => nomatch same
                        · next allowed =>
                            exact ending_weaken (invoke_ending env handle tool _ startedAt _ _)
                              fun _ _ => .invoked (not_not.mp allowed)
                  · exact fun _ _ admitted => .asked start handle tool request.1 original request.2
                      requested rfl registered (not_not.mp declared) asked admitted
                · rintro _ _ ⟨⟩
      · rintro e _ (_ | ⟨start, raised⟩ | _)
        · exact .unaudited start raised e
        · exact .rejected e
    · exact fun e _ => .rejected e
  · exact fun e _ => .rejected e

end Execute

end SynapseOS.Execution
