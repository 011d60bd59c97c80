import SynapseOS.Runtime.Invariants

/-! The runtime follows its protocol: a triple for each of its methods. -/

namespace SynapseOS.Runtime

open Tools Program

section Clock

theorem pyRound_nonneg (q : ℚ) (nonneg : 0 ≤ q) : 0 ≤ pyRound q := by
  have floor : 0 ≤ ⌊q⌋ := Int.floor_nonneg.mpr nonneg
  unfold pyRound
  dsimp only
  split_ifs <;> omega

theorem elapsedMs_bounds (started now : ℚ) (later : started ≤ now) :
    0 ≤ elapsedMs started now ∧ elapsedMs started now ≤ 3600000 := by
  have rounded : 0 ≤ pyRound ((now - started) * 1000) := by
    apply pyRound_nonneg
    apply mul_nonneg
    · exact sub_nonneg.mpr later
    · norm_num
  unfold elapsedMs
  omega

end Clock

/-- What holds of the parts of a run that the protocol does not see. -/
structure Sane (rt : AgentRuntime) (w : World) : Prop where
  started : w.run.started ≤ rt.env.reading w.readings
  steps : ∀ step begun, w.run.stepStarted.get step = some begun →
    begun ≤ rt.env.reading w.readings
  retained : w.run.maxHistory = rt.limits.maxHistoryEntries

structure At (rt : AgentRuntime) (p : Point) (φ : Ledger → Prop) (w : World) : Prop where
  reached : Reached rt.limits p w.ledger
  fact : φ w.ledger
  sane : Sane rt w

def Ordinary (e : Exn) : Prop := ∃ code, code ≠ .auditFailed ∧ e = .runtime code

def Uncaught (e : Exn) (l : Ledger) : Prop :=
  Ordinary e → Lax l.trace ∨ .toolRaised e ∈ l.trace

structure Grows (l m : Ledger) : Prop where
  iterations : m.counters.iterations = l.counters.iterations
  toolCalls : m.counters.toolCalls = l.counters.toolCalls
  trace : ∀ event ∈ l.trace, event ∈ m.trace

def Steady (ψ : Ledger → Prop) : Prop := ∀ l m, Grows l m → ψ l → ψ m

section Facts

variable {l m : Ledger}

theorem grows_log (l : Ledger) (event : Event) : Grows l (l.log event) :=
  ⟨rfl, rfl, fun _ member => List.mem_append_left _ member⟩

theorem grows_answered (l : Ledger) (step : RuntimeStep) (output : ReasonerOutput Thought) :
    Grows l (l.answered step output) :=
  ⟨rfl, rfl, fun _ member => List.mem_append_left _ member⟩

theorem grows_appended (l : Ledger) (limit : Nat) (entry : RuntimeHistoryEntry) :
    Grows l (l.appended limit entry) :=
  ⟨rfl, rfl, fun _ member => List.mem_append_left _ member⟩

theorem grows_failed (l : Ledger) : Grows l l.failed := ⟨rfl, rfl, fun _ member => member⟩

theorem lax_grows (grows : Grows l m) (lax : Lax l.trace) : Lax m.trace := by
  obtain ⟨record, code, ordinary, member⟩ := lax
  exact ⟨record, code, ordinary, grows.trace _ member⟩

theorem spare_grows {limits : RuntimeLimits} (grows : Grows l m)
    (tokens : m.counters.reportedTokens = l.counters.reportedTokens) (spare : Spare limits l) :
    Spare limits m := by
  rcases spare with lax | under
  · exact .inl (lax_grows grows lax)
  · exact .inr (tokens ▸ under)

theorem lax_noted {record : RuntimeAuditRecord} {e : Exn} (ordinary : Ordinary e) :
    Lax (l.noted record (some e)).trace := by
  obtain ⟨code, different, rfl⟩ := ordinary
  exact ⟨record, code, different, List.mem_append_right _ (List.mem_singleton_self _)⟩

end Facts

section At

variable {rt : AgentRuntime} {p : Point} {φ ψ : Ledger → Prop} {w : World}

theorem at_weaken (standing : At rt p φ w) (implies : φ w.ledger → ψ w.ledger) : At rt p ψ w :=
  ⟨standing.reached, implies standing.fact, standing.sane⟩

theorem sane_later (sane : Sane rt w) : Sane rt { w with readings := w.readings + 1 } := by
  have later := rt.env.monotone (Nat.le_succ w.readings)
  exact ⟨sane.started.trans later,
    fun step begun found => (sane.steps step begun found).trans later,
    sane.retained⟩

theorem sane_log (sane : Sane rt w) (event : Event) : Sane rt (w.log event) :=
  ⟨sane.started, sane.steps, sane.retained⟩

theorem sane_count (sane : Sane rt w) (f : Counters → Counters) : Sane rt (w.count f) :=
  ⟨sane.started, sane.steps, sane.retained⟩

end At

theorem stepDuration_at {rt : AgentRuntime} {p : Point} {φ : Ledger → Prop} (step : RuntimeStep)
    (outcome : RuntimeAuditOutcome) :
    Triple (At rt p φ) (stepDuration rt step outcome)
      (fun d w => At rt p φ w ∧ 0 ≤ d ∧ d ≤ 3600000) fun _ _ => False := by
  intro w standing
  have later := sane_later standing.sane
  unfold stepDuration
  by_cases opens : outcome = .started
  · rw [if_pos opens]
    refine ⟨⟨standing.reached, standing.fact, later.started, ?_, later.retained⟩, by omega⟩
    intro other begun found
    have found : (w.run.stepStarted.set step (rt.env.reading w.readings)).get other =
        some begun := found
    rw [Dict.get_set] at found
    split at found
    · rw [← Option.some.inj found]
      exact rt.env.monotone (Nat.le_succ w.readings)
    · exact later.steps other begun found
  · rw [if_neg opens]
    have kept (other : RuntimeStep) (begun : ℚ)
        (found : (w.run.stepStarted.pop step).get other = some begun) :
        w.run.stepStarted.get other = some begun := by
      rw [Dict.get_pop] at found
      split at found
      · cases found
      · exact found
    rw [look_run, update_run]
    cases begun : w.run.stepStarted.get step with
    | none =>
        dsimp only
        refine ⟨⟨standing.reached, standing.fact, standing.sane.started, ?_,
          standing.sane.retained⟩, by omega⟩
        intro other at_ found
        exact standing.sane.steps other at_ (kept other at_ found)
    | some started =>
        refine ⟨⟨standing.reached, standing.fact, later.started, ?_, later.retained⟩, ?_⟩
        · intro other at_ found
          exact later.steps other at_ (kept other at_ found)
        · exact elapsedMs_bounds _ _ (standing.sane.steps step started begun)

/-- The moves by which a record takes a run on from `p`: to `q` when it is accepted, else to
`bad`. The fact `φ` about the ledger becomes `χ`. -/
structure Recording (limits : RuntimeLimits) (φ χ : Ledger → Prop) (p q : Point)
    (bad : Exn → Point) (step : RuntimeStep) (outcome : RuntimeAuditOutcome)
    (reason : Option RuntimeTerminalReason) : Prop where
  accepted : ∀ l record, φ l → Describes record l step outcome reason →
    Move limits p l q (l.noted record none)
  rejected : ∀ l record e, φ l → Describes record l step outcome reason →
    Move limits p l (bad e) (l.noted record (some e))
  invalid : ∀ l, φ l → ¬ l.counters.Bounded → Move limits p l (bad .validation) l
  noted : ∀ l record raised, φ l → Describes record l step outcome reason →
    χ (l.noted record raised)
  weaker : ∀ l, φ l → χ l

section Records

variable {rt : AgentRuntime} {φ χ : Ledger → Prop} {p q : Point} {bad : Exn → Point}
  {step : RuntimeStep} {outcome : RuntimeAuditOutcome} {reason : Option RuntimeTerminalReason}

theorem recording_thrown {limits : RuntimeLimits} (recording : p.recording = true)
    (timely : outcome ≠ .timedOut)
    (startable : outcome = .started → ∀ l, φ l → Startable limits l step)
    (accepted : ∀ l record, φ l → Describes record l step outcome reason →
      Move limits p l q (l.noted record none))
    (noted : ∀ l record raised, φ l → Describes record l step outcome reason →
      χ (l.noted record raised)) (weaker : ∀ l, φ l → χ l) :
    Recording limits φ χ p q .thrown step outcome reason := by
  refine ⟨accepted, ?_, fun l _ excess => .invalid l p recording excess, noted, weaker⟩
  intro l record e held describes
  apply Move.reject l p record e recording describes.counters
  · rw [describes.outcome]
    exact timely
  · intro starts
    rw [describes.step]
    exact startable (describes.outcome ▸ starts) l held

theorem submit_at (moves : Recording rt.limits φ χ p q bad step outcome reason)
    (context : ToolExecutionContext) (d : Int) (duration : 0 ≤ d ∧ d ≤ 3600000)
    (action : Option RuntimeAction) (toolName : Option Identifier)
    (errorCode : Option ToolErrorCode) :
    Triple (At rt p φ)
      (look >>= fun w => submit rt (buildRecord context w.run.counters step outcome d reason
        action toolName errorCode))
      (fun _ => At rt q χ)
      (fun e => At rt (bad e) fun l => χ l ∧ (Ordinary e → Lax l.trace)) := by
  intro w standing
  rw [look_run]
  unfold buildRecord submit
  rw [dif_pos duration]
  by_cases bounded : w.run.counters.Bounded
  · rw [dif_pos bounded]
    generalize shape : RuntimeAuditRecord.mk _ _ _ _ _ _ _ _ _ _ _ _ _ _ _ = record
    have describes : Describes record w.ledger step outcome reason := by
      subst shape
      exact ⟨rfl, rfl, rfl, rfl⟩
    rw [resume_ok_run, look_run]
    dsimp only
    rw [update_run]
    cases raised : rt.env.record w.trace record with
    | none =>
        exact ⟨.move standing.reached (moves.accepted _ record standing.fact describes),
          moves.noted _ record none standing.fact describes, sane_log standing.sane _⟩
    | some e =>
        exact ⟨.move standing.reached (moves.rejected _ record e standing.fact describes),
          ⟨moves.noted _ record (some e) standing.fact describes,
            fun ordinary => lax_noted (l := w.ledger) ordinary⟩, sane_log standing.sane _⟩
  · rw [dif_neg bounded]
    refine ⟨.move standing.reached (moves.invalid _ standing.fact bounded),
      ⟨moves.weaker _ standing.fact, ?_⟩, standing.sane⟩
    rintro ⟨code, _, other⟩
    cases other

theorem auditStep_at (moves : Recording rt.limits φ χ p q bad step outcome none)
    (context : ToolExecutionContext) (decision : Option RuntimeDecision)
    (errorCode : Option ToolErrorCode) :
    Triple (At rt p φ) (auditStep rt context step outcome decision errorCode)
      (fun _ => At rt q χ)
      (fun e => At rt (bad e) fun l => χ l ∧ (Ordinary e → Lax l.trace)) := by
  unfold auditStep
  apply triple_bind (triple_weaken (stepDuration_at step outcome) (fun _ held => held)
    (fun _ _ held => held) (fun _ _ impossible => impossible.elim))
  intro d w held
  exact submit_at moves context d held.2 _ _ _ w held.1

theorem terminalAudit_at {terminalReason : RuntimeTerminalReason}
    (moves : Recording rt.limits φ χ p q bad .report outcome (some terminalReason))
    (context : ToolExecutionContext) :
    Triple (At rt p φ) (terminalAudit rt context outcome terminalReason) (fun _ => At rt q χ)
      (fun e => At rt (bad e) fun l => χ l ∧ (Ordinary e → Lax l.trace)) := by
  intro w standing
  have later : At rt p φ { w with readings := w.readings + 1 } :=
    ⟨standing.reached, standing.fact, sane_later standing.sane⟩
  exact submit_at moves context _ (elapsedMs_bounds _ _ standing.sane.started) none none none
    _ later

end Records

section Handlers

variable {α : Type} {pre : World → Prop} {body : Action α} {post : α → World → Prop}
  {fails last : Exn → World → Prop}

theorem exceptRuntime_triple {handler : RuntimeErrorCode → Action α}
    (triple : Triple pre body post fails)
    (handled : ∀ code, Triple (fails (.runtime code)) (handler code) post last)
    (others : ∀ e w, (∀ code, e ≠ .runtime code) → fails e w → last e w) :
    Triple pre (exceptRuntime body handler) post last := by
  unfold exceptRuntime
  apply triple_bind (triple_attempt triple)
  intro outcome
  split
  · next code => exact handled code
  · next foreign =>
      apply triple_resume
      rintro e w rfl held
      apply others e w _ held
      rintro code rfl
      exact foreign code rfl

def Recovering (fails : Exn → World → Prop) (w : World) : Prop :=
  ∃ code, code ≠ .auditFailed ∧ fails (.runtime code) w

theorem recoverable_triple (triple : Triple pre body post fails)
    (others : ∀ e w, ¬ Ordinary e → fails e w → last e w) :
    Triple pre (recoverable body)
      (fun recovered w => match recovered with
        | some a => post a w
        | none => Recovering fails w) last := by
  have mapped : Triple pre (some <$> body)
      (fun recovered w => match recovered with
        | some a => post a w
        | none => Recovering fails w) fails := triple_map triple
  apply exceptRuntime_triple mapped
  · intro code
    apply triple_ite
    · intro audit
      apply triple_raise
      intro w held
      apply others _ w _ held
      rintro ⟨other, ordinary, same⟩
      exact ordinary (Exn.runtime.inj same ▸ audit)
    · intro ordinary
      exact triple_give _ fun w held => ⟨code, ordinary, held⟩
  · intro e w foreign held
    apply others e w _ held
    rintro ⟨code, _, same⟩
    exact foreign code same

end Handlers

structure Hanging (rt : AgentRuntime) (p : Point) (φ : Ledger → Prop) (l : Ledger) (event : Event)
    (w : World) : Prop where
  reached : Reached rt.limits p l
  fact : φ l
  ledger : w.ledger = l.log event
  sane : Sane rt w

theorem hanging_at {rt : AgentRuntime} {p q : Point} {φ χ : Ledger → Prop} {l : Ledger}
    {event : Event} {w : World} (hanging : Hanging rt p φ l event w)
    (taken : Move rt.limits p l q (l.log event)) (fact : χ (l.log event)) : At rt q χ w := by
  have reached := Reached.move hanging.reached taken
  rw [← hanging.ledger] at reached fact
  exact ⟨reached, fact, hanging.sane⟩

def Settled (k : Nat) (ψ : Ledger → Prop) (l : Ledger) : Prop := Before k l ∧ ψ l

def Ready (rt : AgentRuntime) (k : Nat) (ψ : Ledger → Prop) (l : Ledger) : Prop :=
  Spare rt.limits l ∧ Settled k ψ l

def Stable (φ : Ledger → Prop) : Prop :=
  ∀ l record raised, record.outcome ≠ .started → φ l → φ (l.noted record raised)

section Ranks

variable {rt : AgentRuntime} {ψ : Ledger → Prop} {k : Nat} {l : Ledger}

theorem before_mono {j : Nat} (le : j ≤ k) (before : Before j l) : Before k l :=
  fun record member started current => (before record member started current).trans_le le

theorem before_log (before : Before k l) (event : Event) (silent : event.record? = none) :
    Before k (l.log event) := by
  intro record member
  rw [Ledger.log, recordsOf_concat, silent, Option.toList_none, List.append_nil] at member
  exact before record member

theorem before_noted {j : Nat} (before : Before j l) (le : j ≤ k) (record : RuntimeAuditRecord)
    (raised : Option Exn) (now : record.outcome = .started → record.step.rank < k) :
    Before k (l.noted record raised) := by
  intro other member started current
  rw [Ledger.noted, Ledger.log, recordsOf_concat] at member
  rcases List.mem_append.mp member with earlier | last
  · exact (before other earlier started current).trans_le le
  · obtain rfl : record = other := Option.some.inj (Option.mem_toList.mp last)
    exact now started

theorem settled_mono {j : Nat} (le : j ≤ k) (settled : Settled j ψ l) : Settled k ψ l :=
  ⟨before_mono le settled.1, settled.2⟩

theorem ready_mono {j : Nat} (le : j ≤ k) (ready : Ready rt j ψ l) : Ready rt k ψ l :=
  ⟨ready.1, settled_mono le ready.2⟩

theorem ready_implies {χ : Ledger → Prop} (implies : ψ l → χ l) (ready : Ready rt k ψ l) :
    Ready rt k χ l :=
  ⟨ready.1, ready.2.1, implies ready.2.2⟩

theorem settled_stable (steady : Steady ψ) : Stable (Settled k ψ) := by
  intro l record raised ended settled
  refine ⟨?_, steady _ _ (grows_log l _) settled.2⟩
  exact before_noted settled.1 (Nat.le_refl k) record raised fun started => absurd started ended

theorem ready_stable (steady : Steady ψ) : Stable (Ready rt k ψ) := by
  intro l record raised ended ready
  exact ⟨spare_grows (grows_log l _) rfl ready.1,
    settled_stable steady l record raised ended ready.2⟩

theorem ready_log (steady : Steady ψ) (l : Ledger) (event : Event) (silent : event.record? = none)
    (ready : Ready rt k ψ l) : Ready rt k ψ (l.log event) :=
  ⟨spare_grows (grows_log l _) rfl ready.1, before_log ready.2.1 event silent,
    steady _ _ (grows_log l _) ready.2.2⟩

theorem ready_failed (steady : Steady ψ) (l : Ledger) (ready : Ready rt k ψ l) :
    Ready rt k ψ l.failed :=
  ⟨spare_grows (grows_failed l) rfl ready.1, ready.2.1, steady _ _ (grows_failed l) ready.2.2⟩

theorem recording_stable {limits : RuntimeLimits} {φ : Ledger → Prop} {p q : Point}
    {step : RuntimeStep} {outcome : RuntimeAuditOutcome} {reason : Option RuntimeTerminalReason}
    (stable : Stable φ) (recording : p.recording = true) (ended : outcome ≠ .started)
    (timely : outcome ≠ .timedOut)
    (accepted : ∀ l record, φ l → Describes record l step outcome reason →
      Move limits p l q (l.noted record none)) :
    Recording limits φ φ p q .thrown step outcome reason := by
  apply recording_thrown recording timely (fun starts => absurd starts ended) accepted
  · intro l record raised held describes
    apply stable l record raised _ held
    rw [describes.outcome]
    exact ended
  · exact fun _ held => held

/-- STARTED is recorded where there are tokens to spare. -/
theorem opening (steady : Steady ψ) (debt : Nat) (step : RuntimeStep) :
    Recording rt.limits (Ready rt step.rank ψ) (Ready rt (step.rank + 1) ψ) (.resting debt)
      (.opened step debt) .thrown step .started none := by
  apply recording_thrown rfl (by decide)
  · exact fun _ l ready => ⟨ready.1, ready.2.1⟩
  · exact fun l record ready describes =>
      .open_ l debt record step describes ⟨ready.1, ready.2.1⟩
  · intro l record raised ready describes
    refine ⟨spare_grows (grows_log l _) rfl ready.1, ?_, steady _ _ (grows_log l _) ready.2.2⟩
    apply before_noted ready.2.1 (Nat.le_succ _) record raised
    intro _
    rw [describes.step]
    exact Nat.lt_succ_self _
  · exact fun l ready => ready_mono (Nat.le_succ _) ready

end Ranks

section Reason

variable {rt : AgentRuntime} {ψ : Ledger → Prop} {α : Type} {k : Nat}

theorem ask_at (steady : Steady ψ) (step : RuntimeStep)
    (operation : Trace → Except Exn (ReasonerOutput α)) (wrap : α → Thought) :
    Triple (At rt (.opened step 0) (Ready rt k ψ)) (ask step operation wrap)
      (fun output w => ∃ l, Hanging rt (.asked step) (Ready rt k ψ) l
        (.answered step (output.map wrap)) w)
      (fun e w => ∃ l, Hanging rt (.asked step) (Ready rt k ψ) l (.refused step e) w) := by
  intro w standing
  have reached : Reached rt.limits (.asked step) (w.ledger.log (.asked step)) :=
    .move standing.reached (.ask _ step standing.fact.1)
  have ready := ready_log steady _ (.asked step) rfl standing.fact
  unfold ask
  rw [update_run, look_run]
  cases operation (w.log (.asked step)).trace with
  | ok output => exact ⟨_, reached, ready, rfl, sane_log (sane_log standing.sane _) _⟩
  | error e => exact ⟨_, reached, ready, rfl, sane_log (sane_log standing.sane _) _⟩

def Answered (step : RuntimeStep) (thought : Thought) (l : Ledger) : Prop :=
  ∃ output, .answered step output ∈ l.trace ∧ output.value = thought

theorem steady_answered (step : RuntimeStep) (thought : Thought) :
    Steady (Answered step thought) := by
  rintro l m grows ⟨output, member, value⟩
  exact ⟨output, grows.trace _ member, value⟩

theorem steady_and {χ : Ledger → Prop} (left : Steady ψ) (right : Steady χ) :
    Steady fun l => ψ l ∧ χ l :=
  fun l m grows held => ⟨left l m grows held.1, right l m grows held.2⟩

/-- What an exception of a phase leaves: tokens to spare unless the run cannot go on. -/
def Broken (rt : AgentRuntime) (k : Nat) (ψ : Ledger → Prop) (e : Exn) : World → Prop :=
  At rt (.thrown e) fun l => Settled k ψ l ∧ (Ordinary e → Spare rt.limits l)

theorem broken_ready {e : Exn} {w : World} {f : Ledger → Prop}
    (standing : At rt (.thrown e) (fun l => Ready rt k ψ l ∧ f l) w) : Broken rt k ψ e w :=
  at_weaken standing fun fact => ⟨fact.1.2, fun _ => fact.1.1⟩

theorem broken_mono {j : Nat} (le : j ≤ k) {e : Exn} {w : World} (broken : Broken rt j ψ e w) :
    Broken rt k ψ e w :=
  at_weaken broken fun fact => ⟨settled_mono le fact.1, fact.2⟩

theorem refusal_at (steady : Steady ψ) (step : RuntimeStep) (context : ToolExecutionContext)
    (decision : Option RuntimeDecision) (code : RuntimeErrorCode) :
    Triple (fun w => ∃ l, Hanging rt (.asked step) (Ready rt k ψ) l
        (.refused step (.runtime code)) w)
      (auditStep rt context step .failed decision >>= fun _ => (raise (.runtime code) : Action α))
      (fun _ _ => False) (Broken rt k ψ) := by
  have refuses : Recording rt.limits (Ready rt k ψ) (Ready rt k ψ) (.refused step code)
      (.thrown (.runtime code)) .thrown step .failed none :=
    recording_stable (ready_stable steady) rfl (by decide) (by decide)
      fun l record _ describes => .rethrow l record step code describes
  have recorded := triple_weaken (auditStep_at refuses context decision none)
    (fun _ held => held) (fun _ _ held => held) fun _ _ held => broken_ready held
  have raised : Triple (At rt (.thrown (.runtime code)) (Ready rt k ψ))
      (raise (.runtime code) : Action α) (fun _ _ => False) (Broken rt k ψ) :=
    triple_raise _ fun w held => at_weaken held fun ready => ⟨ready.2, fun _ => ready.1⟩
  apply triple_weaken (triple_bind recorded fun _ => raised) _ (fun _ _ held => held)
    fun _ _ held => held
  rintro w ⟨l, hanging⟩
  exact hanging_at hanging (.refuse l step code) (ready_log steady l _ rfl hanging.fact)

theorem counted_at (steady : Steady ψ) {step : RuntimeStep} {wrap : α → Thought} {w : World}
    {output : ReasonerOutput α} {l : Ledger} (available : Bool)
    (hanging : Hanging rt (.asked step) (Ready rt k ψ) l (.answered step (output.map wrap)) w) :
    At rt (.replied step 0) (Settled k fun l => ψ l ∧ Answered step (wrap output.value) l)
      (w.withRun fun run =>
        { run with
          counters :=
            { run.counters with
              reportedTokens := run.counters.reportedTokens + output.reportedTokens }
          usageAvailable := available }) := by
  have counters : w.run.counters = l.counters := congrArg Ledger.counters hanging.ledger
  have history : w.run.history = l.history := congrArg Ledger.history hanging.ledger
  have trace : w.trace = (l.log (.answered step (output.map wrap))).trace :=
    congrArg Ledger.trace hanging.ledger
  refine ⟨?_, ?_, hanging.sane.started, hanging.sane.steps, hanging.sane.retained⟩
  · have reached := Reached.move hanging.reached (.answer l step (output.map wrap))
    unfold World.ledger World.withRun
    dsimp only
    rw [counters, history, trace]
    exact reached
  · unfold World.ledger World.withRun
    dsimp only
    rw [counters, history, trace]
    have grown := steady _ _ (grows_answered l step (output.map wrap)) hanging.fact.2.2
    refine ⟨before_log hanging.fact.2.1 (.answered step (output.map wrap)) rfl, grown,
      output.map wrap, ?_, rfl⟩
    exact List.mem_append_right _ (List.mem_singleton_self _)

theorem reason_at (steady : Steady ψ) (step : RuntimeStep) (context : ToolExecutionContext)
    (operation : Trace → Except Exn (ReasonerOutput α)) (wrap : α → Thought)
    (decision : Option RuntimeDecision) :
    Triple (At rt (.resting 0) (Ready rt step.rank ψ))
      (reason rt step context operation wrap decision)
      (fun a => At rt (.resting 0)
        (Settled (step.rank + 1) fun l => ψ l ∧ Answered step (wrap a) l))
      (Broken rt (step.rank + 1) ψ) := by
  have started : Recording rt.limits (Ready rt step.rank ψ) (Ready rt (step.rank + 1) ψ) _ _ _ step
      .started none := opening steady 0 step
  have opened := triple_weaken (auditStep_at started context decision none)
    (fun _ held => held) (fun _ _ held => held) fun _ _ held => broken_ready held
  have asked : Triple (At rt (.opened step 0) (Ready rt (step.rank + 1) ψ))
      (exceptRuntime (ask step operation wrap) fun code => do
        auditStep rt context step .failed decision
        raise (.runtime code))
      (fun output w => ∃ l, Hanging rt (.asked step) (Ready rt (step.rank + 1) ψ) l
        (.answered step (output.map wrap)) w) (Broken rt (step.rank + 1) ψ) := by
    apply exceptRuntime_triple (ask_at steady step operation wrap)
    · intro code
      exact triple_weaken (refusal_at steady step context decision code) (fun _ held => held)
        (fun _ _ impossible => impossible.elim) fun _ _ held => held
    · rintro e w foreign ⟨l, hanging⟩
      have ready := ready_log steady l (.refused step e) rfl hanging.fact
      exact hanging_at hanging (.drop l step e foreign) ⟨ready.2, fun _ => ready.1⟩
  unfold reason
  apply triple_bind opened
  intro _
  apply triple_bind asked
  intro output w pending
  obtain ⟨l, hanging⟩ := pending
  rw [update_run]
  have answered := steady_and steady (steady_answered step (wrap output.value))
  have closes : Recording rt.limits
      (Settled (step.rank + 1) fun l => ψ l ∧ Answered step (wrap output.value) l)
      (Settled (step.rank + 1) fun l => ψ l ∧ Answered step (wrap output.value) l)
      (.replied step 0) (.resting 0) .thrown step .succeeded none :=
    recording_stable (settled_stable answered) rfl (by decide) (by decide)
      fun l record _ describes => .close l 0 record step _ describes (by decide)
  have closed : Triple
      (At rt (.replied step 0)
        (Settled (step.rank + 1) fun l => ψ l ∧ Answered step (wrap output.value) l))
      (auditStep rt context step .succeeded decision >>= fun _ => (pure output.value : Action α))
      (fun a => At rt (.resting 0)
        (Settled (step.rank + 1) fun l => ψ l ∧ Answered step (wrap a) l))
      (Broken rt (step.rank + 1) ψ) := by
    apply triple_bind
    · exact triple_weaken (auditStep_at closes context decision none) (fun _ held => held)
        (fun _ _ held => held) fun _ _ held => at_weaken held fun fact =>
          ⟨⟨fact.1.1, fact.1.2.1⟩, fun ordinary => .inl (fact.2 ordinary)⟩
    · intro _
      exact triple_give _ fun _ held => held
  exact closed _ (counted_at steady _ hanging)

end Reason

def Closed (rt : AgentRuntime) (ending : Ending) : World → Prop :=
  At rt (.closed ending.1 ending.2.1) fun _ => True

def Failing (rt : AgentRuntime) (e : Exn) : World → Prop := At rt (.thrown e) (Uncaught e)

def Lapsed (rt : AgentRuntime) (φ : Ledger → Prop) (e : Exn) : World → Prop :=
  At rt (.thrown e) fun l => φ l ∧ (Ordinary e → Lax l.trace)

section Finish

variable {rt : AgentRuntime} {φ ψ : Ledger → Prop} {k : Nat} {α : Type} {post : α → World → Prop}
  {fails : Exn → World → Prop}

theorem lapsed_broken {e : Exn} {w : World} (lapsed : Lapsed rt (Settled k ψ) e w) :
    Broken rt k ψ e w :=
  at_weaken lapsed fun fact => ⟨fact.1, fun ordinary => .inl (fact.2 ordinary)⟩

theorem lapsed_failing {e : Exn} {w : World} (lapsed : Lapsed rt φ e w) : Failing rt e w :=
  at_weaken lapsed fun fact ordinary => .inl (fact.2 ordinary)

theorem broken_failing {e : Exn} {w : World} (special : ¬ Ordinary e)
    (broken : Broken rt k ψ e w) : Failing rt e w :=
  at_weaken broken fun _ ordinary => absurd ordinary special

/-- Behind a token check there are tokens to spare. -/
theorem budget_triple {p : Point} {yes no : Action α}
    (reached : Triple (At rt p φ) yes post fails)
    (spare : Triple (At rt p fun l => Spare rt.limits l ∧ φ l) no post fails) :
    Triple (At rt p φ) (tokenBudgetReached rt >>= fun b => if b = true then yes else no) post
      fails := by
  intro w standing
  by_cases full : rt.limits.maxTokens ≤ w.run.counters.reportedTokens
  · have checked : (tokenBudgetReached rt >>= fun b => if b = true then yes else no) w = yes w := by
      show (if decide _ = true then yes else no) w = yes w
      rw [if_pos (decide_eq_true full)]
    rw [checked]
    exact reached w standing
  · have checked : (tokenBudgetReached rt >>= fun b => if b = true then yes else no) w = no w := by
      show (if decide _ = true then yes else no) w = no w
      rw [if_neg (by simpa using full)]
    rw [checked]
    exact spare w (at_weaken standing fun fact => ⟨.inr (Nat.lt_of_not_le full), fact⟩)

theorem conclude_at (stable : Stable φ) (context : ToolExecutionContext)
    (outcome : RuntimeAuditOutcome) (status : RuntimeTerminalStatus)
    (reason : RuntimeTerminalReason) (ended : outcome ≠ .started) (timely : outcome ≠ .timedOut)
    (accepts : status.accepts reason = true)
    (completed : ∀ l, φ l → reason = .taskCompleted → Completed l.trace) :
    Triple (At rt (.resting 0) φ)
      (terminalAudit rt context outcome reason >>= fun _ =>
        (pure (status, reason, none) : Action Ending))
      (Closed rt) (Lapsed rt φ) := by
  have moves : Recording rt.limits φ φ (.resting 0) (.closed status reason) .thrown .report outcome
      (some reason) :=
    recording_stable stable rfl ended timely fun l record fact describes =>
      .terminate l record outcome status reason describes ended accepts (completed l fact)
  apply triple_bind (terminalAudit_at moves context)
  intro _
  exact triple_give _ fun w held => at_weaken held fun _ => trivial

theorem tokenTerminal_at (stable : Stable φ) (context : ToolExecutionContext) :
    Triple (At rt (.resting 0) φ) (tokenTerminal rt context) (Closed rt) (Lapsed rt φ) :=
  conclude_at stable context .limitReached .limitReached .tokenBudgetReached (by decide)
    (by decide) (by decide) fun _ _ other => nomatch other

theorem countFailure_recover (steady : Steady ψ) :
    Triple (Recovering (Broken rt k ψ)) countFailure (fun _ => At rt (.resting 0) (Ready rt k ψ))
      fails := by
  rintro w ⟨code, ordinary, broken⟩
  have ready : Ready rt k ψ w.ledger := ⟨broken.fact.2 ⟨code, ordinary, rfl⟩, broken.fact.1⟩
  exact ⟨.move broken.reached (.recover _ code ordinary), ready_failed steady _ ready,
    sane_count broken.sane _⟩

theorem countFailure_pay (steady : Steady ψ) :
    Triple (At rt (.resting 1) (Ready rt k ψ)) countFailure
      (fun _ => At rt (.resting 0) (Ready rt k ψ)) fails := by
  intro w standing
  exact ⟨.move standing.reached (.pay _), ready_failed steady _ standing.fact,
    sane_count standing.sane _⟩

theorem recoverable_at (steady : Steady ψ) (step : RuntimeStep) (context : ToolExecutionContext)
    (operation : Trace → Except Exn (ReasonerOutput α)) (wrap : α → Thought)
    (decision : Option RuntimeDecision) :
    Triple (At rt (.resting 0) (Ready rt step.rank ψ))
      (recoverable (reason rt step context operation wrap decision))
      (fun recovered w => match recovered with
        | some a => At rt (.resting 0)
            (Settled (step.rank + 1) fun l => ψ l ∧ Answered step (wrap a) l) w
        | none => Recovering (Broken rt (step.rank + 1) ψ) w) (Failing rt) :=
  recoverable_triple (reason_at steady step context operation wrap decision)
    fun _ _ special broken => broken_failing special broken

theorem finish_at (steady : Steady ψ) (task : RuntimeTask) (context : ToolExecutionContext)
    (status : RuntimeTerminalStatus) (reason_ : RuntimeTerminalReason)
    (accepts : status.accepts reason_ = true)
    (completed : ∀ l, ψ l → reason_ = .taskCompleted → Completed l.trace) :
    Triple (At rt (.resting 0) (Settled 6 ψ)) (finish rt task context status reason_) (Closed rt)
      (Failing rt) := by
  have exhausted {k : Nat} : Triple (At rt (.resting 0) (Settled k ψ)) (tokenTerminal rt context)
      (Closed rt) (Failing rt) :=
    triple_weaken (tokenTerminal_at (settled_stable steady) context) (fun _ held => held)
      (fun _ _ held => held) fun _ _ held => lapsed_failing held
  have ended (outcome : RuntimeAuditOutcome) (status : RuntimeTerminalStatus)
      (reason : RuntimeTerminalReason) (begun : outcome ≠ .started) (timely : outcome ≠ .timedOut)
      (accepts : status.accepts reason = true)
      (completed : ∀ l, ψ l → reason = .taskCompleted → Completed l.trace) :
      Triple (At rt (.resting 0) (Ready rt 7 ψ))
        (terminalAudit rt context outcome reason >>= fun _ =>
          (pure (status, reason, none) : Action Ending)) (Closed rt) (Failing rt) :=
    triple_weaken (conclude_at (ready_stable steady) context outcome status reason begun timely
      accepts fun l ready => completed l ready.2.2) (fun _ held => held) (fun _ _ held => held)
      fun _ _ held => lapsed_failing held
  unfold finish
  apply budget_triple exhausted
  apply triple_look
  intro s
  apply triple_bind (triple_weaken (recoverable_at steady .report context _ .report none)
    (fun _ held => held.2) (fun _ _ held => held) fun _ _ held => held)
  intro reported
  cases reported with
  | none =>
      apply triple_bind (countFailure_recover steady)
      intro _
      exact ended .failed .failed .invalidLlmOutput (by decide) (by decide) (by decide)
        fun _ _ other => nomatch other
  | some report =>
      apply triple_weaken (budget_triple exhausted
        (ended .succeeded status reason_ (by decide) (by decide) accepts completed))
        (fun _ held => at_weaken held fun fact => ⟨fact.1, fact.2.1⟩) (fun _ _ held => held)
        fun _ _ held => held

end Finish

def Turn (i : Nat) (l : Ledger) : Prop := l.counters.iterations = i ∧ l.counters.toolCalls < i

def Spent (i : Nat) (l : Ledger) : Prop := l.counters.iterations = i ∧ l.counters.toolCalls ≤ i

theorem steady_turn (i : Nat) : Steady (Turn i) := by
  rintro l m grows ⟨iterations, toolCalls⟩
  exact ⟨grows.iterations.trans iterations, grows.toolCalls ▸ toolCalls⟩

theorem steady_spent (i : Nat) : Steady (Spent i) := by
  rintro l m grows ⟨iterations, toolCalls⟩
  exact ⟨grows.iterations.trans iterations, grows.toolCalls ▸ toolCalls⟩

theorem turn_spent {i : Nat} {l : Ledger} (turn : Turn i l) : Spent i l :=
  ⟨turn.1, Nat.le_of_lt turn.2⟩

def Continues {α : Type} (rt : AgentRuntime) (χ : α → World → Prop) : Ending ⊕ α → World → Prop
  | .inl ending => Closed rt ending
  | .inr a => χ a

section Iteration

variable {rt : AgentRuntime} {ψ : Ledger → Prop} {k : Nat} {α : Type} {post : α → World → Prop}
  {fails : Exn → World → Prop}

theorem ending_triple {pre : World → Prop} {χ : α → World → Prop} {body : Action Ending}
    (triple : Triple pre body (Closed rt) fails) :
    Triple pre (.inl <$> body) (Continues rt χ) fails := triple_map triple

theorem failuresReached_triple {pre : World → Prop} {yes no : Action α}
    (reached : Triple pre yes post fails) (spare : Triple pre no post fails) :
    Triple pre (failuresReached rt >>= fun b => if b = true then yes else no) post fails := by
  intro w held
  have checked : (failuresReached rt >>= fun b => if b = true then yes else no) w =
      (if decide (rt.limits.maxFailures ≤ w.run.counters.failures) = true then yes else no) w := rfl
  rw [checked]
  exact triple_ite (fun _ => reached) (fun _ => spare) w held

theorem append_at (steady : Steady ψ) (iteration : Nat) (bounds : 1 ≤ iteration ∧ iteration ≤ 100)
    (step : RuntimeStep) (action : Option RuntimeAction) (toolName : Option Identifier)
    (errorCode : Option ToolErrorCode) :
    Triple (At rt (.resting 0) (Ready rt k ψ))
      (append (buildEntry iteration step action toolName errorCode))
      (fun _ => At rt (.resting 0) (Ready rt k ψ)) fails := by
  intro w standing
  unfold append buildEntry
  rw [dif_pos bounds, resume_ok_run]
  generalize RuntimeHistoryEntry.mk _ _ _ _ _ _ _ = entry
  have reached := Reached.move standing.reached (.append w.ledger 0 entry)
  have grows := grows_appended w.ledger rt.limits.maxHistoryEntries entry
  have before := before_log standing.fact.2.1
    (.appended entry ((w.ledger.history ++ [entry]).rtake rt.limits.maxHistoryEntries)) rfl
  have ready : Ready rt k ψ (w.ledger.appended rt.limits.maxHistoryEntries entry) :=
    ⟨spare_grows grows rfl standing.fact.1, before, steady _ _ grows standing.fact.2.2⟩
  have retained : ((w.withRun fun run => run.append entry).log
      (.appended entry (w.run.append entry).history)).ledger =
      w.ledger.appended rt.limits.maxHistoryEntries entry := by
    rw [← standing.sane.retained]
    rfl
  rw [← retained] at reached ready
  exact ⟨reached, ready, standing.sane.started, standing.sane.steps, standing.sane.retained⟩

theorem understand_at (steady : Steady ψ) (task : RuntimeTask) (context : ToolExecutionContext) :
    Triple (At rt (.resting 0) (Ready rt 0 ψ)) (understand rt task context)
      (Continues rt fun decision => At rt (.resting 0)
        (Ready rt 3 fun l => ψ l ∧ Answered .decide (.decision decision) l)) (Broken rt 3 ψ) := by
  have exhausted {χ : RuntimeDecision → World → Prop} {k : Nat} (le : k ≤ 3) :
      Triple (At rt (.resting 0) (Settled k ψ)) (.inl <$> tokenTerminal rt context)
        (Continues rt χ) (Broken rt 3 ψ) :=
    ending_triple (triple_weaken (tokenTerminal_at (settled_stable steady) context)
      (fun _ held => held) (fun _ _ held => held)
      fun _ _ held => broken_mono le (lapsed_broken held))
  unfold understand
  apply triple_look
  intro s
  apply triple_bind (triple_weaken (reason_at steady .observe context _ .observation none)
    (fun _ held => held.2) (fun _ _ held => held) fun _ _ held => broken_mono (by decide) held)
  intro observation
  apply triple_weaken (budget_triple (exhausted (by decide)) ?_)
    (fun _ held => at_weaken held fun fact => ⟨fact.1, fact.2.1⟩) (fun _ _ held => held)
    fun _ _ held => held
  apply triple_look
  intro s
  apply triple_bind (triple_weaken (reason_at steady .plan context _ .plan none)
    (fun _ held => held.2) (fun _ _ held => held) fun _ _ held => broken_mono (by decide) held)
  intro plan
  apply triple_weaken (budget_triple (exhausted (by decide)) ?_)
    (fun _ held => at_weaken held fun fact => ⟨fact.1, fact.2.1⟩) (fun _ _ held => held)
    fun _ _ held => held
  apply triple_look
  intro s
  apply triple_bind (triple_weaken (reason_at steady .decide context _ .decision none)
    (fun _ held => held.2) (fun _ _ held => held) fun _ _ held => held)
  intro decision
  apply budget_triple
  · exact triple_weaken (exhausted (by decide))
      (fun _ held => at_weaken held fun fact => ⟨fact.1, fact.2.1⟩) (fun _ _ held => held)
      fun _ _ held => held
  · exact triple_give _ fun _ held => held

end Iteration

section Act

variable {rt : AgentRuntime} {ψ : Ledger → Prop} {i : Nat}

def Charged (rt : AgentRuntime) (i : Nat) (w : World) : Prop :=
  ∃ v, At rt (.opened .act 0) (Ready rt 4 (Turn i)) v ∧
    v.run.counters.toolCalls < rt.limits.maxToolCalls ∧
    w = v.count fun c => { c with toolCalls := c.toolCalls + 1 }

theorem callTool_at (decision : RuntimeDecision) (context : ToolExecutionContext) :
    Triple (Charged rt i) (callTool rt decision context)
      (fun result w => ∃ l, Hanging rt (.asked .act) (Ready rt 4 (Spent i)) l
        (.toolReturned result) w)
      (fun e w => ∃ l, Hanging rt (.asked .act) (Ready rt 4 (Spent i)) l (.toolRaised e) w) := by
  rintro w ⟨v, standing, allowed, rfl⟩
  have turn := standing.fact.2.2
  unfold callTool
  rw [update_run, look_run]
  have first : v.ledger.counters.toolCalls < v.ledger.counters.iterations := by
    rw [turn.1]
    exact turn.2
  have reached : Reached rt.limits (.asked .act)
      (v.ledger.called (requestedTool decision) decision.arguments) :=
    .move standing.reached (.call _ _ _ standing.fact.1 allowed first)
  have logged := ready_log (steady_turn i) v.ledger
    (.toolCalled (requestedTool decision) decision.arguments) rfl standing.fact
  have ready : Ready rt 4 (Spent i)
      (v.ledger.called (requestedTool decision) decision.arguments) :=
    ⟨logged.1, logged.2.1, turn.1, turn.2⟩
  have sane := sane_log (sane_count standing.sane fun c => { c with toolCalls := c.toolCalls + 1 })
  cases rt.env.execute _ (requestedTool decision) decision.arguments context with
  | ok result => exact ⟨_, reached, ready, rfl, sane_log (sane _) _⟩
  | error e => exact ⟨_, reached, ready, rfl, sane_log (sane _) _⟩

theorem observe_at {α : Type} {post : α → World → Prop} (steady : Steady ψ) (debt : Nat)
    (outcome : RuntimeAuditOutcome) (ended : outcome ≠ .started) (timely : outcome ≠ .timedOut)
    (context : ToolExecutionContext) (decision : RuntimeDecision)
    (errorCode : Option ToolErrorCode) (rest : Action α)
    (goesOn : Triple (At rt (.resting debt) (Ready rt 5 ψ)) rest post (Failing rt)) :
    Triple (At rt (.replied .act debt) (Ready rt 4 ψ))
      (do
        auditStep rt context .act outcome (some decision) errorCode
        auditStep rt context .observeResult .started (some decision)
        auditStep rt context .observeResult outcome (some decision) errorCode
        rest) post (Failing rt) := by
  have closes : Recording rt.limits (Ready rt 4 ψ) (Ready rt 4 ψ) (.replied .act debt)
      (.resting debt) .thrown .act outcome none :=
    recording_stable (ready_stable steady) rfl ended timely
      fun l record _ describes => .close l debt record .act outcome describes ended
  have observes : Recording rt.limits (Ready rt 5 ψ) (Ready rt 5 ψ) (.opened .observeResult debt)
      (.resting debt) .thrown .observeResult outcome none :=
    recording_stable (ready_stable steady) rfl ended timely
      fun l record _ describes => .observed l debt record outcome describes ended
  have audited {φ χ : Ledger → Prop} {p q : Point} {step : RuntimeStep}
      {outcome : RuntimeAuditOutcome}
      (moves : Recording rt.limits φ χ p q .thrown step outcome none)
      (code : Option ToolErrorCode) : Triple (At rt p φ)
        (auditStep rt context step outcome (some decision) code)
        (fun _ => At rt q χ) (Failing rt) :=
    triple_weaken (auditStep_at moves context (some decision) code)
      (fun _ held => held) (fun _ _ held => held) fun _ _ held => lapsed_failing held
  apply triple_bind (audited closes errorCode)
  intro _
  apply triple_bind (audited (opening steady debt .observeResult) none)
  intro _
  apply triple_bind (audited observes errorCode)
  intro _
  exact goesOn

theorem toolOutcome_ended (status : ToolResultStatus) :
    toolOutcome status ≠ .started ∧ toolOutcome status ≠ .timedOut := by
  cases status <;> exact ⟨by decide, by decide⟩

theorem act_at (context : ToolExecutionContext) (decision : RuntimeDecision) :
    Triple
      (At rt (.resting 0) (Ready rt 3 fun l =>
        Turn i l ∧ l.counters.toolCalls < rt.limits.maxToolCalls))
      (act rt context decision)
      (Continues rt fun result => At rt (.resting (debtOf result)) (Ready rt 5 (Spent i)))
      (Failing rt) := by
  have steady : Steady fun l => Turn i l ∧ l.counters.toolCalls < rt.limits.maxToolCalls := by
    apply steady_and (steady_turn i)
    intro l m grows allowed
    exact grows.toolCalls ▸ allowed
  unfold act
  apply triple_bind (triple_weaken (auditStep_at (opening steady 0 .act) context (some decision)
    none) (fun _ held => held) (fun _ _ held => held) fun _ _ held => lapsed_failing held)
  intro _
  have charged {γ : Type} {rest : Action γ} {post : γ → World → Prop}
      (triple : Triple (Charged rt i) rest post (Failing rt)) :
      Triple (At rt (.opened .act 0) (Ready rt 4 fun l =>
          Turn i l ∧ l.counters.toolCalls < rt.limits.maxToolCalls))
        (update (fun w => w.count fun c => { c with toolCalls := c.toolCalls + 1 }) >>=
          fun _ => rest) post (Failing rt) := by
    intro w standing
    rw [update_run]
    apply triple
    exact ⟨w, at_weaken standing fun ready => ready_implies And.left ready,
      standing.fact.2.2.2, rfl⟩
  apply charged
  apply triple_bind (triple_attempt (callTool_at decision context))
  intro outcome
  split
  · have failure : Triple (At rt (.resting 0) (Ready rt 5 (Spent i)))
        (terminalFailure rt context .auditFailed) (Closed rt) (Failing rt) :=
      triple_weaken (conclude_at (ready_stable (steady_spent i)) context .failed .failed
        .auditFailed (by decide) (by decide) (by decide) fun _ _ other => nomatch other)
        (fun _ held => held) (fun _ _ held => held) fun _ _ held => lapsed_failing held
    apply triple_weaken (observe_at (steady_spent i) 0 .failed (by decide) (by decide) context
      decision (some .auditFailed) _ (ending_triple failure)) _ (fun _ _ held => held)
      fun _ _ held => held
    rintro w ⟨l, hanging⟩
    exact hanging_at hanging (.unaudited l) (ready_log (steady_spent i) l _ rfl hanging.fact)
  · next e foreign =>
      apply triple_raise
      rintro w ⟨l, hanging⟩
      have different : e ≠ .toolAudit := by
        rintro rfl
        exact foreign rfl
      apply hanging_at hanging (.interrupt l e different)
      intro _
      exact .inr (List.mem_append_right _ (List.mem_singleton_self _))
  · next result =>
      have outcome := toolOutcome_ended result.status
      have goesOn : Triple (At rt (.resting (debtOf result)) (Ready rt 5 (Spent i)))
          (pure (.inr result) : Action (Ending ⊕ ToolResult))
          (Continues rt fun result => At rt (.resting (debtOf result)) (Ready rt 5 (Spent i)))
          (Failing rt) := triple_give _ fun _ held => held
      apply triple_weaken (observe_at (steady_spent i) (debtOf result) (toolOutcome result.status)
        outcome.1 outcome.2 context decision result.errorCode _ goesOn) _ (fun _ _ held => held)
        fun _ _ held => held
      rintro w ⟨l, hanging⟩
      exact hanging_at hanging (.obtain_ l result) (ready_log (steady_spent i) l _ rfl hanging.fact)

end Act

section Loop

variable {rt : AgentRuntime} {ψ : Ledger → Prop} {k : Nat}

theorem finish_ready (steady : Steady ψ) (early : k ≤ 6) (task : RuntimeTask)
    (context : ToolExecutionContext) (status : RuntimeTerminalStatus)
    (reason_ : RuntimeTerminalReason) (accepts : status.accepts reason_ = true)
    (completed : ∀ l, ψ l → reason_ = .taskCompleted → Completed l.trace) :
    Triple (At rt (.resting 0) (Ready rt k ψ)) (finish rt task context status reason_) (Closed rt)
      (Failing rt) :=
  triple_weaken (finish_at steady task context status reason_ accepts completed)
    (fun _ held => at_weaken held fun ready => settled_mono early ready.2) (fun _ _ held => held)
    fun _ _ held => held

def Weighed (rt : AgentRuntime) (χ : World → Prop) : Option Ending → World → Prop
  | some ending => Closed rt ending
  | none => χ

theorem weighed_triple {pre χ : World → Prop} {fails : Exn → World → Prop} {body : Action Ending}
    (triple : Triple pre body (Closed rt) fails) :
    Triple pre (some <$> body) (Weighed rt χ) fails := triple_map triple

theorem weigh_at (steady : Steady ψ) (task : RuntimeTask) (context : ToolExecutionContext)
    (result : ToolResult) :
    Triple (At rt (.resting (debtOf result)) (Ready rt 5 ψ)) (weigh rt task context result)
      (Weighed rt (At rt (.resting 0) (Ready rt 5 ψ))) (Failing rt) := by
  unfold weigh
  by_cases succeeded : result.status = .succeeded
  · have paid : debtOf result = 0 := if_pos (.inl succeeded)
    rw [if_pos succeeded, paid]
    exact triple_give _ fun _ held => held
  · rw [if_neg succeeded]
    by_cases human : needsHuman result.errorCode = true
    · have paid : debtOf result = 0 := if_pos (.inr human)
      rw [if_pos human, paid]
      apply weighed_triple
      apply finish_ready steady (by decide)
      · split <;> decide
      · intro l _ completed
        split at completed <;> cases completed
    · have owed : debtOf result = 1 := if_neg (by simp [succeeded, human])
      rw [if_neg human, owed]
      apply triple_bind (countFailure_pay steady)
      intro _
      apply failuresReached_triple
      · exact weighed_triple (finish_ready steady (by decide) task context .failed
          .maxFailuresReached (by decide) fun _ _ other => nomatch other)
      · exact triple_give _ fun _ held => held

theorem tolerate_at (steady : Steady ψ) (early : k ≤ 6) (task : RuntimeTask)
    (context : ToolExecutionContext) (detector : StagnationDetector) :
    Triple (At rt (.resting 0) (Ready rt k ψ))
      (failuresReached rt >>= fun b => if b = true
        then .inl <$> finish rt task context .failed .maxFailuresReached
        else pure (.inr detector))
      (Continues rt fun _ => At rt (.resting 0) (Ready rt 6 ψ)) (Failing rt) := by
  apply failuresReached_triple
  · exact ending_triple (finish_ready steady early task context .failed .maxFailuresReached
      (by decide) fun _ _ other => nomatch other)
  · exact triple_give _ fun _ held => at_weaken held (ready_mono early)

theorem verify_at (steady : Steady ψ) (task : RuntimeTask) (context : ToolExecutionContext)
    (detector : StagnationDetector) (iteration : Nat) (bounds : 1 ≤ iteration ∧ iteration ≤ 100)
    (decision : RuntimeDecision) (result : ToolResult) :
    Triple (At rt (.resting 0) (Ready rt 5 ψ))
      (verify rt task context detector iteration decision result)
      (Continues rt fun _ => At rt (.resting 0) (Ready rt 6 ψ)) (Failing rt) := by
  unfold verify
  apply triple_look
  intro s
  apply triple_bind (triple_weaken (recoverable_at steady .verify context _ .verification
    (some decision)) (fun _ held => held.2) (fun _ _ held => held) fun _ _ held => held)
  intro verified
  cases verified with
  | none =>
      apply triple_bind (countFailure_recover steady)
      intro _
      exact tolerate_at steady (by decide) task context detector
  | some verification =>
      have answered := steady_and steady (steady_answered .verify (.verification verification))
      apply budget_triple
      · exact ending_triple (triple_weaken (tokenTerminal_at (settled_stable answered) context)
          (fun _ held => held) (fun _ _ held => held) fun _ _ held => lapsed_failing held)
      · apply triple_bind (append_at answered iteration bounds .verify _ _ _)
        intro _
        split
        · next complete =>
            apply ending_triple (finish_ready answered (by decide) task context .completed
              .taskCompleted (by decide) _)
            rintro l ⟨_, output, member, value⟩ _
            exact .inr ⟨output, verification, member, value, complete⟩
        · exact ending_triple (finish_ready answered (by decide) task context .escalated
            .agentEscalated (by decide) fun _ _ other => nomatch other)
        · apply triple_ite
          · intro _
            exact ending_triple (finish_ready answered (by decide) task context .escalated
              .stagnationDetected (by decide) fun _ _ other => nomatch other)
          · intro _
            exact triple_give _ fun _ held => at_weaken held (ready_implies And.left)

theorem pursue_at {i : Nat} (task : RuntimeTask) (context : ToolExecutionContext)
    (detector : StagnationDetector) (bounds : 1 ≤ i ∧ i ≤ 100) (decision : RuntimeDecision) :
    Triple
      (At rt (.resting 0)
        (Ready rt 3 fun l => Turn i l ∧ Answered .decide (.decision decision) l))
      (pursue rt task context detector i decision)
      (Continues rt fun _ => At rt (.resting 0) (Ready rt 6 (Spent i))) (Failing rt) := by
  have steady := steady_and (steady_turn i) (steady_answered .decide (.decision decision))
  unfold pursue
  apply triple_bind (append_at steady i bounds .decide _ _ _)
  intro _
  split
  · next complete =>
      apply ending_triple (finish_ready steady (by decide) task context .completed .taskCompleted
        (by decide) _)
      rintro l ⟨_, output, member, value⟩ _
      exact .inl ⟨output, decision, member, value, complete⟩
  · exact ending_triple (finish_ready steady (by decide) task context .escalated .agentEscalated
      (by decide) fun _ _ other => nomatch other)
  · apply triple_look
    intro s
    apply triple_ite
    · intro _
      exact ending_triple (triple_weaken (conclude_at (ready_stable steady) context .limitReached
        .limitReached .maxToolCallsReached (by decide) (by decide) (by decide)
        fun _ _ other => nomatch other) (fun _ held => held.2) (fun _ _ held => held)
        fun _ _ held => lapsed_failing held)
    · intro room
      apply triple_bind (triple_weaken (act_at context decision) _ (fun _ _ held => held)
        fun _ _ held => held)
      · intro acted
        cases acted with
        | inl ending => exact triple_give _ fun _ held => held
        | inr result =>
            apply triple_bind (weigh_at (steady_spent i) task context result)
            intro weighed
            cases weighed with
            | some ending => exact triple_give _ fun _ held => held
            | none =>
                exact verify_at (steady_spent i) task context detector i bounds decision result
      · rintro w ⟨rfl, held⟩
        exact at_weaken held (ready_implies fun fact => ⟨fact.1, Nat.lt_of_not_le room⟩)

theorem iterate_at {i : Nat} (task : RuntimeTask) (context : ToolExecutionContext)
    (detector : StagnationDetector) (left_ : i < rt.limits.maxIterations) :
    Triple (At rt (.resting 0) (Ready rt 6 (Spent i))) (iterate rt task context detector (i + 1))
      (Continues rt fun _ => At rt (.resting 0) (Ready rt 6 (Spent (i + 1)))) (Failing rt) := by
  have bounds : 1 ≤ i + 1 ∧ i + 1 ≤ 100 := by
    have most := rt.limits.iteration_bounds.2
    omega
  intro w standing
  unfold iterate
  rw [update_run]
  refine triple_bind (recoverable_triple (understand_at (steady_turn (i + 1)) task context)
    fun _ _ special broken => broken_failing special broken) ?_ _ ?_
  · intro understood
    rcases understood with _ | ending | decision
    · apply triple_bind (countFailure_recover (steady_turn (i + 1)))
      intro _
      apply triple_bind (append_at (steady_turn (i + 1)) (i + 1) bounds .decide _ _ _)
      intro _
      exact triple_weaken (tolerate_at (steady_spent (i + 1)) (by decide) task context detector)
        (fun _ held => at_weaken held (ready_implies turn_spent)) (fun _ _ held => held)
        fun _ _ held => held
    · exact triple_give _ fun _ held => held
    · exact pursue_at task context detector bounds decision
  have spent := standing.fact.2.2
  have begun : (w.count fun c => { c with iterations := i + 1 }).ledger = w.ledger.begun := by
    show (⟨{ w.ledger.counters with iterations := i + 1 }, w.ledger.history, w.ledger.trace⟩ :
      Ledger) = w.ledger.begun
    rw [← spent.1]
    rfl
  have taken : Reached rt.limits (.resting 0) w.ledger.begun :=
    .move standing.reached (.begin_ _ (spent.1 ▸ left_))
  have ready : Ready rt 0 (Turn (i + 1)) w.ledger.begun :=
    ⟨standing.fact.1, before_begun standing.reached, congrArg (· + 1) spent.1,
      Nat.lt_succ_of_le spent.2⟩
  rw [← begun] at taken ready
  exact ⟨taken, ready, sane_count standing.sane _⟩

theorem iterations_at {i : Nat} (task : RuntimeTask) (context : ToolExecutionContext)
    (remaining : Nat) (detector : StagnationDetector)
    (counted : i + remaining = rt.limits.maxIterations) :
    Triple (At rt (.resting 0) (Ready rt 6 (Spent i)))
      (iterations rt task context remaining detector (i + 1)) (Closed rt) (Failing rt) := by
  induction remaining generalizing i detector with
  | zero =>
      exact triple_weaken (conclude_at (ready_stable (steady_spent i)) context .limitReached
        .limitReached .maxIterationsReached (by decide) (by decide) (by decide)
        fun _ _ other => nomatch other) (fun _ held => held) (fun _ _ held => held)
        fun _ _ held => lapsed_failing held
  | succ remaining ih =>
      unfold iterations
      apply triple_bind (iterate_at task context detector (by omega))
      intro stepped
      cases stepped with
      | inl ending => exact triple_give _ fun _ held => held
      | inr detector => exact ih detector (by omega)

theorem execute_at (task : RuntimeTask) (context : ToolExecutionContext) :
    Triple (At rt (.resting 0) (Ready rt 6 (Spent 0))) (execute rt task context) (Closed rt)
      (Failing rt) :=
  iterations_at task context rt.limits.maxIterations _ (Nat.zero_add _)

end Loop

end SynapseOS.Runtime
