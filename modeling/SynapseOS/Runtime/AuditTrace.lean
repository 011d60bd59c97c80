import SynapseOS.Lib.Trace
import SynapseOS.Runtime.Accounting

/-! The records of a run whose recorder never fails and which nothing interrupts. -/

namespace SynapseOS.Runtime

open Tools

/-- The recorder accepts, the reasoner answers or raises a `RuntimeError`, and the tool executor
answers or raises `ToolAuditError`. -/
def Event.orderly : Event → Bool
  | .recorded _ raised => raised.isNone
  | .cancellation _ _ => false
  | .refused _ (.runtime _) => true
  | .refused _ _ => false
  | .toolRaised .toolAudit => true
  | .toolRaised _ => false
  | .asked _ | .answered _ _ | .toolCalled _ _ | .toolReturned _ | .appended _ _ => true

def Orderly (trace : Trace) : Prop := ∀ event ∈ trace, event.orderly = true

instance (trace : Trace) : Decidable (Orderly trace) :=
  inferInstanceAs (Decidable (∀ event ∈ trace, _))

def Denounced (trace : Trace) : Prop := ∃ step, .refused step (.runtime .auditFailed) ∈ trace

def RuntimeAuditRecord.Opens (record : RuntimeAuditRecord) : Prop := record.outcome = .started

structure RuntimeAuditRecord.Closes (opening closing : RuntimeAuditRecord) : Prop where
  ended : closing.outcome ≠ .started
  step : closing.step = opening.step
  iteration : closing.counters.iterations = opening.counters.iterations
  ordinary : closing.reason = none

def Silent (records : List RuntimeAuditRecord) : Prop := ∀ record ∈ records, record.reason = none

/-- Each STARTED record is followed at once by its outcome record, which is the only one. -/
def Matched (records : List RuntimeAuditRecord) : Prop :=
  Bracketed RuntimeAuditRecord.Opens RuntimeAuditRecord.Closes records

def Concludes (records : List RuntimeAuditRecord) (reason : RuntimeTerminalReason) : Prop :=
  ∃ body last, records = body ++ [last] ∧ last.reason = some reason ∧ Silent body

structure Started (step : RuntimeStep) (l : Ledger) (body : List RuntimeAuditRecord)
    (opening : RuntimeAuditRecord) : Prop where
  records : recordsOf l.trace = body ++ [opening]
  opens : opening.Opens
  phase : opening.step = step
  iteration : opening.counters.iterations = l.counters.iterations
  fresh : ∀ record ∈ body, record.Opens → record.counters.iterations = l.counters.iterations →
    record.step ≠ step
  bracketed : Matched body
  silent : Silent body
  ordinary : opening.reason = none

def Tidy (p : Point) (l : Ledger) : Prop :=
  match p with
  | .resting _ | .thrown (.runtime _) => Matched (recordsOf l.trace) ∧ Silent (recordsOf l.trace)
  | .opened step _ | .asked step | .replied step _ | .refused step _ =>
      ∃ body opening, Started step l body opening
  | .closed _ reason => Matched (recordsOf l.trace) ∧ Concludes (recordsOf l.trace) reason
  | .thrown .validation => True
  | .thrown _ | .overdue | .escaped _ => False

def Blamed (p : Point) (l : Ledger) : Prop :=
  match p with
  | .refused _ .auditFailed | .thrown (.runtime .auditFailed) => Denounced l.trace
  | .thrown .validation => True
  | .resting _ | .opened _ _ | .asked _ | .replied _ _ | .refused _ _ | .thrown _ | .overdue
  | .closed _ _ | .escaped _ => ¬ Denounced l.trace

section Records

variable {l m : Ledger} {step : RuntimeStep} {body : List RuntimeAuditRecord}
  {record opening : RuntimeAuditRecord}

theorem records_noted (l : Ledger) (record : RuntimeAuditRecord) (raised : Option Exn) :
    recordsOf (l.noted record raised).trace = recordsOf l.trace ++ [record] := by
  rw [Ledger.noted, Ledger.log, recordsOf_concat]
  rfl

theorem records_log (l : Ledger) (event : Event) (silent : event.record? = none) :
    recordsOf (l.log event).trace = recordsOf l.trace := by
  rw [Ledger.log, recordsOf_concat, silent, Option.toList_none, List.append_nil]

theorem silent_concat (silent : Silent body) (ordinary : record.reason = none) :
    Silent (body ++ [record]) := by
  intro other member
  rcases List.mem_append.mp member with earlier | last
  · exact silent other earlier
  · rw [List.mem_singleton.mp last]
    exact ordinary

theorem started_same (started : Started step l body opening)
    (records : recordsOf m.trace = recordsOf l.trace)
    (iterations : m.counters.iterations = l.counters.iterations) :
    Started step m body opening := by
  refine ⟨records.trans started.records, started.opens, started.phase,
    started.iteration.trans iterations.symm, ?_, started.bracketed, started.silent,
    started.ordinary⟩
  intro record member opens current
  exact started.fresh record member opens (current.trans iterations)

theorem started_close (started : Started step l body opening) {outcome : RuntimeAuditOutcome}
    (describes : Describes record l step outcome none) (ended : outcome ≠ .started) :
    Matched (recordsOf l.trace ++ [record]) ∧ Silent (recordsOf l.trace ++ [record]) := by
  have iteration : record.counters.iterations = opening.counters.iterations := by
    rw [describes.counters, started.iteration]
  have finished : record.outcome ≠ .started := by
    rw [describes.outcome]
    exact ended
  rw [started.records]
  constructor
  · apply bracketed_pair started.bracketed
    · exact ⟨finished, describes.step.trans started.phase.symm, iteration, describes.reason⟩
    · exact finished
    · intro other _ _ closes
      exact closes.ended started.opens
    · intro other member opens closes
      have current : other.counters.iterations = l.counters.iterations := by
        rw [← closes.iteration, iteration, started.iteration]
      exact started.fresh other member opens current (closes.step.symm.trans describes.step)
  · exact silent_concat (silent_concat started.silent started.ordinary) describes.reason

theorem matched_terminal {outcome : RuntimeAuditOutcome} {reason : RuntimeTerminalReason}
    (matched : Matched (recordsOf l.trace))
    (describes : Describes record l .report outcome (some reason)) (ended : outcome ≠ .started) :
    Matched (recordsOf l.trace ++ [record]) := by
  apply bracketed_plain matched
  · intro opens
    exact ended (describes.outcome.symm.trans opens)
  · intro other _ _ closes
    exact nomatch describes.reason.symm.trans closes.ordinary

end Records

section Moves

variable {limits : RuntimeLimits} {p q : Point} {l m : Ledger}

theorem orderly_log {event : Event} (orderly : Orderly (l.log event).trace) :
    event.orderly = true :=
  orderly event (List.mem_append_right _ (List.mem_singleton_self _))

theorem tidy_move (tidy : Tidy p l) (orderly : Orderly m.trace) (taken : Move limits p l q m) :
    Tidy q m := by
  cases taken with
  | begin_ | recover | pay => exact tidy
  | append _ _ entry =>
      have same : recordsOf (l.appended limits.maxHistoryEntries entry).trace =
          recordsOf l.trace := records_log l (.appended entry _) rfl
      unfold Tidy
      rw [same]
      exact tidy
  | open_ _ debt record step describes startable =>
      refine ⟨recordsOf l.trace, record, records_noted l record none, describes.outcome,
        describes.step, congrArg Counters.iterations describes.counters, ?_, tidy.1, tidy.2,
        describes.reason⟩
      intro other member opens current same
      have below := startable.2 other member opens current
      rw [same] at below
      exact Nat.lt_irrefl _ below
  | ask | refuse | obtain_ | unaudited =>
      obtain ⟨body, opening, started⟩ := tidy
      exact ⟨body, opening, started_same started (records_log l _ rfl) rfl⟩
  | call _ name arguments =>
      obtain ⟨body, opening, started⟩ := tidy
      exact ⟨body, opening,
        started_same started (records_log l (.toolCalled name arguments) rfl) rfl⟩
  | answer _ step output =>
      obtain ⟨body, opening, started⟩ := tidy
      exact ⟨body, opening,
        started_same started (records_log l (.answered step output) rfl) rfl⟩
  | close _ _ record _ _ describes ended =>
      obtain ⟨body, opening, started⟩ := tidy
      have closed := started_close started describes ended
      rw [← records_noted l record none] at closed
      exact closed
  | observed _ _ record _ describes ended =>
      obtain ⟨body, opening, started⟩ := tidy
      have closed := started_close started describes ended
      rw [← records_noted l record none] at closed
      exact closed
  | rethrow _ record _ _ describes =>
      obtain ⟨body, opening, started⟩ := tidy
      have closed := started_close started describes (by decide)
      rw [← records_noted l record none] at closed
      exact closed
  | terminate _ record _ _ _ describes ended =>
      have noted := records_noted l record none
      refine ⟨?_, recordsOf l.trace, record, noted, describes.reason, tidy.2⟩
      rw [noted]
      exact matched_terminal tidy.1 describes ended
  | drop _ _ e foreign =>
      have allowed := orderly_log orderly
      cases e with
      | runtime code => exact absurd rfl (foreign code)
      | toolAudit | tool | timeout | expired | cancelled | validation | other => cases allowed
  | interrupt _ e foreign =>
      have allowed := orderly_log orderly
      cases e with
      | toolAudit => exact absurd rfl foreign
      | runtime | tool | timeout | expired | cancelled | validation | other => cases allowed
  | reject => exact nomatch orderly_log orderly
  | invalid => trivial
  | expire _ _ late =>
      rcases late with rfl | rfl
      · exact tidy.elim
      · exact tidy.elim
  | timeOut | timeOutRejected | timeOutInvalid | withdraw => exact tidy.elim

theorem denounced_log {event : Event}
    (other : ∀ step, event ≠ .refused step (.runtime .auditFailed)) :
    Denounced (l.log event).trace ↔ Denounced l.trace := by
  constructor
  · rintro ⟨step, member⟩
    rcases List.mem_append.mp member with earlier | last
    · exact ⟨step, earlier⟩
    · exact absurd (List.mem_singleton.mp last).symm (other step)
  · rintro ⟨step, member⟩
    exact ⟨step, List.mem_append_left _ member⟩

theorem blameless_log (event : Event) (blameless : ¬ Denounced l.trace)
    (other : ∀ step, event ≠ .refused step (.runtime .auditFailed)) :
    ¬ Denounced (l.log event).trace :=
  fun denounced => blameless ((denounced_log other).mp denounced)

theorem blamed_move (blamed : Blamed p l) (tidy : Tidy p l) (orderly : Orderly m.trace)
    (taken : Move limits p l q m) : Blamed q m := by
  cases taken with
  | begin_ | pay => exact blamed
  | recover _ code ordinary =>
      cases code with
      | auditFailed => exact absurd rfl ordinary
      | invalidRequest | llmFailed | llmOutputInvalid | toolFailed | budgetExceeded => exact blamed
  | append _ _ entry =>
      exact blameless_log (.appended entry _) blamed (fun _ same => nomatch same)
  | open_ | ask | obtain_ | unaudited | close | observed | terminate =>
      exact blameless_log _ blamed (fun _ same => nomatch same)
  | call _ name arguments =>
      exact blameless_log (.toolCalled name arguments) blamed (fun _ same => nomatch same)
  | answer _ step output =>
      exact blameless_log (.answered step output) blamed (fun _ same => nomatch same)
  | refuse _ step code =>
      cases code with
      | auditFailed => exact ⟨step, List.mem_append_right _ (List.mem_singleton_self _)⟩
      | invalidRequest | llmFailed | llmOutputInvalid | toolFailed | budgetExceeded =>
          exact blameless_log _ blamed (fun _ same => nomatch same)
  | rethrow _ record _ code =>
      cases code with
      | auditFailed =>
          have silent :
              ∀ step, Event.recorded record none ≠ .refused step (.runtime .auditFailed) :=
            fun _ same => nomatch same
          exact (denounced_log silent).mpr blamed
      | invalidRequest | llmFailed | llmOutputInvalid | toolFailed | budgetExceeded =>
          exact blameless_log _ blamed (fun _ same => nomatch same)
  | drop _ _ e foreign =>
      have allowed := orderly_log orderly
      cases e with
      | runtime code => exact absurd rfl (foreign code)
      | toolAudit | tool | timeout | expired | cancelled | validation | other => cases allowed
  | interrupt _ e foreign =>
      have allowed := orderly_log orderly
      cases e with
      | toolAudit => exact absurd rfl foreign
      | runtime | tool | timeout | expired | cancelled | validation | other => cases allowed
  | reject => exact nomatch orderly_log orderly
  | invalid => trivial
  | expire _ _ late =>
      rcases late with rfl | rfl
      · exact tidy.elim
      · exact tidy.elim
  | timeOut | timeOutRejected | timeOutInvalid | withdraw => exact tidy.elim

theorem reached_tidy (reached : Reached limits p l) (orderly : Orderly l.trace) :
    Tidy p l ∧ Blamed p l := by
  apply reached_filtered (fun event => event.orderly = true) (fun p l => Tidy p l ∧ Blamed p l)
    _ _ reached orderly
  · exact ⟨⟨bracketed_nil, fun _ member => nomatch member⟩, fun ⟨_, member⟩ => nomatch member⟩
  · exact fun _ _ _ _ _ held now taken =>
      ⟨tidy_move held.1 now taken, blamed_move held.2 held.1 now taken⟩

theorem orderly_conforming {trace : Trace} (orderly : Orderly trace) : Conforming trace := by
  intro event member
  have allowed := orderly event member
  cases event with
  | recorded record raised => exact allowed
  | cancellation => cases allowed
  | refused step e =>
      cases e with
      | runtime => rfl
      | toolAudit | tool | timeout | expired | cancelled | validation | other => cases allowed
  | toolRaised e =>
      cases e with
      | toolAudit => rfl
      | runtime | tool | timeout | expired | cancelled | validation | other => cases allowed
  | asked | answered | toolCalled | toolReturned | appended => rfl

end Moves

/-- What the records of an orderly run say about its result. -/
structure Recounts (trace : Trace) (r : RuntimeResult) : Prop where
  matched : Matched (recordsOf trace)
  ordered : (recordsOf trace).Pairwise fun a b => a.counters ≤ b.counters
  concludes : ¬ Denounced trace → Concludes (recordsOf trace) r.reason
  denounced : Denounced trace → Silent (recordsOf trace) ∧ r.status = .failed ∧
    r.reason = .auditFailed

theorem ends_recounted {rt : AgentRuntime} {task : RuntimeTask} {context : ToolExecutionContext}
    {outcome : Except Exn RuntimeResult} {l : Ledger} (ends : Ends rt task context outcome l)
    (matched : task.taskId = context.taskId) (orderly : Orderly l.trace)
    (bounded : l.counters.Bounded) : ∃ r, outcome = .ok r ∧ Recounts l.trace r := by
  cases ends with
  | mismatched different => exact absurd matched different
  | returned _ status reason r _ reached reports =>
      obtain ⟨⟨brackets, last⟩, blameless⟩ := reached_tidy reached orderly
      refine ⟨r, rfl, brackets, (reached_ordered reached).sorted, fun _ => ?_, ?_⟩
      · rw [reports.reason]
        exact last
      · exact fun denounced => absurd denounced blameless
  | auditFailed _ r _ reached reports =>
      obtain ⟨⟨brackets, silent⟩, denounced⟩ := reached_tidy reached orderly
      refine ⟨r, rfl, brackets, (reached_ordered reached).sorted, ?_, fun _ => ?_⟩
      · exact fun blameless => absurd denounced blameless
      · exact ⟨silent, reports.status, reports.reason⟩
  | escaped _ _ _ reached => exact (reached_tidy reached orderly).1.elim
  | raised _ e _ reached uncaught other =>
      rcases conforming_raises reached uncaught other (orderly_conforming orderly) with
        excess | ⟨code, member⟩
      · exact absurd bounded excess
      · exact nomatch orderly _ member

/-- Where nothing fails but the reasoner's phases and the tools, each started step gets its outcome
record at once and no other, the counters never decrease, and the last record alone has a
terminal reason, that of the result, unless the reasoner itself raised `AUDIT_FAILED`. -/
theorem audit_trace (rt : AgentRuntime) (task : RuntimeTask) (context : ToolExecutionContext)
    (matched : task.taskId = context.taskId) (orderly : Orderly (run rt task context start).2.trace)
    (bounded : (run rt task context start).2.run.counters.Bounded) :
    ∃ r, (run rt task context start).1 = .ok r ∧
      Recounts (run rt task context start).2.trace r :=
  ends_recounted (run_ends rt task context) matched orderly bounded

theorem audit_trace_sample :
    ∃ r, (run sampleRuntime sampleTask sampleContext start).1 = .ok r ∧
      Recounts (run sampleRuntime sampleTask sampleContext start).2.trace r :=
  audit_trace sampleRuntime sampleTask sampleContext rfl (by decide +kernel) (by decide +kernel)

def denouncingRuntime : AgentRuntime :=
  ⟨{ sampleEnv with observe := fun _ _ _ => .error (.runtime .auditFailed) },
    sampleLimits 100 hundred_tokens, by decide⟩

def foreignTask : RuntimeTask := { sampleTask with taskId := 2 }

def reportRecords (trace : Trace) : List (RuntimeAuditOutcome × Option RuntimeTerminalReason) :=
  ((recordsOf trace).filter fun record => decide (record.step = .report)).map fun record =>
    (record.outcome, record.reason)

theorem audit_trace_incomplete :
    (Orderly (run denouncingRuntime sampleTask sampleContext start).2.trace ∧
      verdict (run denouncingRuntime sampleTask sampleContext start).1 =
        .ok (.failed, .auditFailed) ∧
      ((recordsOf (run denouncingRuntime sampleTask sampleContext start).2.trace).all fun record =>
        decide (record.reason = none)) = true) ∧
    (Orderly (run sampleRuntime foreignTask sampleContext start).2.trace ∧
      (recordsOf (run sampleRuntime foreignTask sampleContext start).2.trace).length = 0) ∧
    (Orderly (run sampleRuntime sampleTask sampleContext start).2.trace ∧
      reportRecords (run sampleRuntime sampleTask sampleContext start).2.trace =
        [(.started, none), (.succeeded, none), (.succeeded, some .taskCompleted)]) := by
  decide +kernel

end SynapseOS.Runtime
