import SynapseOS.Runtime.Runtime

/-! The protocol of a run: which events can follow one another, whatever the collaborators
answer. Each move is one call of a collaborator or one change of the counters. -/

namespace SynapseOS.Runtime

open Tools

def debtOf (result : ToolResult) : Nat :=
  if result.status = .succeeded ∨ needsHuman result.errorCode = true then 0 else 1

def codeDebt (code : RuntimeErrorCode) : Nat := if code = .auditFailed then 0 else 1

def Event.tokens : Event → Nat
  | .answered _ output => output.reportedTokens
  | _ => 0

def Event.failures : Event → Nat
  | .refused _ (.runtime code) => codeDebt code
  | .toolReturned result => debtOf result
  | _ => 0

def Event.calls : Event → Nat
  | .toolCalled _ _ => 1
  | _ => 0

def Event.record? : Event → Option RuntimeAuditRecord
  | .recorded record _ => some record
  | _ => none

def Event.entry? : Event → Option RuntimeHistoryEntry
  | .appended entry _ => some entry
  | _ => none

def tokensOf (trace : Trace) : Nat := (trace.map Event.tokens).sum

def failuresOf (trace : Trace) : Nat := (trace.map Event.failures).sum

def callsOf (trace : Trace) : Nat := (trace.map Event.calls).sum

def recordsOf (trace : Trace) : List RuntimeAuditRecord := trace.filterMap Event.record?

def entriesOf (trace : Trace) : History := trace.filterMap Event.entry?

/-- The recorder raised a `RuntimeError` other than `AUDIT_FAILED`. -/
def Lax (trace : Trace) : Prop :=
  ∃ record code, code ≠ .auditFailed ∧ .recorded record (some (.runtime code)) ∈ trace

def Completed (trace : Trace) : Prop :=
  (∃ output decision, .answered .decide output ∈ trace ∧ output.value = .decision decision ∧
    decision.action = .complete) ∨
  (∃ output verification, .answered .verify output ∈ trace ∧
    output.value = .verification verification ∧ verification.outcome = .complete)

section Concat

variable (trace : Trace) (event : Event)

@[simp] theorem tokensOf_concat :
    tokensOf (trace ++ [event]) = tokensOf trace + event.tokens := by
  simp [tokensOf]

@[simp] theorem failuresOf_concat :
    failuresOf (trace ++ [event]) = failuresOf trace + event.failures := by
  simp [failuresOf]

@[simp] theorem callsOf_concat : callsOf (trace ++ [event]) = callsOf trace + event.calls := by
  simp [callsOf]

@[simp] theorem recordsOf_concat :
    recordsOf (trace ++ [event]) = recordsOf trace ++ event.record?.toList := by
  cases shape : event.record? <;> simp [recordsOf, shape]

@[simp] theorem entriesOf_concat :
    entriesOf (trace ++ [event]) = entriesOf trace ++ event.entry?.toList := by
  cases shape : event.entry? <;> simp [entriesOf, shape]

end Concat

/-- What the protocol sees of a run. -/
structure Ledger where
  counters : Counters := ⟨0, 0, 0, 0⟩
  history : History := []
  trace : Trace := []

def World.ledger (w : World) : Ledger := ⟨w.run.counters, w.run.history, w.trace⟩

namespace Ledger

variable (l : Ledger)

def log (event : Event) : Ledger := { l with trace := l.trace ++ [event] }

def noted (record : RuntimeAuditRecord) (raised : Option Exn) : Ledger :=
  l.log (.recorded record raised)

def begun : Ledger :=
  { l with counters := { l.counters with iterations := l.counters.iterations + 1 } }

def failed : Ledger :=
  { l with counters := { l.counters with failures := l.counters.failures + 1 } }

def called (name : String) (arguments : List (String × JsonValue)) : Ledger :=
  { l.log (.toolCalled name arguments) with
    counters := { l.counters with toolCalls := l.counters.toolCalls + 1 } }

def answered (step : RuntimeStep) (output : ReasonerOutput Thought) : Ledger :=
  { l.log (.answered step output) with
    counters :=
      { l.counters with
        reportedTokens := l.counters.reportedTokens + output.reportedTokens } }

def appended (limit : Nat) (entry : RuntimeHistoryEntry) : Ledger :=
  { l.log (.appended entry ((l.history ++ [entry]).rtake limit)) with
    history := (l.history ++ [entry]).rtake limit }

end Ledger

/-- Where a run stands. A debt is a failed tool result that `failures` does not count yet. -/
inductive Point
  /-- No step is open. -/
  | resting (debt : Nat)
  /-- STARTED was recorded. -/
  | opened (step : RuntimeStep) (debt : Nat)
  /-- The reasoner, or the tool executor for ACT, is at work. -/
  | asked (step : RuntimeStep)
  /-- It answered, and the outcome is to be recorded. -/
  | replied (step : RuntimeStep) (debt : Nat)
  /-- It raised a `RuntimeError`, and FAILED is to be recorded. -/
  | refused (step : RuntimeStep) (code : RuntimeErrorCode)
  | thrown (e : Exn)
  /-- The global timeout was caught. -/
  | overdue
  /-- A terminal record was accepted. -/
  | closed (status : RuntimeTerminalStatus) (reason : RuntimeTerminalReason)
  /-- A handler of `run` raised. -/
  | escaped (e : Exn)

def Point.recording : Point → Bool
  | .resting _ | .opened _ _ | .replied _ _ | .refused _ _ => true
  | .asked _ | .thrown _ | .overdue | .closed _ _ | .escaped _ => false

structure Describes (record : RuntimeAuditRecord) (l : Ledger) (step : RuntimeStep)
    (outcome : RuntimeAuditOutcome) (reason : Option RuntimeTerminalReason) : Prop where
  counters : record.counters = l.counters
  step : record.step = step
  outcome : record.outcome = outcome
  reason : record.reason = reason

def Spare (limits : RuntimeLimits) (l : Ledger) : Prop :=
  Lax l.trace ∨ l.counters.reportedTokens < limits.maxTokens

def RuntimeStep.rank : RuntimeStep → Nat
  | .observe => 0
  | .plan => 1
  | .decide => 2
  | .act => 3
  | .observeResult => 4
  | .verify => 5
  | .report => 6

def Before (k : Nat) (l : Ledger) : Prop :=
  ∀ record ∈ recordsOf l.trace, record.outcome = .started →
    record.counters.iterations = l.counters.iterations → record.step.rank < k

def Startable (limits : RuntimeLimits) (l : Ledger) (step : RuntimeStep) : Prop :=
  Spare limits l ∧ Before step.rank l

inductive Move (limits : RuntimeLimits) : Point → Ledger → Point → Ledger → Prop
  | begin_ (l : Ledger) (left_ : l.counters.iterations < limits.maxIterations) :
      Move limits (.resting 0) l (.resting 0) l.begun
  | open_ (l : Ledger) (debt : Nat) (record : RuntimeAuditRecord) (step : RuntimeStep)
      (describes : Describes record l step .started none) (startable : Startable limits l step) :
      Move limits (.resting debt) l (.opened step debt) (l.noted record none)
  | ask (l : Ledger) (step : RuntimeStep) (spare : Spare limits l) :
      Move limits (.opened step 0) l (.asked step) (l.log (.asked step))
  | call (l : Ledger) (name : String) (arguments : List (String × JsonValue))
      (spare : Spare limits l) (allowed : l.counters.toolCalls < limits.maxToolCalls)
      (first : l.counters.toolCalls < l.counters.iterations) :
      Move limits (.opened .act 0) l (.asked .act) (l.called name arguments)
  | answer (l : Ledger) (step : RuntimeStep) (output : ReasonerOutput Thought) :
      Move limits (.asked step) l (.replied step 0) (l.answered step output)
  | refuse (l : Ledger) (step : RuntimeStep) (code : RuntimeErrorCode) :
      Move limits (.asked step) l (.refused step code) (l.log (.refused step (.runtime code)))
  | drop (l : Ledger) (step : RuntimeStep) (e : Exn) (foreign : ∀ code, e ≠ .runtime code) :
      Move limits (.asked step) l (.thrown e) (l.log (.refused step e))
  | obtain_ (l : Ledger) (result : ToolResult) :
      Move limits (.asked .act) l (.replied .act (debtOf result)) (l.log (.toolReturned result))
  | unaudited (l : Ledger) :
      Move limits (.asked .act) l (.replied .act 0) (l.log (.toolRaised .toolAudit))
  | interrupt (l : Ledger) (e : Exn) (foreign : e ≠ .toolAudit) :
      Move limits (.asked .act) l (.thrown e) (l.log (.toolRaised e))
  | close (l : Ledger) (debt : Nat) (record : RuntimeAuditRecord) (step : RuntimeStep)
      (outcome : RuntimeAuditOutcome) (describes : Describes record l step outcome none)
      (ended : outcome ≠ .started) :
      Move limits (.replied step debt) l (.resting debt) (l.noted record none)
  | observed (l : Ledger) (debt : Nat) (record : RuntimeAuditRecord)
      (outcome : RuntimeAuditOutcome) (describes : Describes record l .observeResult outcome none)
      (ended : outcome ≠ .started) :
      Move limits (.opened .observeResult debt) l (.resting debt) (l.noted record none)
  | rethrow (l : Ledger) (record : RuntimeAuditRecord) (step : RuntimeStep)
      (code : RuntimeErrorCode) (describes : Describes record l step .failed none) :
      Move limits (.refused step code) l (.thrown (.runtime code)) (l.noted record none)
  | reject (l : Ledger) (p : Point) (record : RuntimeAuditRecord) (e : Exn)
      (recording : p.recording = true) (counters : record.counters = l.counters)
      (timely : record.outcome ≠ .timedOut)
      (startable : record.outcome = .started → Startable limits l record.step) :
      Move limits p l (.thrown e) (l.noted record (some e))
  | invalid (l : Ledger) (p : Point) (recording : p.recording = true)
      (excess : ¬ l.counters.Bounded) : Move limits p l (.thrown .validation) l
  | recover (l : Ledger) (code : RuntimeErrorCode) (ordinary : code ≠ .auditFailed) :
      Move limits (.thrown (.runtime code)) l (.resting 0) l.failed
  | pay (l : Ledger) : Move limits (.resting 1) l (.resting 0) l.failed
  | append (l : Ledger) (debt : Nat) (entry : RuntimeHistoryEntry) :
      Move limits (.resting debt) l (.resting debt) (l.appended limits.maxHistoryEntries entry)
  | terminate (l : Ledger) (record : RuntimeAuditRecord) (outcome : RuntimeAuditOutcome)
      (status : RuntimeTerminalStatus) (reason : RuntimeTerminalReason)
      (describes : Describes record l .report outcome (some reason))
      (ended : outcome ≠ .started) (accepts : status.accepts reason = true)
      (completed : reason = .taskCompleted → Completed l.trace) :
      Move limits (.resting 0) l (.closed status reason) (l.noted record none)
  | expire (l : Ledger) (e : Exn) (late : e = .expired ∨ e = .timeout) :
      Move limits (.thrown e) l .overdue l
  | timeOut (l : Ledger) (record : RuntimeAuditRecord)
      (describes : Describes record l .report .timedOut (some .globalTimeout)) :
      Move limits .overdue l (.closed .timedOut .globalTimeout) (l.noted record none)
  | timeOutRejected (l : Ledger) (record : RuntimeAuditRecord) (e : Exn)
      (describes : Describes record l .report .timedOut (some .globalTimeout)) :
      Move limits .overdue l (.escaped e) (l.noted record (some e))
  | timeOutInvalid (l : Ledger) (excess : ¬ l.counters.Bounded) :
      Move limits .overdue l (.escaped .validation) l
  | withdraw (l : Ledger) (record : RuntimeAuditRecord) (raised : Option Exn) (e : Exn) :
      Move limits (.thrown .cancelled) l (.escaped e) (l.log (.cancellation record raised))

/-- The points and ledgers a run can come to. -/
inductive Reached (limits : RuntimeLimits) : Point → Ledger → Prop
  | start : Reached limits (.resting 0) {}
  | move {p q : Point} {l m : Ledger} (before : Reached limits p l) (taken : Move limits p l q m) :
      Reached limits q m

section Induction

variable {limits : RuntimeLimits}

/-- What holds at the start and is kept by every move holds wherever a run comes to. -/
theorem reached_invariant (inv : Point → Ledger → Prop) (initial : inv (.resting 0) {})
    (keeps : ∀ p l q m, Reached limits p l → inv p l → Move limits p l q m → inv q m)
    {p : Point} {l : Ledger} (reached : Reached limits p l) : inv p l := by
  induction reached with
  | start => exact initial
  | move before taken ih => exact keeps _ _ _ _ before ih taken

theorem move_trace {p q : Point} {l m : Ledger} (taken : Move limits p l q m) :
    ∀ event ∈ l.trace, event ∈ m.trace := by
  intro event member
  cases taken with
  | begin_ | recover | pay | invalid | expire | timeOutInvalid => exact member
  | open_ | ask | call | answer | refuse | drop | obtain_ | unaudited | interrupt | close
  | observed | rethrow | reject | append | terminate | timeOut | timeOutRejected | withdraw =>
      exact List.mem_append_left _ member

/-- An invariant of the runs all of whose events are `allowed`. -/
theorem reached_filtered (allowed : Event → Prop) (inv : Point → Ledger → Prop)
    (initial : inv (.resting 0) {})
    (keeps : ∀ p l q m, Reached limits p l → inv p l → (∀ event ∈ m.trace, allowed event) →
      Move limits p l q m → inv q m)
    {p : Point} {l : Ledger} (reached : Reached limits p l)
    (filtered : ∀ event ∈ l.trace, allowed event) : inv p l := by
  apply reached_invariant (fun p l => (∀ event ∈ l.trace, allowed event) → inv p l) _ _ reached
    filtered
  · exact fun _ => initial
  · intro p l q m before held taken now
    have earlier : ∀ event ∈ l.trace, allowed event := fun event member =>
      now event (move_trace taken event member)
    exact keeps p l q m before (held earlier) now taken

end Induction

end SynapseOS.Runtime
