import SynapseOS.Runtime.Runs

/-! Runs whose recorder accepts every record and whose collaborators raise what they may raise:
the failures that are counted, and why an exception can leave such a run. -/

namespace SynapseOS.Runtime

open Tools

/-- The recorder accepts, the reasoner answers or raises a `RuntimeError`, the tool executor
answers or raises a `ToolError`, and only the global timeout interrupts them. -/
def Event.conforming : Event → Bool
  | .recorded _ raised => raised.isNone
  | .cancellation _ _ => false
  | .refused _ (.runtime _) | .refused _ .expired => true
  | .refused _ _ => false
  | .toolRaised .toolAudit | .toolRaised (.tool _) | .toolRaised .expired => true
  | .toolRaised _ => false
  | .asked _ | .answered _ _ | .toolCalled _ _ | .toolReturned _ | .appended _ _ => true

def Conforming (trace : Trace) : Prop := ∀ event ∈ trace, event.conforming = true

instance (trace : Trace) : Decidable (Conforming trace) :=
  inferInstanceAs (Decidable (∀ event ∈ trace, _))

def Point.debt : Point → Nat
  | .resting debt | .opened _ debt | .replied _ debt => debt
  | .refused _ code | .thrown (.runtime code) => codeDebt code
  | .asked _ | .thrown _ | .overdue | .closed _ _ | .escaped _ => 0

def Balanced (p : Point) (l : Ledger) : Prop :=
  l.counters.failures ≤ failuresOf l.trace ∧
    (p ≠ .thrown .validation → l.counters.failures + p.debt = failuresOf l.trace)

/-- Why a conforming run stands where it stands. -/
def Explained (p : Point) (l : Ledger) : Prop :=
  match p with
  | .thrown .validation => ¬ l.counters.Bounded
  | .thrown (.tool code) => .toolRaised (.tool code) ∈ l.trace
  | .thrown (.runtime _) | .thrown .expired => True
  | .thrown _ | .escaped _ => False
  | .resting _ | .opened _ _ | .asked _ | .replied _ _ | .refused _ _ | .overdue | .closed _ _ =>
      True

def ToolSafe (p : Point) (l : Ledger) : Prop :=
  (∃ code, p = .thrown (.tool code)) ∨ ∀ code, .toolRaised (.tool code) ∉ l.trace

section Moves

variable {limits : RuntimeLimits} {p q : Point} {l m : Ledger}

theorem conforming_log {event : Event} (conforming : Conforming (l.log event).trace) :
    event.conforming = true :=
  conforming event (List.mem_append_right _ (List.mem_singleton_self _))

theorem balanced_log (balanced : Balanced p l) (event : Event)
    (debt : q.debt = p.debt + event.failures)
    (valid : p ≠ .thrown .validation) : Balanced q (l.log event) := by
  have total := balanced.2 valid
  have grown : failuresOf (l.log event).trace = failuresOf l.trace + event.failures :=
    failuresOf_concat _ _
  have same : (l.log event).counters = l.counters := rfl
  unfold Balanced
  rw [grown, same]
  omega

theorem balanced_move (balanced : Balanced p l) (conforming : Conforming m.trace)
    (taken : Move limits p l q m) : Balanced q m := by
  cases taken with
  | begin_ => exact balanced
  | open_ _ debt record step => exact balanced_log balanced _ rfl (by simp)
  | ask => exact balanced_log balanced _ rfl (by simp)
  | call _ name arguments => exact balanced_log balanced (.toolCalled name arguments) rfl (by simp)
  | answer _ step output => exact balanced_log balanced (.answered step output) rfl (by simp)
  | refuse _ step code => exact balanced_log balanced _ (Nat.zero_add _).symm (by simp)
  | drop _ step e foreign =>
      cases e with
      | runtime code => exact absurd rfl (foreign code)
      | toolAudit | tool | timeout | expired | cancelled | validation | other =>
          exact balanced_log balanced _ rfl (by simp)
  | obtain_ _ result => exact balanced_log balanced _ (Nat.zero_add _).symm (by simp)
  | unaudited => exact balanced_log balanced _ rfl (by simp)
  | interrupt _ e foreign =>
      have allowed := conforming_log conforming
      cases e with
      | runtime code => cases allowed
      | toolAudit | tool | timeout | expired | cancelled | validation | other =>
          exact balanced_log balanced _ rfl (by simp)
  | close => exact balanced_log balanced _ rfl (by simp)
  | observed => exact balanced_log balanced _ rfl (by simp)
  | rethrow => exact balanced_log balanced _ rfl (by simp)
  | reject _ _ record e => exact nomatch conforming_log conforming
  | invalid => exact ⟨balanced.1, fun other => absurd rfl other⟩
  | recover _ code ordinary =>
      have total := balanced.2 (by simp)
      have owed : (Point.thrown (.runtime code)).debt = 1 := if_neg ordinary
      rw [owed] at total
      exact ⟨Nat.le_of_eq total, fun _ => total⟩
  | pay =>
      have total := balanced.2 (by simp)
      exact ⟨Nat.le_of_eq total, fun _ => total⟩
  | append _ debt entry => exact balanced_log balanced (.appended entry _) rfl (by simp)
  | terminate => exact balanced_log balanced _ rfl (by simp)
  | expire _ e late =>
      rcases late with rfl | rfl
      · exact ⟨balanced.1, fun _ => balanced.2 (by simp)⟩
      · exact ⟨balanced.1, fun _ => balanced.2 (by simp)⟩
  | timeOut => exact balanced_log balanced _ rfl (by simp)
  | timeOutRejected => exact nomatch conforming_log conforming
  | timeOutInvalid => exact ⟨balanced.1, fun _ => balanced.2 (by simp)⟩
  | withdraw => exact nomatch conforming_log conforming

theorem explained_move (explained : Explained p l) (sized : Sized p l)
    (conforming : Conforming m.trace) (taken : Move limits p l q m) : Explained q m := by
  cases taken with
  | begin_ | open_ | ask | call | answer | refuse | obtain_ | unaudited | close | observed | rethrow
  | recover | pay | append | terminate | expire | timeOut => trivial
  | drop _ step e foreign =>
      have allowed := conforming_log conforming
      cases e with
      | expired => trivial
      | runtime code => exact absurd rfl (foreign code)
      | toolAudit | tool | timeout | cancelled | validation | other => cases allowed
  | interrupt _ e foreign =>
      have allowed := conforming_log conforming
      cases e with
      | expired => trivial
      | tool code => exact List.mem_append_right _ (List.mem_singleton_self _)
      | toolAudit => exact absurd rfl foreign
      | runtime | timeout | cancelled | validation | other => cases allowed
  | reject => exact nomatch conforming_log conforming
  | invalid _ _ _ excess => exact excess
  | timeOutRejected => exact nomatch conforming_log conforming
  | timeOutInvalid _ excess => exact absurd sized excess
  | withdraw => exact nomatch conforming_log conforming

theorem toolSafe_log (safe : ∀ code, .toolRaised (.tool code) ∉ l.trace) (event : Event)
    (other : ∀ code, event ≠ .toolRaised (.tool code)) : ToolSafe q (l.log event) := by
  refine .inr fun code member => ?_
  rcases List.mem_append.mp member with earlier | last
  · exact safe code earlier
  · exact other code (List.mem_singleton.mp last).symm

theorem toolSafe_move (safe : ToolSafe p l) (taken : Move limits p l q m) : ToolSafe q m := by
  have still (other : ∀ code, p ≠ .thrown (.tool code)) :
      ∀ code, .toolRaised (.tool code) ∉ l.trace := by
    rcases safe with ⟨code, same⟩ | absent
    · exact absurd same (other code)
    · exact absent
  cases taken with
  | begin_ | recover | pay | timeOutInvalid => exact .inr (still (by simp))
  | expire _ e late =>
      rcases late with rfl | rfl
      · exact .inr (still (by simp))
      · exact .inr (still (by simp))
  | invalid _ _ recording =>
      refine .inr (still ?_)
      rintro code rfl
      cases recording
  | reject _ _ record e recording =>
      apply toolSafe_log (still _) _ (by simp)
      rintro code rfl
      cases recording
  | interrupt _ e =>
      cases e with
      | tool code => exact .inl ⟨code, rfl⟩
      | runtime | toolAudit | timeout | expired | cancelled | validation | other =>
          exact toolSafe_log (still (by simp)) _ (by simp)
  | call _ name arguments =>
      exact toolSafe_log (still (by simp)) (.toolCalled name arguments) (by simp)
  | answer _ step output =>
      exact toolSafe_log (still (by simp)) (.answered step output) (by simp)
  | append _ _ entry => exact toolSafe_log (still (by simp)) (.appended entry _) (by simp)
  | open_ | ask | refuse | drop | obtain_ | unaudited | close | observed | rethrow | terminate
  | timeOut | timeOutRejected | withdraw => exact toolSafe_log (still (by simp)) _ (by simp)

end Moves

section Reached

variable {limits : RuntimeLimits} {p q : Point} {l m : Ledger}

theorem reached_balanced (reached : Reached limits p l) (conforming : Conforming l.trace) :
    Balanced p l := by
  apply reached_filtered (fun event => event.conforming = true) Balanced _ _ reached conforming
  · exact ⟨Nat.le_refl _, fun _ => rfl⟩
  · exact fun _ _ _ _ _ held now taken => balanced_move held now taken

theorem reached_explained (reached : Reached limits p l) (conforming : Conforming l.trace) :
    Explained p l := by
  apply reached_filtered (fun event => event.conforming = true) Explained _ _ reached conforming
  · trivial
  · exact fun _ _ _ _ before held now taken =>
      explained_move held (reached_sized before) now taken

theorem reached_toolSafe (reached : Reached limits p l) : ToolSafe p l := by
  apply reached_invariant ToolSafe _ _ reached
  · exact .inr fun code member => nomatch member
  · exact fun _ _ _ _ _ held taken => toolSafe_move held taken

end Reached

structure Fits (trace : Trace) : Prop where
  tokens : tokensOf trace ≤ 10000000
  failures : failuresOf trace ≤ 100
  tools : ∀ code, .toolRaised (.tool code) ∉ trace

section Ends

variable {rt : AgentRuntime} {task : RuntimeTask} {context : ToolExecutionContext}
  {outcome : Except Exn RuntimeResult} {p : Point} {l : Ledger}

theorem reached_bounded (reached : Reached rt.limits p l) (conforming : Conforming l.trace)
    (fits : Fits l.trace) : l.counters.Bounded := by
  have kept := reached_kept reached
  have failures := (reached_balanced reached conforming).1
  have most := rt.limits.iteration_bounds.2
  have tools := rt.limits.tool_bounds
  refine ⟨kept.looped.trans most, kept.capped.trans tools, failures.trans fits.failures, ?_⟩
  rw [kept.tokens]
  exact fits.tokens

theorem conforming_raises {e : Exn} (reached : Reached rt.limits (.thrown e) l)
    (uncaught : Uncaught e l)
    (other : e ≠ .cancelled ∧ e ≠ .timeout ∧ e ≠ .expired ∧ e ≠ .runtime .auditFailed)
    (conforming : Conforming l.trace) :
    ¬ l.counters.Bounded ∨ ∃ code, .toolRaised (.tool code) ∈ l.trace := by
  have explained := reached_explained reached conforming
  cases e with
  | validation => exact .inl explained
  | tool code => exact .inr ⟨code, explained⟩
  | expired => exact absurd rfl other.2.2.1
  | toolAudit | timeout | cancelled | other => exact explained.elim
  | runtime code =>
      have ordinary : code ≠ .auditFailed := by
        rintro rfl
        exact other.2.2.2 rfl
      rcases uncaught ⟨code, ordinary, rfl⟩ with ⟨record, code, _, member⟩ | member
      · exact nomatch conforming _ member
      · exact nomatch conforming _ member

theorem conforming_returns (ends : Ends rt task context outcome l)
    (matched : task.taskId = context.taskId) (conforming : Conforming l.trace)
    (fits : Fits l.trace) : ∃ r, outcome = .ok r := by
  cases ends with
  | mismatched different => exact absurd matched different
  | returned _ _ _ r => exact ⟨r, rfl⟩
  | auditFailed _ r => exact ⟨r, rfl⟩
  | escaped _ e _ reached => exact (reached_explained reached conforming).elim
  | raised _ e _ reached uncaught other =>
      rcases conforming_raises reached uncaught other conforming with excess | ⟨code, member⟩
      · exact absurd (reached_bounded reached conforming fits) excess
      · exact absurd member (fits.tools code)

theorem returned_fits {r : RuntimeResult} (ends : Ends rt task context (.ok r) l)
    (conforming : Conforming l.trace) : task.taskId = context.taskId ∧ Fits l.trace := by
  have bounds (p : Point) (reached : Reached rt.limits p l) (counters : r.counters = l.counters)
      (free : p.debt = 0) (calm : ∀ e, p = .thrown e → e = .runtime .auditFailed) :
      Fits l.trace := by
    have bounded : l.counters.Bounded := counters ▸ r.bounded
    have paid := (reached_balanced reached conforming).2 fun same => nomatch calm _ same
    rw [free, Nat.add_zero] at paid
    refine ⟨?_, ?_, ?_⟩
    · rw [← (reached_kept reached).tokens]
      exact bounded.2.2.2
    · rw [← paid]
      exact bounded.2.2.1
    · rcases reached_toolSafe reached with ⟨code, same⟩ | absent
      · exact nomatch calm _ same
      · exact absent
  cases ends with
  | returned _ status reason _ matched reached reports =>
      exact ⟨matched, bounds _ reached reports.counters rfl fun e same => nomatch same⟩
  | auditFailed _ _ matched reached reports =>
      refine ⟨matched, bounds _ reached reports.counters rfl ?_⟩
      intro e same
      exact (Point.thrown.inj same).symm

end Ends

end SynapseOS.Runtime
