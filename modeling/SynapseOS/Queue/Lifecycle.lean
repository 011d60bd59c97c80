import Mathlib.Data.Multiset.Basic
import SynapseOS.Queue.Types

/-! What the queue is for, seen from one run: attempts are issued, started and concluded.
An attempt is a ticket while it waits to be started; the run is worked on while one of its
handler calls has not been concluded. -/

namespace SynapseOS.Queue

@[ext] structure RunView where
  status : Option AgentRunStatus
  /-- The attempts that wait in a work item. -/
  tickets : Multiset ℕ
  /-- The attempts a worker has started and not concluded. -/
  executing : Multiset ℕ
  /-- The attempts whose handler was started, in order. -/
  started : List ℕ
  /-- The recorded terminal statuses, in order. -/
  outcomes : List AgentRunStatus

namespace RunView

def unknown : RunView := ⟨none, 0, 0, [], []⟩

def Recorded (before after : List AgentRunStatus) (status : AgentRunStatus) : Prop :=
  after = before ∨ after = before ++ [status]

/-- The moves of a run of at most `limit` attempts, stale recovery apart. -/
inductive Move (limit : ℕ) (v w : RunView) : Prop
  | withdraw (queued : v.status = some .queued) (status : w.status = some .cancelled)
      (tickets : w.tickets = v.tickets) (executing : w.executing = v.executing)
      (started : w.started = v.started)
      (outcomes : Recorded v.outcomes w.outcomes .cancelled)
  | drop (ticket : ℕ) (status : w.status = v.status) (taken : v.tickets = ticket ::ₘ w.tickets)
      (executing : w.executing = v.executing) (started : w.started = v.started)
      (outcomes : w.outcomes = v.outcomes)
  | begin (ticket : ℕ) (wanted : v.status ≠ some .cancelled) (status : w.status = some .running)
      (taken : v.tickets = ticket ::ₘ w.tickets)
      (executing : w.executing = ticket ::ₘ v.executing)
      (started : w.started = v.started ++ [ticket]) (outcomes : w.outcomes = v.outcomes)
  | beginFails (ticket : ℕ) (wanted : v.status ≠ some .cancelled)
      (status : w.status = some .running) (taken : v.tickets = ticket ::ₘ w.tickets)
      (executing : w.executing = v.executing) (started : w.started = v.started)
      (outcomes : w.outcomes = v.outcomes)
  | conclude (attempt : ℕ) (outcome : AgentRunStatus) (ends : outcome.terminal = true)
      (status : w.status = some outcome) (tickets : w.tickets = v.tickets)
      (left : v.executing = attempt ::ₘ w.executing) (started : w.started = v.started)
      (outcomes : Recorded v.outcomes w.outcomes outcome)
  | abandon (attempt : ℕ) (status : w.status = v.status) (tickets : w.tickets = v.tickets)
      (left : v.executing = attempt ::ₘ w.executing) (started : w.started = v.started)
      (outcomes : w.outcomes = v.outcomes)
  | retry (attempt : ℕ) (remaining : attempt < limit) (status : w.status = some .retrying)
      (issued : w.tickets = (attempt + 1) ::ₘ v.tickets)
      (left : v.executing = attempt ::ₘ w.executing) (started : w.started = v.started)
      (outcomes : w.outcomes = v.outcomes)
  | retryLost (attempt : ℕ) (status : w.status = some .retrying) (tickets : w.tickets = v.tickets)
      (left : v.executing = attempt ::ₘ w.executing) (started : w.started = v.started)
      (outcomes : w.outcomes = v.outcomes)

structure Submit (attempt : ℕ) (v w : RunView) : Prop where
  before : v = unknown
  after : w = ⟨some .queued, {attempt}, 0, [], []⟩

inductive Settle (attempt limit : ℕ) (v w : RunView) : Prop
  | requeue (remaining : attempt < limit) (status : w.status = some .retrying)
      (issued : w.tickets = (attempt + 1) ::ₘ v.tickets) (executing : w.executing = v.executing)
      (started : w.started = v.started) (outcomes : w.outcomes = v.outcomes)
  | lost (remaining : attempt < limit) (status : w.status = some .retrying)
      (tickets : w.tickets = v.tickets) (executing : w.executing = v.executing)
      (started : w.started = v.started) (outcomes : w.outcomes = v.outcomes)
  | fail (spent : ¬ attempt < limit) (status : w.status = some .failed)
      (tickets : w.tickets = v.tickets) (executing : w.executing = v.executing)
      (started : w.started = v.started) (outcomes : Recorded v.outcomes w.outcomes .failed)

/-! One attempt at a time, and a finished run stays finished. -/

def Finished (v : RunView) : Prop := ∃ status, v.status = some status ∧ status.terminal = true

/-- A run has one attempt in flight at most, where its status says it is. -/
structure Disciplined (v : RunView) : Prop where
  single : v.tickets.card + v.executing.card ≤ 1
  running : v.status = some .running → v.tickets = 0
  resting : v.status ≠ some .running → v.executing = 0
  ended : v.Finished → v.status ≠ some .cancelled → v.tickets = 0
  unrecorded : ¬ v.Finished → v.outcomes = []
  recorded : v.outcomes.length ≤ 1

theorem disciplined_unknown : Disciplined unknown := by
  constructor <;> simp [unknown, Finished]

theorem finished_iff {v : RunView} {status : AgentRunStatus} (stored : v.status = some status) :
    v.Finished ↔ status.terminal = true := by
  simp [Finished, stored]

theorem recorded_length {before after : List AgentRunStatus} {status : AgentRunStatus}
    (recorded : Recorded before after status) (empty : before = []) : after.length ≤ 1 := by
  rcases recorded with rfl | rfl
  · simp [empty]
  · simp [empty]

section Moves

variable {limit : ℕ} {v w : RunView}

theorem executing_running (held : Disciplined v) {attempt : ℕ} {rest : Multiset ℕ}
    (left : v.executing = attempt ::ₘ rest) :
    v.status = some .running ∧ v.tickets = 0 ∧ rest = 0 := by
  have running : v.status = some .running := by
    by_contra other
    have empty := held.resting other
    rw [left] at empty
    exact Multiset.cons_ne_zero empty
  have single := held.single
  rw [left, Multiset.card_cons] at single
  have none_left : rest.card = 0 := by omega
  exact ⟨running, held.running running, Multiset.card_eq_zero.mp none_left⟩

theorem ticket_waiting (held : Disciplined v) {ticket : ℕ} {rest : Multiset ℕ}
    (taken : v.tickets = ticket ::ₘ rest) (wanted : v.status ≠ some .cancelled) :
    ¬ v.Finished ∧ rest = 0 ∧ v.executing = 0 := by
  have single := held.single
  rw [taken, Multiset.card_cons] at single
  have noRest : rest.card = 0 := by omega
  have idle : v.executing.card = 0 := by omega
  refine ⟨?_, Multiset.card_eq_zero.mp noRest, Multiset.card_eq_zero.mp idle⟩
  intro finished
  have empty := held.ended finished wanted
  rw [taken] at empty
  exact Multiset.cons_ne_zero empty

theorem disciplined_move (held : Disciplined v) (move : Move limit v w) : Disciplined w := by
  cases move with
  | withdraw queued status tickets executing started outcomes =>
      have open_ : ¬ v.Finished := by simp [finished_iff queued, AgentRunStatus.terminal]
      have idle : v.executing = 0 := held.resting (by simp [queued])
      refine ⟨?_, ?_, ?_, ?_, ?_, ?_⟩
      · rw [tickets, executing]
        exact held.single
      · simp [status]
      · intro _
        rw [executing, idle]
      · simp [status]
      · simp [finished_iff status, AgentRunStatus.terminal]
      · exact recorded_length outcomes (held.unrecorded open_)
  | drop ticket status taken executing started outcomes =>
      have single := held.single
      rw [taken, Multiset.card_cons, ← executing] at single
      have emptied : v.tickets = 0 → w.tickets = 0 := by
        intro empty
        rw [taken] at empty
        exact absurd empty Multiset.cons_ne_zero
      have same : w.Finished ↔ v.Finished := by simp only [Finished, status]
      refine ⟨by omega, ?_, ?_, ?_, ?_, ?_⟩
      · rw [status]
        exact fun running => emptied (held.running running)
      · rw [status, executing]
        exact held.resting
      · rw [same, status]
        exact fun finished other => emptied (held.ended finished other)
      · rw [same, outcomes]
        exact held.unrecorded
      · rw [outcomes]
        exact held.recorded
  | begin ticket wanted status taken executing started outcomes =>
      obtain ⟨open_, noRest, idle⟩ := ticket_waiting held taken wanted
      refine ⟨?_, ?_, ?_, ?_, ?_, ?_⟩
      · simp [executing, idle, noRest]
      · exact fun _ => noRest
      · exact fun other => absurd status other
      · simp [finished_iff status, AgentRunStatus.terminal]
      · exact fun _ => outcomes.trans (held.unrecorded open_)
      · rw [outcomes]
        exact held.recorded
  | beginFails ticket wanted status taken executing started outcomes =>
      obtain ⟨open_, noRest, idle⟩ := ticket_waiting held taken wanted
      refine ⟨?_, ?_, ?_, ?_, ?_, ?_⟩
      · simp [executing, idle, noRest]
      · exact fun _ => noRest
      · exact fun other => absurd status other
      · simp [finished_iff status, AgentRunStatus.terminal]
      · exact fun _ => outcomes.trans (held.unrecorded open_)
      · rw [outcomes]
        exact held.recorded
  | conclude attempt outcome ends status tickets left started outcomes =>
      obtain ⟨running, noTickets, noRest⟩ := executing_running held left
      have open_ : ¬ v.Finished := by simp [finished_iff running, AgentRunStatus.terminal]
      refine ⟨?_, ?_, ?_, ?_, ?_, ?_⟩
      · simp [tickets, noTickets, noRest]
      · exact fun _ => tickets.trans noTickets
      · exact fun _ => noRest
      · exact fun _ _ => tickets.trans noTickets
      · intro unfinished
        exact absurd ((finished_iff status).mpr ends) unfinished
      · exact recorded_length outcomes (held.unrecorded open_)
  | abandon attempt status tickets left started outcomes =>
      obtain ⟨running, noTickets, noRest⟩ := executing_running held left
      have same : w.Finished ↔ v.Finished := by simp only [Finished, status]
      refine ⟨?_, ?_, ?_, ?_, ?_, ?_⟩
      · simp [tickets, noTickets, noRest]
      · exact fun _ => tickets.trans noTickets
      · exact fun _ => noRest
      · exact fun _ _ => tickets.trans noTickets
      · rw [same, outcomes]
        exact held.unrecorded
      · rw [outcomes]
        exact held.recorded
  | retry attempt remaining status issued left started outcomes =>
      obtain ⟨running, noTickets, noRest⟩ := executing_running held left
      have open_ : ¬ v.Finished := by simp [finished_iff running, AgentRunStatus.terminal]
      refine ⟨?_, ?_, ?_, ?_, ?_, ?_⟩
      · simp [issued, noTickets, noRest]
      · simp [status]
      · exact fun _ => noRest
      · simp [finished_iff status, AgentRunStatus.terminal]
      · exact fun _ => outcomes.trans (held.unrecorded open_)
      · rw [outcomes]
        exact held.recorded
  | retryLost attempt status tickets left started outcomes =>
      obtain ⟨running, noTickets, noRest⟩ := executing_running held left
      have open_ : ¬ v.Finished := by simp [finished_iff running, AgentRunStatus.terminal]
      refine ⟨?_, ?_, ?_, ?_, ?_, ?_⟩
      · simp [tickets, noTickets, noRest]
      · simp [status]
      · exact fun _ => noRest
      · simp [finished_iff status, AgentRunStatus.terminal]
      · exact fun _ => outcomes.trans (held.unrecorded open_)
      · rw [outcomes]
        exact held.recorded

/-- A finished run makes no move but to lose a ticket it no longer needs. -/
theorem finished_move (held : Disciplined v) (finished : v.Finished) (move : Move limit v w) :
    w.status = v.status ∧ w.started = v.started := by
  have notRunning : v.status ≠ some .running := by
    obtain ⟨status, stored, ends⟩ := finished
    rw [stored]
    rintro same
    cases Option.some.inj same
    cases ends
  have idle {attempt : ℕ} {rest : Multiset ℕ} (left : v.executing = attempt ::ₘ rest) : False :=
    notRunning (executing_running held left).1
  cases move with
  | withdraw queued status tickets executing started outcomes =>
      rw [finished_iff queued] at finished
      cases finished
  | drop ticket status taken executing started outcomes => exact ⟨status, started⟩
  | begin ticket wanted status taken executing started outcomes =>
      exact absurd finished (ticket_waiting held taken wanted).1
  | beginFails ticket wanted status taken executing started outcomes =>
      exact absurd finished (ticket_waiting held taken wanted).1
  | conclude attempt outcome ends status tickets left started outcomes => exact (idle left).elim
  | abandon attempt status tickets left started outcomes => exact (idle left).elim
  | retry attempt remaining status issued left started outcomes => exact (idle left).elim
  | retryLost attempt status tickets left started outcomes => exact (idle left).elim

theorem disciplined_submit {attempt : ℕ} (submit : Submit attempt v w) : Disciplined w := by
  rw [submit.after]
  constructor <;> simp [Finished, AgentRunStatus.terminal]

theorem disciplined_settle {attempt : ℕ} (held : Disciplined v) (settle : Settle attempt limit v w)
    (running : v.status = some .running) (idle : v.executing = 0) : Disciplined w := by
  have noTickets := held.running running
  have open_ : ¬ v.Finished := by simp [finished_iff running, AgentRunStatus.terminal]
  have empty := held.unrecorded open_
  cases settle with
  | requeue remaining status issued executing started outcomes =>
      refine ⟨?_, ?_, ?_, ?_, ?_, ?_⟩
      · simp [issued, executing, noTickets, idle]
      · simp [status]
      · exact fun _ => executing.trans idle
      · simp [finished_iff status, AgentRunStatus.terminal]
      · exact fun _ => outcomes.trans empty
      · simp [outcomes, empty]
  | lost remaining status tickets executing started outcomes =>
      refine ⟨?_, ?_, ?_, ?_, ?_, ?_⟩
      · simp [tickets, executing, noTickets, idle]
      · simp [status]
      · exact fun _ => executing.trans idle
      · simp [finished_iff status, AgentRunStatus.terminal]
      · exact fun _ => outcomes.trans empty
      · simp [outcomes, empty]
  | fail spent status tickets executing started outcomes =>
      refine ⟨?_, ?_, ?_, ?_, ?_, ?_⟩
      · simp [tickets, executing, noTickets, idle]
      · simp [status]
      · exact fun _ => executing.trans idle
      · exact fun _ _ => tickets.trans noTickets
      · simp [finished_iff status, AgentRunStatus.terminal]
      · exact recorded_length outcomes empty

end Moves

/-! Attempts are numbered in the order of their starts. -/

/-- The started attempts are `1, ..., k`, and the one in flight is `k` or `k + 1`. -/
structure Numbered (limit : ℕ) (v : RunView) : Prop where
  single : v.tickets.card + v.executing.card ≤ 1
  started : v.started = List.range' 1 v.started.length
  bounded : v.started.length ≤ limit
  next : ∀ ticket ∈ v.tickets, ticket = v.started.length + 1 ∧ ticket ≤ limit
  current : ∀ attempt ∈ v.executing, attempt = v.started.length

theorem numbered_unknown (limit : ℕ) : Numbered limit unknown := by
  constructor <;> simp [unknown]

section Numbering

variable {limit : ℕ} {v w : RunView}

theorem numbered_kept (held : Numbered limit v) (tickets : w.tickets = v.tickets)
    (executing : w.executing = v.executing) (started : w.started = v.started) :
    Numbered limit w := by
  constructor
  · rw [tickets, executing]
    exact held.single
  · rw [started]
    exact held.started
  · rw [started]
    exact held.bounded
  · rw [tickets, started]
    exact held.next
  · rw [executing, started]
    exact held.current

theorem numbered_dropped (held : Numbered limit v) {ticket : ℕ}
    (taken : v.tickets = ticket ::ₘ w.tickets) (executing : w.executing = v.executing)
    (started : w.started = v.started) : Numbered limit w := by
  have single := held.single
  rw [taken, Multiset.card_cons, ← executing] at single
  constructor
  · omega
  · rw [started]
    exact held.started
  · rw [started]
    exact held.bounded
  · intro other member
    rw [started]
    exact held.next other (taken ▸ Multiset.mem_cons_of_mem member)
  · rw [executing, started]
    exact held.current

theorem numbered_left (held : Numbered limit v) {attempt : ℕ}
    (left : v.executing = attempt ::ₘ w.executing) (tickets : w.tickets = v.tickets)
    (started : w.started = v.started) : Numbered limit w := by
  have single := held.single
  rw [left, Multiset.card_cons, ← tickets] at single
  constructor
  · omega
  · rw [started]
    exact held.started
  · rw [started]
    exact held.bounded
  · rw [tickets, started]
    exact held.next
  · intro other member
    rw [started]
    exact held.current other (left ▸ Multiset.mem_cons_of_mem member)

theorem numbered_issued (held : Numbered limit v) {ticket : ℕ}
    (single : w.tickets.card + w.executing.card ≤ 1)
    (issued : w.tickets = ticket ::ₘ 0) (succ : ticket = v.started.length + 1)
    (bounded : ticket ≤ limit) (idle : w.executing = 0) (started : w.started = v.started) :
    Numbered limit w := by
  refine ⟨single, ?_, ?_, ?_, ?_⟩
  · rw [started]
    exact held.started
  · rw [started]
    exact held.bounded
  · intro other member
    rw [issued, Multiset.mem_cons] at member
    rcases member with rfl | absent
    · rw [started]
      exact ⟨succ, bounded⟩
    · exact absurd absent (Multiset.notMem_zero other)
  · simp [idle]

theorem numbered_move (held : Numbered limit v) (move : Move limit v w) : Numbered limit w := by
  cases move with
  | withdraw queued status tickets executing started outcomes =>
      exact numbered_kept held tickets executing started
  | drop ticket status taken executing started outcomes =>
      exact numbered_dropped held taken executing started
  | begin ticket wanted status taken executing started outcomes =>
      have single := held.single
      rw [taken, Multiset.card_cons] at single
      have noRest : w.tickets = 0 := Multiset.card_eq_zero.mp (by omega)
      have idle : v.executing = 0 := Multiset.card_eq_zero.mp (by omega)
      have number := held.next ticket (taken ▸ Multiset.mem_cons_self _ _)
      have length : w.started.length = v.started.length + 1 := by simp [started]
      constructor
      · simp [executing, idle, noRest]
      · rw [length, List.range'_concat, ← held.started, started, number.1]
        simp [Nat.add_comm]
      · rw [length]
        omega
      · simp [noRest]
      · intro attempt member
        rw [executing, idle] at member
        simp only [Multiset.cons_zero, Multiset.mem_singleton] at member
        omega
  | beginFails ticket wanted status taken executing started outcomes =>
      exact numbered_dropped held taken executing started
  | conclude attempt outcome ends status tickets left started outcomes =>
      exact numbered_left held left tickets started
  | abandon attempt status tickets left started outcomes =>
      exact numbered_left held left tickets started
  | retry attempt remaining status issued left started outcomes =>
      have single := held.single
      rw [left, Multiset.card_cons] at single
      have noTickets : v.tickets = 0 := Multiset.card_eq_zero.mp (by omega)
      have noRest : w.executing = 0 := Multiset.card_eq_zero.mp (by omega)
      have number := held.current attempt (left ▸ Multiset.mem_cons_self _ _)
      rw [noTickets] at issued
      refine numbered_issued held ?_ issued (by omega) (by omega) noRest started
      simp [issued, noRest]
  | retryLost attempt status tickets left started outcomes =>
      exact numbered_left held left tickets started

theorem numbered_submit {attempt : ℕ} (submit : Submit attempt v w) (first : attempt = 1)
    (positive : 1 ≤ limit) : Numbered limit w := by
  rw [submit.after, first]
  constructor <;> simp [positive]

/-- A recovery keeps the numbering when it counts on from the attempt started last. -/
theorem numbered_settle {attempt : ℕ} (held : Numbered limit v) (settle : Settle attempt limit v w)
    (latest : v.started.length = attempt) (unissued : ∀ ticket ∈ v.tickets, ticket ≤ attempt)
    (idle : v.executing = 0) : Numbered limit w := by
  have noTickets : v.tickets = 0 := by
    apply Multiset.eq_zero_of_forall_notMem
    intro ticket member
    have number := (held.next ticket member).1
    have below := unissued ticket member
    omega
  cases settle with
  | requeue remaining status issued executing started outcomes =>
      rw [noTickets] at issued
      refine numbered_issued held ?_ issued (by omega) (by omega) (executing.trans idle) started
      simp [issued, executing, idle]
  | lost remaining status tickets executing started outcomes =>
      exact numbered_kept held tickets executing started
  | fail spent status tickets executing started outcomes =>
      exact numbered_kept held tickets executing started

end Numbering

end RunView

end SynapseOS.Queue
