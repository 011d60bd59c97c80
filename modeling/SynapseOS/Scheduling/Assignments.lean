import SynapseOS.Lib.Transition
import SynapseOS.Scheduling.Scheduler

/-! The active assignments and the history over any calls of the scheduler. -/

namespace SynapseOS.Scheduling

open AgentRegistry Program ProjectScheduler

/-- The active map is the active entries of the history, each once and under its agent. -/
structure Consistent (scheduler : ProjectScheduler) : Prop where
  listed : scheduler.history.filter AgentAssignment.isActive =
    scheduler.activeByAgent.entries.map Prod.snd
  keyed : ∀ entry ∈ scheduler.activeByAgent.entries, entry.2.agentId = entry.1

section Consistency

variable {scheduler : ProjectScheduler} (consistent : Consistent scheduler)

include consistent

theorem consistent_agents :
    (scheduler.activeByAgent.entries.map Prod.snd).map AgentAssignment.agentId =
    scheduler.activeByAgent.entries.map Prod.fst := by
  rw [List.map_map]
  exact List.map_congr_left consistent.keyed

theorem consistent_unique :
    ((scheduler.history.filter AgentAssignment.isActive).map AgentAssignment.agentId).Nodup := by
  rw [consistent.listed, consistent_agents consistent]
  exact scheduler.activeByAgent.unique

theorem consistent_active {entry : UUID × AgentAssignment}
    (among : entry ∈ scheduler.activeByAgent.entries) :
    entry.2 ∈ scheduler.history ∧ entry.2.status = .active := by
  have there : entry.2 ∈ scheduler.history.filter AgentAssignment.isActive := by
    rw [consistent.listed]
    exact List.mem_map_of_mem among
  obtain ⟨member, active⟩ := List.mem_filter.mp there
  exact ⟨member, of_decide_eq_true active⟩

end Consistency

section Scheduling

variable {matcher : AgentMatchingRequest → List AgentCandidate →
    Except ValidationError AgentMatchingResult}
  {fresh : Nat → UUID} {clock : Nat → ℚ} {candidates : List AgentCandidate}

def offers (matcher : AgentMatchingRequest → List AgentCandidate →
    Except ValidationError AgentMatchingResult)
    (candidates : List AgentCandidate) (held : List UUID) (request : ProjectScheduleRequest) :
    Bool :=
  match matcher request.matchingRequest candidates with
  | .ok result => (unclaimed held result).isSome
  | .error _ => false

theorem offers_unclaimed {held claimed : List UUID} {request : ProjectScheduleRequest}
    {result : AgentMatchingResult} {selected : RankedAgentMatch}
    (matched : matcher request.matchingRequest candidates = .ok result)
    (found : unclaimed claimed result = some selected) (within : ∀ agent ∈ held, agent ∈ claimed) :
    offers matcher candidates held request = true := by
  have among := List.mem_of_find?_eq_some found
  have free := List.find?_some found
  unfold offers
  rw [matched]
  refine List.find?_isSome.mpr ⟨selected, among, ?_⟩
  simp only [Bool.not_eq_true', List.contains_eq_mem, decide_eq_false_iff_not] at free ⊢
  exact fun taken => free (within _ taken)

structure Adds (requests : List ProjectScheduleRequest) (before after : ProjectScheduler)
    (made : List AgentAssignment) : Prop where
  history : after.history = before.history ++ made
  active : after.activeByAgent.entries =
    before.activeByAgent.entries ++ made.map fun assignment => (assignment.agentId, assignment)
  status : ∀ assignment ∈ made, assignment.status = .active
  tasks : (made.map fun assignment => (assignment.projectId, assignment.taskId)).Sublist
    (requests.map fun request => (request.projectId, request.taskId))

theorem adds_none (requests : List ProjectScheduleRequest) (scheduler : ProjectScheduler) :
    Adds requests scheduler scheduler [] :=
  ⟨(List.append_nil _).symm, (List.append_nil _).symm, nofun, List.nil_sublist _⟩

theorem adds_append {requests others : List ProjectScheduleRequest}
    {first second third : ProjectScheduler}
    {made more : List AgentAssignment} (left : Adds requests first second made)
    (right : Adds others second third more) :
    Adds (requests ++ others) first third (made ++ more) where
  history := by rw [right.history, left.history, List.append_assoc]
  active := by rw [right.active, left.active, List.map_append, List.append_assoc]
  status := by
    intro assignment among
    rcases List.mem_append.mp among with early | late
    · exact left.status assignment early
    · exact right.status assignment late
  tasks := by
    rw [List.map_append, List.map_append]
    exact left.tasks.append right.tasks

/-- One assignment of an agent that is free. -/
theorem assign_adds (fresh : Nat → UUID) (clock : Nat → ℚ) (request : ProjectScheduleRequest)
    {selected : RankedAgentMatch} {scheduler : ProjectScheduler}
    (free : scheduler.activeByAgent.get selected.agent.agentId = none) :
    ∃ assignment after, assign fresh clock request selected scheduler = (.ok assignment, after) ∧
      assignment.agentId = selected.agent.agentId ∧
      Adds [request] scheduler after [assignment] := by
  refine ⟨_, _, rfl, rfl, rfl, ?_, ?_, List.Sublist.refl _⟩
  · exact Assoc.set_fresh _ _ _ free
  · intro assignment among
    obtain rfl := List.mem_singleton.mp among
    rfl

theorem scheduleEach_adds (requests : List ProjectScheduleRequest) (held claimed : List UUID)
    (scheduler : ProjectScheduler) (within : ∀ agent ∈ held, agent ∈ claimed)
    (known : ∀ agent ∈ scheduler.activeByAgent.entries.map Prod.fst, agent ∈ claimed) :
    ∃ made, Adds (requests.filter (offers matcher candidates held)) scheduler
        (scheduleEach matcher fresh clock candidates requests claimed scheduler).2 made ∧
      ∀ list, (scheduleEach matcher fresh clock candidates requests claimed scheduler).1 =
        .ok list →
        list = made := by
  induction requests generalizing claimed scheduler with
  | nil => exact ⟨[], adds_none _ _, fun _ same => (Except.ok.inj same).symm⟩
  | cons request rest ih =>
      cases matched : matcher request.matchingRequest candidates with
      | error raised =>
          have run :
            scheduleEach matcher fresh clock candidates (request :: rest) claimed scheduler =
              (.error raised, scheduler) := by
            unfold scheduleEach
            rw [matched]
            rfl
          rw [run]
          exact ⟨[], adds_none _ _, nofun⟩
      | ok result =>
          cases found : unclaimed claimed result with
          | none =>
              have run :
                scheduleEach matcher fresh clock candidates (request :: rest) claimed scheduler =
                  scheduleEach matcher fresh clock candidates rest claimed scheduler := by
                rw [scheduleEach, matched, resume_ok_run]
                simp only [found]
              obtain ⟨made, adds, returned⟩ := ih claimed scheduler within known
              rw [run]
              have tasks : (rest.filter (offers matcher candidates held)).Sublist
                  ((request :: rest).filter (offers matcher candidates held)) :=
                (List.sublist_cons_self _ _).filter _
              exact ⟨made, { adds with tasks := adds.tasks.trans (tasks.map _) }, returned⟩
          | some selected =>
              have unheld := List.find?_some found
              simp only [Bool.not_eq_true', List.contains_eq_mem, decide_eq_false_iff_not] at unheld
              have free : scheduler.activeByAgent.get selected.agent.agentId = none := by
                cases held_ : scheduler.activeByAgent.get selected.agent.agentId with
                | none => rfl
                | some other =>
                    exact absurd
                      (known _ ((Assoc.get_isSome _ _).mp (Option.isSome_of_eq_some held_))) unheld
              obtain ⟨assignment, middle, assigns, agent, first⟩ :=
                assign_adds fresh clock request free
              have run :
                scheduleEach matcher fresh clock candidates (request :: rest) claimed scheduler =
                  (scheduleEach matcher fresh clock candidates rest
                    (assignment.agentId :: claimed) >>=
                    fun later => pure (assignment :: later)) middle := by
                rw [scheduleEach, matched, resume_ok_run]
                simp only [found]
                rw [run_ok assigns]
              have offered := offers_unclaimed matched found within
              obtain ⟨made, adds, returned⟩ := ih (assignment.agentId :: claimed) middle
                (fun agent among => List.mem_cons_of_mem _ (within agent among)) (by
                  intro agent among
                  rw [first.active, List.map_append] at among
                  rcases List.mem_append.mp among with early | late
                  · exact List.mem_cons_of_mem _ (known agent early)
                  · obtain rfl := List.mem_singleton.mp late
                    exact List.mem_cons_self)
              have both := adds_append first adds
              rw [run, List.filter_cons_of_pos offered]
              rcases ends : scheduleEach matcher fresh clock candidates rest
                  (assignment.agentId :: claimed) middle with ⟨_ | list, last⟩
              · rw [run_error ends]
                rw [ends] at both
                exact ⟨assignment :: made, both, nofun⟩
              · rw [run_ok ends]
                rw [ends] at both returned
                refine ⟨assignment :: made, both, fun other same => ?_⟩
                rw [← Except.ok.inj same, returned list rfl]

/-- A call of `schedule` appends its assignments to both collections, also when it raises. -/
theorem schedule_adds (matcher : AgentMatchingRequest → List AgentCandidate →
      Except ValidationError AgentMatchingResult)
    (fresh : Nat → UUID) (clock : Nat → ℚ) (candidates : List AgentCandidate)
    (requests : List ProjectScheduleRequest) (scheduler : ProjectScheduler) :
    ∃ made, Adds ((requests.insertionSort comesBefore).filter
          (offers matcher candidates (scheduler.activeByAgent.entries.map Prod.fst))) scheduler
        (schedule matcher fresh clock requests candidates scheduler).2 made ∧
      ∀ list, (schedule matcher fresh clock requests candidates scheduler).1 = .ok list →
      list = made :=
  scheduleEach_adds _ _ _ _ (fun _ among => among) fun _ among => among

theorem adds_consistent {requests : List ProjectScheduleRequest} {before after : ProjectScheduler}
    {made : List AgentAssignment} (adds : Adds requests before after made)
    (consistent : Consistent before) : Consistent after where
  listed := by
    have kept : made.filter AgentAssignment.isActive = made :=
      List.filter_eq_self.mpr fun assignment among => decide_eq_true (adds.status assignment among)
    rw [adds.history, adds.active, List.filter_append, List.map_append, consistent.listed, kept,
      List.map_map]
    exact congrArg _ (List.map_id _).symm
  keyed := by
    intro entry among
    rw [adds.active] at among
    rcases List.mem_append.mp among with early | late
    · exact consistent.keyed entry early
    · obtain ⟨assignment, _, rfl⟩ := List.mem_map.mp late
      rfl

end Scheduling

section Release

theorem findIdx_split {α : Type} (chosen : α → Bool) {items : List α}
    (there : ∃ item ∈ items, chosen item = true) :
    ∃ place front item back, items.findIdx? chosen = some place ∧ items = front ++ item :: back ∧
      chosen item = true ∧ ∀ other, items.set place other = front ++ other :: back := by
  induction items with
  | nil =>
      obtain ⟨_, among, _⟩ := there
      cases among
  | cons head rest ih =>
      by_cases first : chosen head = true
      · exact ⟨0, [], head, rest, by rw [List.findIdx?_cons, if_pos first], rfl,
          first, fun _ => rfl⟩
      · obtain ⟨item, among, holds⟩ := there
        rcases List.mem_cons.mp among with rfl | later
        · exact absurd holds first
        · obtain ⟨place, front, found, back, index, split, holds_, places⟩ :=
            ih ⟨item, later, holds⟩
          refine ⟨place + 1, head :: front, found, back, ?_, by rw [split]; rfl, holds_,
            fun other => ?_⟩
          · rw [List.findIdx?_cons, if_neg first, index]
            rfl
          · rw [List.set_cons_succ, places other]
            rfl

def Rewritten (gone : List AgentAssignment) (old new : AgentAssignment) : Prop :=
  if old ∈ gone then ∃ time, new = old.released time else new = old

variable {scheduler : ProjectScheduler} {clock : Nat → ℚ} {project : UUID}

theorem consistent_entries (consistent : Consistent scheduler) : scheduler.activeByAgent.entries =
    (scheduler.history.filter AgentAssignment.isActive).map
      fun assignment => (assignment.agentId, assignment) := by
  rw [consistent.listed, List.map_map]
  refine ((List.map_congr_left fun entry among => ?_).trans (List.map_id _)).symm
  exact Prod.ext (consistent.keyed entry among) rfl

theorem release_one (consistent : Consistent scheduler) {agent : UUID}
    {assignment : AgentAssignment}
    (among : (agent, assignment) ∈ scheduler.activeByAgent.entries) (time : ℚ) :
    ∃ place, scheduler.history.findIdx? (fun entry => decide (entry = assignment)) = some place ∧
      List.Forall₂ (Rewritten [assignment]) scheduler.history
        (scheduler.history.set place (assignment.released time)) ∧
      (scheduler.history.set place (assignment.released time)).filter AgentAssignment.isActive =
        (scheduler.activeByAgent.pop agent).entries.map Prod.snd := by
  obtain ⟨member, active⟩ := consistent_active consistent among
  have own : assignment.agentId = agent := consistent.keyed _ among
  obtain ⟨place, front, item, back, index, split, same, places⟩ :=
    findIdx_split (fun entry => decide (entry = assignment))
      ⟨assignment, member, decide_eq_true rfl⟩
  obtain rfl : item = assignment := of_decide_eq_true same
  have unique := consistent_unique consistent
  have entries := consistent_entries consistent
  have live : item.isActive = true := decide_eq_true active
  rw [split, List.filter_append, List.filter_cons_of_pos live] at unique entries
  rw [List.map_append, List.map_cons] at unique
  have apart : ∀ other, other ∈ front ∨ other ∈ back → other.status = .active →
      other.agentId ≠ agent := by
    intro other side live
    have listed :
      other.agentId ∈ (front.filter AgentAssignment.isActive).map AgentAssignment.agentId ∨
        other.agentId ∈ (back.filter AgentAssignment.isActive).map AgentAssignment.agentId :=
      side.imp (fun there => List.mem_map_of_mem (List.mem_filter.mpr ⟨there, decide_eq_true live⟩))
        fun there => List.mem_map_of_mem (List.mem_filter.mpr ⟨there, decide_eq_true live⟩)
    rw [← own]
    rintro same
    rw [same] at listed
    obtain ⟨_, second, disjoint⟩ := List.nodup_append.mp unique
    rcases listed with first | last
    · exact disjoint _ first _ List.mem_cons_self rfl
    · exact (List.nodup_cons.mp second).1 last
  refine ⟨place, index, ?_, ?_⟩
  · rw [places, split]
    have alone : ∀ other, other ∈ front ∨ other ∈ back → other ≠ item := by
      rintro other side rfl
      exact apart other side active own
    have same_ : ∀ other, other ∈ front ∨ other ∈ back → Rewritten [item] other other := by
      intro other side
      unfold Rewritten
      rw [if_neg fun there => alone other side (List.mem_singleton.mp there)]
    have changed : Rewritten [item] item (item.released time) := by
      unfold Rewritten
      rw [if_pos List.mem_cons_self]
      exact ⟨time, rfl⟩
    exact List.rel_append (List.forall₂_same.mpr fun other there => same_ other (.inl there))
      (.cons changed (List.forall₂_same.mpr fun other there => same_ other (.inr there)))
  · have kept : ∀ part : List AgentAssignment, (∀ other ∈ part, other ∈ front ∨ other ∈ back) →
        (part.filter AgentAssignment.isActive).filter
          (fun other => decide (other.agentId ≠ agent)) =
          part.filter AgentAssignment.isActive := by
      intro part side
      refine List.filter_eq_self.mpr fun other there => decide_eq_true ?_
      obtain ⟨among, live⟩ := List.mem_filter.mp there
      exact apart other (side other among) (of_decide_eq_true live)
    have gone : (item.released time).isActive = false := rfl
    have left : (front ++ item.released time :: back).filter AgentAssignment.isActive =
        front.filter AgentAssignment.isActive ++ back.filter AgentAssignment.isActive := by
      rw [List.filter_append, List.filter_cons_of_neg (by rw [gone]; exact Bool.false_ne_true)]
    have right : (Assoc.erase agent scheduler.activeByAgent.entries).map Prod.snd =
        (front.filter AgentAssignment.isActive ++ item ::
          back.filter AgentAssignment.isActive).filter
          fun other => decide (other.agentId ≠ agent) := by
      unfold Assoc.erase
      rw [entries, List.filter_map, List.map_map]
      exact List.map_id _
    rw [places, left]
    refine Eq.trans ?_ right.symm
    rw [List.filter_append, kept front fun _ => .inl, List.filter_cons_of_neg (by simp [own]),
      kept back fun _ => .inr]

theorem rewritten_trans {assignment : AgentAssignment}
    {gone first second third : List AgentAssignment}
    (active : ∀ other ∈ gone, other.status = .active)
    (left : List.Forall₂ (Rewritten [assignment]) first second)
    (right : List.Forall₂ (Rewritten gone) second third) :
    List.Forall₂ (Rewritten (assignment :: gone)) first third := by
  induction left generalizing third with
  | nil =>
      cases right
      exact .nil
  | @cons old middle rest others head tail ih =>
      obtain _ | ⟨next, later⟩ := right
      refine .cons ?_ (ih later)
      unfold Rewritten at head next ⊢
      by_cases same : old = assignment
      · rw [if_pos (same ▸ List.mem_cons_self)] at head ⊢
        obtain ⟨time, rfl⟩ := head
        have absent : old.released time ∉ gone := fun among => by cases active _ among
        rw [if_neg absent] at next
        exact ⟨time, next⟩
      · rw [if_neg fun there => same (List.mem_singleton.mp there)] at head
        subst head
        simpa [List.mem_cons, same] using next

def ownedBy (project : UUID) (entries : List (UUID × AgentAssignment)) : List AgentAssignment :=
  (entries.map Prod.snd).filter fun assignment => decide (assignment.projectId = project)

theorem releaseEach_ok (clock : Nat → ℚ) (project : UUID) {rest : List (UUID × AgentAssignment)}
    (consistent : Consistent scheduler)
    (part : ∀ entry ∈ rest, entry ∈ scheduler.activeByAgent.entries)
    (unique : (rest.map Prod.fst).Nodup) :
    ∃ after, releaseEach clock project rest scheduler = (.ok (ownedBy project rest).length, after) ∧
      Consistent after ∧
      after.activeByAgent.entries =
        scheduler.activeByAgent.entries.filter
          (fun entry => decide (entry.2 ∉ ownedBy project rest)) ∧
      List.Forall₂ (Rewritten (ownedBy project rest)) scheduler.history after.history := by
  induction rest generalizing scheduler with
  | nil =>
      refine ⟨scheduler, rfl, consistent, (List.filter_eq_self.mpr fun _ _ => rfl).symm, ?_⟩
      exact List.forall₂_same.mpr fun _ _ => rfl
  | cons entry rest ih =>
      obtain ⟨agent, assignment⟩ := entry
      obtain ⟨outside, uniqueRest⟩ := List.nodup_cons.mp unique
      by_cases owned : assignment.projectId = project
      · have among := part _ List.mem_cons_self
        obtain ⟨place, index, rewritten, listed⟩ :=
          release_one consistent among (clock scheduler.draws)
        let middle : ProjectScheduler :=
          ⟨scheduler.activeByAgent.pop agent,
            scheduler.history.set place (assignment.released (clock scheduler.draws)),
            scheduler.draws + 1⟩
        have run : releaseEach clock project ((agent, assignment) :: rest) scheduler =
            (releaseEach clock project rest >>= fun more => pure (more + 1)) middle := by
          rw [releaseEach, if_neg (not_not_intro owned), look_run, update_run]
          simp only [index]
          rfl
        have popped : ∀ entry, entry ∈ middle.activeByAgent.entries ↔
            entry ∈ scheduler.activeByAgent.entries ∧ entry.1 ≠ agent := by
          intro entry
          exact List.mem_filter.trans (and_congr_right fun _ => decide_eq_true_iff)
        have kept : Consistent middle :=
          ⟨listed, fun entry there => consistent.keyed entry ((popped entry).mp there).1⟩
        obtain ⟨after, ends, last, active, history⟩ :=
          ih kept (fun entry there => (popped entry).mpr
          ⟨part entry (List.mem_cons_of_mem _ there), fun same =>
            outside (List.mem_map.mpr ⟨entry, there, same⟩)⟩) uniqueRest
        have gone : ownedBy project ((agent, assignment) :: rest) = assignment ::
            ownedBy project rest := by
          unfold ownedBy
          exact List.filter_cons_of_pos (by simpa using owned)
        rw [gone, run, run_ok ends]
        refine ⟨after, rfl, last, ?_, rewritten_trans ?_ rewritten history⟩
        · rw [active]
          show ((scheduler.activeByAgent.entries.filter fun entry =>
            decide (entry.1 ≠ agent)).filter _) = _
          rw [List.filter_filter]
          refine List.filter_congr fun entry there => ?_
          have same : entry.1 = agent ↔ entry.2 = assignment := by
            refine ⟨fun own => ?_, fun own => ?_⟩
            · have first := (scheduler.activeByAgent.mem_entries entry.1 entry.2).mp there
              rw [own, (scheduler.activeByAgent.mem_entries agent assignment).mp among] at first
              exact (Option.some.inj first).symm
            · rw [← consistent.keyed entry there, own]
              exact consistent.keyed _ among
          simp only [List.mem_cons, same, not_or, ne_eq, Bool.decide_and, Bool.and_comm]
        · intro other there
          obtain ⟨entry, listedEntry, rfl⟩ := List.mem_map.mp (List.mem_filter.mp there).1
          exact (consistent_active consistent (part entry (List.mem_cons_of_mem _ listedEntry))).2
      · have gone : ownedBy project ((agent, assignment) :: rest) = ownedBy project rest := by
          unfold ownedBy
          rw [List.map_cons, List.filter_cons_of_neg (by simpa using owned)]
        have run : releaseEach clock project ((agent, assignment) :: rest) scheduler =
            releaseEach clock project rest scheduler := by
          rw [releaseEach, if_pos owned]
        rw [gone, run]
        exact ih consistent (fun entry among => part entry (List.mem_cons_of_mem _ among))
          uniqueRest

/-- What a release of a project leaves: its active assignments are released, and nothing else. -/
theorem releaseProject_ok (clock : Nat → ℚ) (consistent : Consistent scheduler) (project : UUID) :
    ∃ after, releaseProject clock project scheduler =
        (.ok (ownedBy project scheduler.activeByAgent.entries).length, after) ∧ Consistent after ∧
      after.activeByAgent.entries =
        scheduler.activeByAgent.entries.filter (fun entry => decide (entry.2.projectId ≠ project)) ∧
      List.Forall₂ (fun old new => if old.status = .active ∧ old.projectId = project then
          ∃ time, new = old.released time else new = old) scheduler.history after.history := by
  obtain ⟨after, ends, last, active, history⟩ :=
    releaseEach_ok clock project consistent (fun _ there => there)
      scheduler.activeByAgent.unique
  refine ⟨after, ends, last, ?_, ?_⟩
  · rw [active]
    refine List.filter_congr fun entry there => ?_
    unfold ownedBy
    simp only [List.mem_filter, decide_eq_true_eq, List.mem_map_of_mem there, true_and, ne_eq]
  · have among := (List.forall₂_and_left _ _).mpr ⟨fun _ there => there, history⟩
    refine among.imp fun old new both => ?_
    have mine : old ∈ ownedBy project scheduler.activeByAgent.entries ↔
        old.status = .active ∧ old.projectId = project := by
      unfold ownedBy
      rw [← consistent.listed, List.mem_filter, List.mem_filter, decide_eq_true_eq]
      unfold AgentAssignment.isActive
      rw [decide_eq_true_eq, and_iff_right both.1]
    have step := both.2
    unfold Rewritten at step
    simpa only [mine] using step

end Release

section Histories

def Settles (before after : AgentAssignment) : Prop :=
  after = before ∨ before.status = .active ∧ ∃ time, after = before.released time

theorem settles_trans {first second third : AgentAssignment} (left : Settles first second)
    (right : Settles second third) : Settles first third := by
  rcases left with rfl | ⟨active, time, rfl⟩
  · exact right
  · rcases right with rfl | ⟨again, _⟩
    · exact .inr ⟨active, time, rfl⟩
    · cases again

theorem forall₂_split {α β : Type} {related : α → β → Prop} {front back : List α} {whole : List β}
    (pairs : List.Forall₂ related (front ++ back) whole) :
    ∃ first second, whole = first ++ second ∧ List.Forall₂ related front first ∧
      List.Forall₂ related back second := by
  induction front generalizing whole with
  | nil => exact ⟨[], whole, rfl, .nil, pairs⟩
  | cons item rest ih =>
      obtain _ | ⟨head, tail⟩ := pairs
      obtain ⟨first, second, rfl, left, right⟩ := ih tail
      exact ⟨_ :: first, second, rfl, .cons head left, right⟩

theorem forall₂_trans {α : Type} {related : α → α → Prop} {first second third : List α}
    (transitive : ∀ a b c, related a b → related b c → related a c)
    (left : List.Forall₂ related first second) (right : List.Forall₂ related second third) :
    List.Forall₂ related first third := by
  induction left generalizing third with
  | nil => exact right
  | cons head _ ih =>
      obtain _ | ⟨next, later⟩ := right
      exact .cons (transitive _ _ _ head next) (ih later)

/-- A later history: entries keep their places, an active one may have been released, and new ones
are at the end. -/
def Continues (old new : List AgentAssignment) : Prop :=
  ∃ kept added, new = kept ++ added ∧ List.Forall₂ Settles old kept

theorem continues_refl (history : List AgentAssignment) : Continues history history :=
  ⟨history, [], (List.append_nil _).symm, List.forall₂_same.mpr fun _ _ => .inl rfl⟩

theorem continues_trans {first second third : List AgentAssignment} (left : Continues first second)
    (right : Continues second third) : Continues first third := by
  obtain ⟨kept, added, rfl, before⟩ := left
  obtain ⟨again, more, rfl, after⟩ := right
  obtain ⟨front, back, rfl, old, _⟩ := forall₂_split after
  refine ⟨front, back ++ more, List.append_assoc _ _ _, ?_⟩
  exact forall₂_trans (fun _ _ _ => settles_trans) before old

end Histories

section Runs

variable (matcher : AgentMatchingRequest → List AgentCandidate →
    Except ValidationError AgentMatchingResult)
  (fresh : Nat → UUID) (clock : Nat → ℚ)

theorem perform_consistent {scheduler : ProjectScheduler} (consistent : Consistent scheduler)
    (call : Call) : Consistent (perform matcher fresh clock scheduler call) ∧
      Continues scheduler.history (perform matcher fresh clock scheduler call).history := by
  cases call with
  | schedule requests candidates =>
      obtain ⟨made, adds, _⟩ := schedule_adds matcher fresh clock candidates requests scheduler
      exact ⟨adds_consistent adds consistent, scheduler.history, made, adds.history,
        List.forall₂_same.mpr fun _ _ => .inl rfl⟩
  | release project =>
      obtain ⟨after, ends, last, _, rewritten⟩ := releaseProject_ok clock consistent project
      show Consistent (releaseProject clock project scheduler).2 ∧
        Continues _ (releaseProject clock project scheduler).2.history
      rw [ends]
      refine ⟨last, after.history, [], (List.append_nil _).symm,
        rewritten.imp fun old new step => ?_⟩
      split at step
      · next both => exact .inr ⟨both.1, step⟩
      · exact .inl step

theorem performed_consistent (calls : List Call) : Consistent
    (performed matcher fresh clock calls) := by
  induction calls using List.reverseRecOn with
  | nil => exact ⟨rfl, nofun⟩
  | append_singleton calls call ih =>
      unfold performed at ih ⊢
      rw [List.foldl_append]
      exact (perform_consistent matcher fresh clock ih call).1

theorem performed_continues (calls more : List Call) :
    Continues (performed matcher fresh clock calls).history
      (performed matcher fresh clock (calls ++ more)).history := by
  induction more using List.reverseRecOn with
  | nil =>
      rw [List.append_nil]
      exact continues_refl _
  | append_singleton more call ih =>
      have step := (perform_consistent matcher fresh clock
        (performed_consistent matcher fresh clock (calls ++ more)) call).2
      have last : performed matcher fresh clock (calls ++ (more ++ [call])) =
          perform matcher fresh clock (performed matcher fresh clock (calls ++ more)) call := by
        unfold performed
        rw [← List.append_assoc, List.foldl_append]
        rfl
      rw [last]
      exact continues_trans ih step

/-- Over any calls: the active map is the active part of the history, an agent is active once, no
entry is lost or moved, a call of `schedule` appends its new active assignments and nothing else,
and a release of a project releases its active assignments and no others. -/
theorem assignments_consistent (calls : List Call) :
    let scheduler := performed matcher fresh clock calls
    Consistent scheduler ∧
      ((scheduler.history.filter AgentAssignment.isActive).map AgentAssignment.agentId).Nodup ∧
      (∀ more, Continues scheduler.history
        (performed matcher fresh clock (calls ++ more)).history) ∧
      (∀ requests candidates, ∃ made,
        (schedule matcher fresh clock requests candidates scheduler).2.history =
          scheduler.history ++ made ∧
          (∀ assignment ∈ made, assignment.status = .active) ∧
          ∀ list, (schedule matcher fresh clock requests candidates scheduler).1 = .ok list →
          list = made) ∧
      ∀ project, ∃ after, releaseProject clock project scheduler =
          (.ok (ownedBy project scheduler.activeByAgent.entries).length, after) ∧
        after.activeByAgent.entries =
          scheduler.activeByAgent.entries.filter
            (fun entry => decide (entry.2.projectId ≠ project)) ∧
        List.Forall₂ (fun old new => if old.status = .active ∧ old.projectId = project then
            ∃ time, new = old.released time else new = old) scheduler.history after.history := by
  intro scheduler
  have consistent := performed_consistent matcher fresh clock calls
  refine ⟨consistent, consistent_unique consistent, performed_continues matcher fresh clock calls,
    ?_, ?_⟩
  · intro requests candidates
    obtain ⟨made, adds, returned⟩ := schedule_adds matcher fresh clock candidates requests scheduler
    exact ⟨made, adds.history, adds.status, returned⟩
  · intro project
    obtain ⟨after, ends, _, active, history⟩ := releaseProject_ok clock consistent project
    exact ⟨after, ends, active, history⟩

end Runs

section Tasks

variable (matcher : AgentMatchingRequest → List AgentCandidate →
    Except ValidationError AgentMatchingResult)
  (fresh : Nat → UUID) (clock : Nat → ℚ)

def AgentAssignment.task (assignment : AgentAssignment) : UUID × UUID :=
  (assignment.projectId, assignment.taskId)

def ProjectScheduleRequest.task (request : ProjectScheduleRequest) : UUID × UUID :=
  (request.projectId, request.taskId)

def activeTasks (scheduler : ProjectScheduler) : List (UUID × UUID) :=
  (scheduler.history.filter AgentAssignment.isActive).map AgentAssignment.task

def OnePerTask (scheduler : ProjectScheduler) : Prop := (activeTasks scheduler).Nodup

instance (scheduler : ProjectScheduler) : Decidable (OnePerTask scheduler) :=
  inferInstanceAs (Decidable (activeTasks scheduler).Nodup)

/-- The requests for which a free agent is offered name each task once, and none that is active. -/
def Distinct (scheduler : ProjectScheduler) : Call → Prop
  | .schedule requests candidates =>
      let eligible := requests.filter
        (offers matcher candidates (scheduler.activeByAgent.entries.map Prod.fst))
      (eligible.map ProjectScheduleRequest.task).Nodup ∧
        ∀ request ∈ eligible, request.task ∉ activeTasks scheduler
  | .release _ => True

theorem perform_onePerTask {scheduler : ProjectScheduler} (consistent : Consistent scheduler)
    {call : Call} (distinct : Distinct matcher scheduler call) (one : OnePerTask scheduler) :
    OnePerTask (perform matcher fresh clock scheduler call) := by
  cases call with
  | schedule requests candidates =>
      obtain ⟨unique, free⟩ := distinct
      obtain ⟨made, adds, _⟩ := schedule_adds matcher fresh clock candidates requests scheduler
      have same := ((List.perm_insertionSort comesBefore requests).filter
        (offers matcher candidates (scheduler.activeByAgent.entries.map Prod.fst)))
      have tasks := adds.tasks
      have kept : made.filter AgentAssignment.isActive = made :=
        List.filter_eq_self.mpr fun assignment among =>
          decide_eq_true (adds.status assignment among)
      have whole : activeTasks (schedule matcher fresh clock requests candidates scheduler).2 =
          activeTasks scheduler ++ made.map AgentAssignment.task := by
        unfold activeTasks
        rw [adds.history, List.filter_append, List.map_append, kept]
      show (activeTasks (schedule matcher fresh clock requests candidates scheduler).2).Nodup
      rw [whole]
      refine List.nodup_append.mpr ⟨one,
        ((same.map ProjectScheduleRequest.task).nodup_iff.mpr unique).sublist
        tasks, ?_⟩
      rintro task held _ added rfl
      obtain ⟨request, among, rfl⟩ := List.mem_map.mp (tasks.subset added)
      exact free request (same.mem_iff.mp among) held
  | release project =>
      obtain ⟨after, ends, last, active, _⟩ := releaseProject_ok clock consistent project
      show (activeTasks (releaseProject clock project scheduler).2).Nodup
      unfold OnePerTask activeTasks at one
      rw [ends]
      unfold activeTasks
      rw [last.listed, active]
      rw [consistent.listed] at one
      exact one.sublist ((List.filter_sublist.map _).map _)

/-- Where eligible requests are for distinct tasks that are not active, a task is active once. -/
theorem tasks_once {scheduler : ProjectScheduler}
    (run : Transition.Reaches (fun before call => some (perform matcher fresh clock before call))
      (Distinct matcher) .initial scheduler) : OnePerTask scheduler := by
  refine run.invariant_under Consistent OnePerTask ⟨rfl, nofun⟩ List.nodup_nil ?_ ?_
  · intro before call after consistent _ step
    cases step
    exact (perform_consistent matcher fresh clock consistent call).1
  · intro before call after consistent one distinct step
    cases step
    exact perform_onePerTask matcher fresh clock consistent distinct one

end Tasks

section Sample

def sampleCandidate (agent : UUID) : AgentCandidate where
  agentId := agent
  slug := ⟨"agent", by decide⟩
  seniority := .senior
  status := .available
  autonomyLevel := 2
  reputation := ⟨8000, by decide⟩
  reliability := ⟨8000, by decide⟩
  capabilities := [⟨⟨"backend", by decide⟩, ⟨9000, by decide⟩⟩]
  activePermissions := []
  autonomy_valid := by decide
  capabilities_few := by decide
  capabilities_unique := List.nodup_singleton _
  permissions_unique := List.nodup_nil

def sampleScheduleRequest : ProjectScheduleRequest where
  projectId := 7
  taskId := 8
  projectPriority := 50
  matchingRequest :=
    { projectId := 7
      workstream := ⟨⟨"payments", by decide⟩, [⟨"backend", by decide⟩], by decide,
        List.nodup_singleton _⟩
      requiredPermissions := []
      minimumSeniority := .engineer
      riskLevel := .high
      costEstimates := [⟨1, ⟨1000, by decide⟩⟩, ⟨2, ⟨1000, by decide⟩⟩]
      limit := 10
      permissions_valid := by decide
      costs_few := by decide
      costs_unique := by decide
      limit_valid := by decide }
  priority_valid := by decide
  scope_valid := rfl

def requestFor (task : UUID) : ProjectScheduleRequest :=
  { sampleScheduleRequest with taskId := task, scope_valid := rfl }

/-- One task that is requested twice gets two agents. -/
theorem task_twice : ¬ OnePerTask (performed matchAgents (fun n => n) (fun _ => 0)
    [.schedule [sampleScheduleRequest, sampleScheduleRequest] [sampleCandidate 1,
      sampleCandidate 2]]) := by
  decide +kernel

def twoTasks : Call := .schedule [requestFor 8, requestFor 9] [sampleCandidate 1, sampleCandidate 2]

def sameAgain : Call := .schedule [requestFor 9, requestFor 10]
    [sampleCandidate 1, sampleCandidate 2]

def sampleAfter (calls : List Call) : ProjectScheduler :=
  performed matchAgents (fun n => n) (fun _ => 0) calls

/-- Two tasks are assigned and released, and then one of them is assigned again. -/
theorem tasks_once_sample :
    activeTasks (sampleAfter [twoTasks]) = [(7, 8), (7, 9)] ∧
      activeTasks (sampleAfter [twoTasks, .release 7, sameAgain]) = [(7, 9), (7, 10)] ∧
      OnePerTask (sampleAfter [twoTasks, .release 7, sameAgain]) := by
  have observed : Distinct matchAgents .initial twoTasks ∧
      Distinct matchAgents (sampleAfter [twoTasks, .release 7]) sameAgain ∧
      activeTasks (sampleAfter [twoTasks]) = [(7, 8), (7, 9)] ∧
      activeTasks (sampleAfter [twoTasks, .release 7, sameAgain]) = [(7, 9), (7, 10)] := by
    unfold twoTasks sameAgain Distinct
    decide +kernel
  obtain ⟨start, again, first, last⟩ := observed
  have released : Distinct matchAgents (sampleAfter [twoTasks]) (.release 7) := trivial
  exact ⟨first, last, tasks_once matchAgents (fun n => n) (fun _ => 0)
    (.tail (.tail (.tail .refl start rfl) released rfl) again rfl)⟩

end Sample

end SynapseOS.Scheduling
