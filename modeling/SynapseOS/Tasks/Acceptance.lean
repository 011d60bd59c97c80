import SynapseOS.Tasks.History

/-! A flush accepts what the transitions explain. -/

namespace SynapseOS.Tasks

open Execution Program Tools Workflows

section Accepting

variable {s : Traced} {task : UUID}

/-- The guard walks the events of the transitions as they were made. -/
theorem auditChain_links {session : Session} {transitions : List Made}
    (logged : ∀ made ∈ transitions, Logged session task made) (project : UUID)
    (first last : TaskStatus) :
    auditChain session task (some project) first (transitions.map Made.event) = some last ↔
      Links first transitions last ∧ ∀ made ∈ transitions, ∃ event,
        session.new.get made.event = some event ∧ event.projectId = project := by
  induction transitions generalizing first with
  | nil => simp [auditChain, Links]
  | cons made rest ih =>
      have later := ih (fun other among => logged other (List.mem_cons_of_mem _ among)) made.target
      have own := (logged made List.mem_cons_self).2
      simp only [List.map_cons, auditChain, Links, List.forall_mem_cons]
      cases found : session.new.get made.event with
      | none => simp
      | some event =>
          obtain ⟨context, place, valid, rfl⟩ := own event found
          simp only [TransitionContext.valid, Bool.and_eq_true, Bool.or_eq_true,
            decide_eq_true_eq] at valid
          have actor : context.actorType = .system ∨
              ¬ strip ((context.actorId.map strip).getD []) = [] := by
            rcases valid.2 with system | named
            · exact .inl system
            · cases given : context.actorId with
              | none =>
                  rw [given] at named
                  exact .inr named
              | some actor =>
                  rw [given] at named
                  exact .inr (strip_strip named)
          have reason : ¬ strip (strip context.reason) = [] := strip_strip valid.1
          simp only [transitionEvent, Option.some.injEq, exists_eq_left', Option.isSome_some, actor,
            reason, true_and, ne_eq, not_false_eq_true, and_true]
          split
          · next same =>
              rw [later]
              constructor
              · rintro ⟨links, projects⟩
                exact ⟨⟨same.2, links⟩, same.1, projects⟩
              · rintro ⟨⟨_, links⟩, _, projects⟩
                exact ⟨links, projects⟩
          · next different =>
              constructor
              · nofun
              · rintro ⟨⟨current, _⟩, place, _⟩
                exact absurd ⟨place, current⟩ different

theorem history_agrees {status : Attribute TaskStatus} {row : TaskStatus}
    (agrees : Agrees status row) :
    status.history = if row = status.read row then none else some (row, status.read row) := by
  unfold Agrees at agrees
  unfold Attribute.history Attribute.read
  cases original : status.original with
  | none =>
      rw [original] at agrees
      rcases agrees with expired | loaded
      · simp [expired]
      · simp [loaded]
  | some first =>
      rw [original] at agrees
      obtain ⟨same, held⟩ := agrees
      obtain ⟨value, found⟩ := Option.isSome_iff_exists.mp held
      subst same
      simp [found]

theorem accepts_iff_guard : Accepts s ↔
    (∀ task, rejectChange s.session task (s.session.object task) = none) ∧
      ∀ task authorization, s.session.authorizations.get task = some authorization →
        rejectLeftover s.session task authorization = none := by
  have guarded : Accepts s ↔ rejectUnauthorizedTaskStatusChanges s.session = none := by
    unfold Accepts
    cases rejected : rejectUnauthorizedTaskStatusChanges s.session with
    | none => simp [show flush quiet s.session = _ from flush_accepted rejected rfl rfl]
    | some e => simp [show flush quiet s.session = _ from flush_refused rejected rfl]
  have changes : (∀ task, rejectChange s.session task (s.session.object task) = none) ↔
      ∀ entry ∈ s.session.objects.entries, rejectChange s.session entry.1 entry.2 = none := by
    constructor
    · intro all entry among
      have held := (s.session.objects.mem_entries entry.1 entry.2).mp among
      have object : s.session.object entry.1 = entry.2 := by
        unfold Session.object
        rw [held]
        rfl
      rw [← object]
      exact all entry.1
    · intro all task
      unfold Session.object
      cases held : s.session.objects.get task with
      | none => rfl
      | some object => exact all (task, object) ((s.session.objects.mem_entries _ _).mpr held)
  rw [guarded, changes]
  unfold rejectUnauthorizedTaskStatusChanges
  cases first : s.session.objects.entries.findSome? fun entry =>
      rejectChange s.session entry.1 entry.2 with
  | some e =>
      obtain ⟨entry, among, refused⟩ := List.exists_of_findSome?_eq_some first
      constructor
      · nofun
      · intro all
        rw [all.1 entry among] at refused
        cases refused
  | none =>
      rw [List.findSome?_eq_none_iff] at first
      simp only [List.findSome?_eq_none_iff, Prod.forall, s.session.authorizations.mem_entries]
      exact ⟨fun leftovers => ⟨fun task object among => first (task, object) among, leftovers⟩,
        And.right⟩

section Guarded

variable (kept : Kept s task)

include kept

theorem nothing_pending : s.transitions task = [] ↔ s.session.authorizations.get task = none := by
  have authorizes := kept.authorizes
  cases held : s.session.authorizations.get task with
  | none =>
      rw [held] at authorizes
      exact ⟨fun _ => rfl, fun _ => authorizes⟩
  | some authorization =>
      rw [held] at authorizes
      exact ⟨fun empty => absurd empty authorizes.1, nofun⟩

/-- A task whose status differs from its row passes the guard by the chain of its transitions. -/
theorem changed_guard {row : TaskRow} (held : s.session.working.tasks.get task = some row)
    (changed : row.status ≠ (s.session.object task).status.read row.status) :
    rejectChange s.session task (s.session.object task) = none ↔
      Links row.status (s.transitions task) ((s.session.object task).status.read row.status) ∧
        ∀ made ∈ s.transitions task, ∃ event, s.session.new.get made.event = some event ∧
          event.projectId = ((s.session.object task).stored row).projectId := by
  have authorizes := kept.authorizes
  unfold rejectChange
  rw [history_agrees (kept.agrees row held), if_neg changed]
  dsimp only
  cases authorized : s.session.authorizations.get task with
  | none =>
      rw [(nothing_pending kept).mpr authorized]
      constructor
      · nofun
      · intro chain
        exact absurd chain.1 changed
  | some authorization =>
      rw [authorized] at authorizes
      obtain ⟨moved, events, links⟩ := authorizes
      have walks : hasMatchingAuditChain s.session task authorization = true ↔
          Links authorization.current (s.transitions task) authorization.target ∧
            ∀ made ∈ s.transitions task, ∃ event, s.session.new.get made.event = some event ∧
              event.projectId = ((s.session.object task).stored row).projectId := by
        unfold hasMatchingAuditChain
        rw [view_row held, events, decide_eq_true_iff]
        exact auditChain_links kept.logged _ _ _
      dsimp only
      constructor
      · intro accepted
        split at accepted
        · cases accepted
        · next matching =>
            simp only [not_or, not_not, Bool.not_eq_false] at matching
            obtain ⟨begins, arrives, matched⟩ := matching
            have chain := walks.mp matched
            rw [begins, arrives] at chain
            exact chain
      · intro chain
        have begins : authorization.current = row.status := by
          cases transitions : s.transitions task with
          | nil => exact absurd transitions moved
          | cons made rest =>
              rw [transitions] at links chain
              exact links.1.symm.trans chain.1.1
        rw [begins] at links walks
        have arrives := links_unique links chain.1
        rw [arrives] at walks
        rw [if_neg]
        simp only [not_or, not_not, Bool.not_eq_false]
        exact ⟨begins, arrives, walks.mpr chain⟩

theorem explained_guard : Explained s task ↔
    rejectChange s.session task (s.session.object task) = none ∧
      ∀ authorization, s.session.authorizations.get task = some authorization →
        rejectLeftover s.session task authorization = none := by
  cases held : s.session.working.tasks.get task with
  | none =>
      obtain ⟨expired, unchanged⟩ := kept.untouched held
      have empty : s.transitions task = [] := by
        unfold Traced.transitions
        rw [unchanged]
        rfl
      have explained : Explained s task := by
        constructor
        · intro first last starts
          unfold Traced.persisted at starts
          rw [held] at starts
          cases starts
        · rw [empty]
          nofun
        · exact fun stuck => stuck.1 empty
      refine iff_of_true explained ⟨?_, ?_⟩
      · unfold rejectChange
        rw [expired]
        rfl
      · rw [(nothing_pending kept).mp empty]
        nofun
  | some row =>
      have starts := persisted_held held
      have ends := current_held held
      have history := history_agrees (kept.agrees row held)
      by_cases same : row.status = (s.session.object task).status.read row.status
      · rw [if_pos same] at history
        have silent : rejectChange s.session task (s.session.object task) = none := by
          unfold rejectChange
          rw [history]
        have left : (∀ authorization, s.session.authorizations.get task = some authorization →
            rejectLeftover s.session task authorization = none) ↔ s.transitions task = [] := by
          rw [nothing_pending kept]
          unfold rejectLeftover
          rw [history]
          cases s.session.authorizations.get task <;> simp
        rw [left]
        constructor
        · intro explained
          refine ⟨silent, ?_⟩
          by_contra moved
          exact explained.moves ⟨moved, .inl (by rw [starts, ends, ← same])⟩
        · rintro ⟨_, empty⟩
          constructor
          · intro first last begins arrives
            rw [starts] at begins
            rw [ends, ← same] at arrives
            cases begins
            cases arrives
            rw [empty]
            rfl
          · rw [empty]
            nofun
          · exact fun stuck => stuck.1 empty
      · rw [if_neg same] at history
        have left : ∀ authorization, s.session.authorizations.get task = some authorization →
            rejectLeftover s.session task authorization = none := by
          intro authorization _
          unfold rejectLeftover
          rw [history]
        rw [changed_guard kept held same, and_iff_left left]
        have shown : s.session.view task = _ := view_row held
        constructor
        · intro explained
          refine ⟨explained.linked _ _ starts ends, fun made among => ?_⟩
          obtain ⟨event, found⟩ := Option.isSome_iff_exists.mp (explained.recorded made among)
          refine ⟨event, found, ?_⟩
          by_contra elsewhere
          refine explained.moves ⟨List.ne_nil_of_mem among, .inr ⟨made, among, event, found, ?_⟩⟩
          rw [shown]
          exact fun equal => elsewhere (Option.some.inj equal)
        · rintro ⟨links, found⟩
          constructor
          · intro first last begins arrives
            rw [starts] at begins
            rw [ends] at arrives
            cases begins
            cases arrives
            exact links
          · intro made among
            obtain ⟨event, there, _⟩ := found made among
            rw [there]
            rfl
          · rintro ⟨_, back | ⟨made, among, event, there, elsewhere⟩⟩
            · rw [starts, ends] at back
              exact same (Option.some.inj back).symm
            · obtain ⟨other, again, place⟩ := found made among
              rw [there] at again
              cases again
              rw [shown] at elsewhere
              exact elsewhere (congrArg some place)

end Guarded

theorem accepts_iff (kept : ∀ task, Kept s task) : Accepts s ↔ ∀ task, Explained s task := by
  rw [accepts_iff_guard]
  constructor
  · intro guard task
    exact (explained_guard (kept task)).mpr ⟨guard.1 task, guard.2 task⟩
  · intro explained
    exact ⟨fun task => ((explained_guard (kept task)).mp (explained task)).1,
      fun task => ((explained_guard (kept task)).mp (explained task)).2⟩

/-- The changes of a task are all transitions unless its status was written directly. -/
theorem all_made : s.changes task = (s.transitions task).map Change.made ↔ ¬ Written s task := by
  unfold Written Traced.transitions
  induction s.changes task with
  | nil => simp
  | cons change rest ih =>
      cases change with
      | made transition => simpa [List.filterMap_cons, Change.made?] using ih
      | written current target =>
          constructor
          · intro same
            have made : Change.written current target ∈ List.map Change.made
                ((Change.written current target :: rest).filterMap Change.made?) := by
              rw [← same]
              exact List.mem_cons_self
            obtain ⟨_, _, other⟩ := List.mem_map.mp made
            cases other
          · intro none
            exact absurd ⟨current, target, List.mem_cons_self⟩ none

theorem explained_chained (chained : Chained s task) : Explained s task ↔ ¬ Stuck s task :=
  ⟨Explained.moves, fun moves => ⟨chained.linked, chained.recorded, moves⟩⟩

theorem chained_explained (kept : Kept s task) (explained : Explained s task) :
    Chained s task ↔ ¬ Written s task :=
  ⟨fun chained => all_made.mp chained.all,
    fun none => ⟨all_made.mpr none, explained.linked, kept.allowed, explained.recorded⟩⟩

theorem links_path {transitions : List Made} {first last : TaskStatus}
    (links : Links first transitions last)
    (allowed : ∀ made ∈ transitions, canTransition made.current made.target = true) :
    Relation.ReflTransGen (fun current target => canTransition current target = true)
      first last := by
  induction transitions generalizing first with
  | nil => exact links ▸ .refl
  | cons made rest ih =>
      have edge := allowed made List.mem_cons_self
      rw [links.1] at edge
      exact .head edge (ih links.2 fun other among => allowed other (List.mem_cons_of_mem _ among))

theorem accepted_path (kept : ∀ task, Kept s task) (accepted : Accepts s) {first last : TaskStatus}
    (starts : s.persisted task = some first) (ends : (s.step .flush).persisted task = some last) :
    Relation.ReflTransGen (fun current target => canTransition current target = true)
      first last := by
  have flushes : flush quiet s.session = (.ok (), s.session.flushed) := by
    cases rejected : rejectUnauthorizedTaskStatusChanges s.session with
    | none => exact flush_accepted rejected rfl rfl
    | some e =>
        unfold Accepts at accepted
        rw [show flush quiet s.session = _ from flush_refused rejected rfl] at accepted
        cases accepted
  have stored : (s.step .flush).persisted task = s.current task := by
    unfold Traced.persisted Traced.step
    dsimp only
    rw [flushes]
    have rows : s.session.flushed.working.tasks.get task =
        (s.session.working.tasks.get task).map (s.session.object task).stored :=
      Dict.get_mapValues _ _ _
    exact congrArg (Option.map TaskRow.status) rows
  have explained := (accepts_iff kept).mp accepted task
  exact links_path (explained.linked first last starts (stored ▸ ends)) (kept task).allowed

end Accepting

/-- A flush accepts exactly the chains of transitions, unless a chain comes back to where it started
or leaves its project, or a direct write was undone. -/
theorem flush_accepts {session : Session} (opened : Opened session) (acts : List Act) :
    let s := (opening session).run acts
    ((Accepts s ↔ ∀ task, Chained s task) ↔
      ¬ ((∀ task, Chained s task) ∧ ∃ task, Stuck s task) ∧
        ¬ ((∃ task, Written s task) ∧ ∀ task, Explained s task)) ∧
      (Accepts s → ∀ task first last, s.persisted task = some first →
        (s.step .flush).persisted task = some last →
          Relation.ReflTransGen (fun current target => canTransition current target = true)
            first last) := by
  intro s
  have kept : ∀ task, Kept s task := kept_run (kept_opening opened) acts
  refine ⟨?_, fun accepted task first last => accepted_path kept accepted⟩
  rw [accepts_iff kept]
  constructor
  · intro same
    constructor
    · rintro ⟨chained, task, stuck⟩
      exact (same.mpr chained task).moves stuck
    · rintro ⟨⟨task, written⟩, explained⟩
      exact all_made.mp (same.mp explained task).all written
  · rintro ⟨unstuck, unwritten⟩
    constructor
    · intro explained task
      rw [chained_explained (kept task) (explained task)]
      exact fun written => unwritten ⟨⟨task, written⟩, explained⟩
    · intro chained task
      rw [explained_chained (chained task)]
      exact fun stuck => unstuck ⟨chained, task, stuck⟩

section Sample

def readySession : Session :=
  let rows : Dict UUID TaskRow := .set .empty 0 ⟨0, .ready, none⟩
  { committed := ⟨rows, []⟩
    working := ⟨rows, []⟩
    objects := .empty
    new := .empty
    authorizations := .empty
    nextEvent := 0 }

theorem opened_ready : Opened readySession where
  agrees _ _ _ := ⟨rfl, .inl rfl⟩
  untouched _ _ := rfl
  quiet := rfl

def asking : TransitionContext where
  actorType := .human
  actorId := some [65]
  reason := [66]

def roundTrip : List Act :=
  [.transition 0 .waitingHuman asking none, .transition 0 .ready asking none]

theorem flush_accepts_round :
    ((Accepts ((opening readySession).run roundTrip) ↔
        ∀ task, Chained ((opening readySession).run roundTrip) task) ↔
      ¬ ((∀ task, Chained ((opening readySession).run roundTrip) task) ∧
          ∃ task, Stuck ((opening readySession).run roundTrip) task) ∧
        ¬ ((∃ task, Written ((opening readySession).run roundTrip) task) ∧
          ∀ task, Explained ((opening readySession).run roundTrip) task)) ∧
      (Accepts ((opening readySession).run roundTrip) → ∀ task first last,
        ((opening readySession).run roundTrip).persisted task = some first →
          (((opening readySession).run roundTrip).step .flush).persisted task = some last →
            Relation.ReflTransGen (fun current target => canTransition current target = true)
              first last) :=
  flush_accepts opened_ready roundTrip

theorem round_refused : (∀ task, Chained ((opening readySession).run roundTrip) task) ∧
    ¬ Accepts ((opening readySession).run roundTrip) := by
  constructor
  · intro task
    by_cases own : task = 0
    · subst own
      have made : ((opening readySession).run roundTrip).transitions 0 =
          [⟨0, .ready, .waitingHuman⟩, ⟨1, .waitingHuman, .ready⟩] := rfl
      constructor
      · rfl
      · intro first last starts ends
        cases starts
        cases ends
        exact ⟨rfl, rfl, rfl⟩
      · rw [made]
        simp [canTransition, allowedTaskTransitions]
      · rw [made]
        simp only [List.forall_mem_cons, List.not_mem_nil, false_implies, implies_true, and_true]
        exact ⟨rfl, rfl⟩
    · have rows : ((opening readySession).run roundTrip).session.working.tasks.get task = none :=
        if_neg (Ne.symm own)
      have unchanged := (kept_run (kept_opening opened_ready) roundTrip task).untouched rows
      constructor
      · unfold Traced.transitions
        rw [unchanged.2]
        rfl
      · intro first last starts
        unfold Traced.persisted at starts
        rw [rows] at starts
        cases starts
      · unfold Traced.transitions
        rw [unchanged.2]
        nofun
      · unfold Traced.transitions
        rw [unchanged.2]
        nofun
  · intro accepted
    have refused : (flush quiet ((opening readySession).run roundTrip).session).1 =
        .error (.unauthorizedStatusChange .ready .ready) := rfl
    unfold Accepts at accepted
    rw [refused] at accepted
    cases accepted

end Sample

end SynapseOS.Tasks
