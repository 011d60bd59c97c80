import SynapseOS.Core.Fields
import SynapseOS.Lib.Successors
import SynapseOS.Memory.Service

/-! The chains of superseded memories over all interleavings of sessions. -/

namespace SynapseOS.Memory

open Execution Transition Relation Successors

namespace State

variable (state : State)

def Succeeds (old new : UUID) : Prop := (old, new) ∈ state.supersessions

def ids : List UUID := state.store.map fun entry => entry.id

end State

/-- Every memory has one successor at most, every chain ends in exactly one active memory, and a
search for active memories finds no two replacements of one. -/
structure Chained (state : State) : Prop where
  single : Relator.RightUnique state.Succeeds
  recorded : ∀ entry ∈ state.store, ∀ new, entry.supersededById = some new ↔
    state.Succeeds entry.id new
  ends : ∀ entry ∈ state.store, ∃! last, last ∈ state.store ∧ last.supersededById = none ∧
    ReflTransGen state.Succeeds entry.id last.id
  searches : ∀ contains (search : SearchQuery) results, search.activeOnly = true →
    search.results contains state.store = .ok results →
    results.Pairwise fun first second => ¬ ∃ memory,
      TransGen state.Succeeds memory first.id ∧ TransGen state.Succeeds memory second.id

/-- No session commits its supersession of a memory that was superseded in the meantime. -/
def Timely (state : State) (action : Action) : Prop :=
  ∀ session write old, action = .commit session → state.sessions session = .pending write →
    write.superseded = some old → ∀ entry ∈ state.store, entry.id = old →
    entry.supersededById = none

section Invariant

structure Linked (store : List MemoryEntry) (supersessions : List (UUID × UUID)) : Prop where
  distinct : (store.map fun entry => entry.id).Nodup
  recorded : ∀ entry ∈ store, ∀ new, entry.supersededById = some new ↔
    (entry.id, new) ∈ supersessions
  known : ∀ link ∈ supersessions, link.1 ∈ store.map fun entry => entry.id
  rises : ∀ link ∈ supersessions,
    (store.map fun entry => entry.id).idxOf link.1 <
      (store.map fun entry => entry.id).idxOf link.2 ∧
      (store.map fun entry => entry.id).idxOf link.2 < store.length

theorem Linked.rises_step {state : State} (linked : Linked state.store state.supersessions) :
    ∀ old new, state.Succeeds old new →
      state.ids.idxOf old < state.ids.idxOf new ∧ state.ids.idxOf new ≤ state.store.length := by
  intro old new link
  obtain ⟨before, within⟩ := linked.rises _ link
  exact ⟨before, within.le⟩

def Prepared (state : State) : Prop :=
  ∀ session write, state.sessions session = .pending write → write.added.supersededById = none ∧
    ∀ old, write.superseded = some old → old ∈ state.ids

variable {store : List MemoryEntry} {supersessions : List (UUID × UUID)}
    {entry : MemoryEntry} {old : UUID}

theorem linked_initial : Linked [] [] where
  distinct := List.nodup_nil
  recorded := nofun
  known := nofun
  rises := nofun

theorem markSuperseded_id (old new : UUID) (entry : MemoryEntry) :
    (markSuperseded old new entry).id = entry.id := by
  unfold markSuperseded
  split <;> rfl

theorem marked_ids (old new : UUID) (store : List MemoryEntry) :
    (store.map (markSuperseded old new)).map (fun entry => entry.id) = store.map fun entry =>
      entry.id := by
  rw [List.map_map]
  exact List.map_congr_left fun entry _ => markSuperseded_id old new entry

theorem linked_added (linked : Linked store supersessions)
    (fresh : entry.id ∉ store.map fun entry => entry.id)
    (active : entry.supersededById = none) : Linked (store ++ [entry]) supersessions := by
  have grown : (store ++ [entry]).map (fun entry => entry.id) = (store.map fun entry => entry.id) ++
      [entry.id] := by
    rw [List.map_append, List.map_singleton]
  refine ⟨?_, ?_, ?_, ?_⟩
  · rw [grown, List.nodup_append]
    refine ⟨linked.distinct, List.nodup_singleton _, fun id among other there same => fresh ?_⟩
    rw [← List.mem_singleton.mp there, ← same]
    exact among
  · intro item among new
    rcases List.mem_append.mp among with inside | last
    · exact linked.recorded item inside new
    · rw [List.mem_singleton.mp last, active]
      exact ⟨nofun, fun link => absurd (linked.known _ link) fresh⟩
  · intro link among
    rw [grown]
    exact List.mem_append_left _ (linked.known link among)
  · intro link among
    obtain ⟨before, within⟩ := linked.rises link among
    have later : link.2 ∈ store.map fun entry => entry.id := by
      rw [← List.idxOf_lt_length_iff, List.length_map]
      exact within
    rw [grown, List.idxOf_append_of_mem (linked.known link among), List.idxOf_append_of_mem later,
      List.length_append]
    exact ⟨before, by omega⟩

theorem linked_superseded (linked : Linked store supersessions)
    (fresh : entry.id ∉ store.map fun entry => entry.id) (active : entry.supersededById = none)
    (known : old ∈ store.map fun entry => entry.id)
    (current : ∀ item ∈ store, item.id = old → item.supersededById = none) :
    Linked (store.map (markSuperseded old entry.id) ++ [entry])
    (supersessions ++ [(old, entry.id)]) := by
  have added := linked_added linked fresh active
  have marked : (store.map (markSuperseded old entry.id) ++ [entry]).map (fun entry => entry.id) =
      (store ++ [entry]).map fun entry => entry.id := by
    rw [List.map_append, marked_ids, List.map_append]
  have other : old ≠ entry.id := fun same => fresh (same ▸ known)
  refine ⟨?_, ?_, ?_, ?_⟩
  · rw [marked]
    exact added.distinct
  · intro item among new
    rw [List.mem_append, List.mem_singleton, Prod.mk.injEq]
    rcases List.mem_append.mp among with inside | last
    · obtain ⟨source, there, rfl⟩ := List.mem_map.mp inside
      rw [markSuperseded_id]
      unfold markSuperseded
      split
      · next same =>
          have before := linked.recorded source there new
          rw [current source there same] at before
          have unlinked : (source.id, new) ∉ supersessions := fun link => nomatch before.mpr link
          rw [same] at unlinked
          simp [unlinked, same, eq_comm]
      · next apart => simp [linked.recorded source there new, apart]
    · rw [List.mem_singleton.mp last, active]
      refine ⟨nofun, fun link => ?_⟩
      rcases link with inside | ⟨same, _⟩
      · exact absurd (linked.known _ inside) fresh
      · exact absurd same.symm other
  · intro link among
    rw [marked]
    rcases List.mem_append.mp among with inside | last
    · exact added.known link inside
    · rw [List.mem_singleton.mp last, List.map_append]
      exact List.mem_append_left _ known
  · intro link among
    rw [marked, List.length_append, List.length_map, ← List.length_append]
    rcases List.mem_append.mp among with inside | last
    · exact added.rises link inside
    · rw [List.mem_singleton.mp last, List.map_append, List.map_singleton,
        List.idxOf_append_of_mem known, List.idxOf_append_of_notMem fresh, List.length_append]
      have place : (store.map fun entry => entry.id).idxOf old < store.length := by
        have inside := List.idxOf_lt_length_iff.mpr known
        rwa [List.length_map] at inside
      simp
      omega

theorem getById_none {id : UUID} (absent : getById store id = none) :
    id ∉ store.map fun entry => entry.id := by
  intro among
  obtain ⟨item, there, rfl⟩ := List.mem_map.mp among
  have missed := List.find?_eq_none.mp absent item there
  exact missed (decide_eq_true rfl)

theorem getById_mem {id : UUID} (found : getById store id = some entry) :
    entry ∈ store ∧ entry.id = id := by
  have picked := List.find?_some found
  exact ⟨List.mem_of_find?_eq_some found, of_decide_eq_true picked⟩

theorem createEntry_active {id : UUID} {createdAt : Nat} {request : CreateRequest}
    (made : createEntry id createdAt request = .ok entry) : entry.supersededById = none := by
  unfold createEntry at made
  obtain ⟨_, _, made⟩ := bind_ok made
  obtain ⟨_, _, made⟩ := bind_ok made
  obtain ⟨_, _, made⟩ := bind_ok made
  obtain ⟨_, _, made⟩ := bind_ok made
  obtain ⟨_, _, made⟩ := bind_ok made
  obtain ⟨_, _, made⟩ := bind_ok made
  cases made
  rfl

theorem run_prepares {call : Call} {id : UUID} {createdAt : Nat} {write : Write}
    (ran : call.run store id createdAt = .ok write) : write.added.supersededById = none ∧
      ∀ old, write.superseded = some old → old ∈ store.map fun entry => entry.id := by
  cases call with
  | create request =>
      obtain ⟨added, made, ran⟩ := bind_ok ran
      cases ran
      exact ⟨createEntry_active made, nofun⟩
  | supersede entryId title content source =>
      rw [Call.run] at ran
      split at ran
      · cases ran
      · next found read =>
          split at ran
          · cases ran
          · obtain ⟨added, made, ran⟩ := bind_ok ran
            cases ran
            obtain ⟨among, same⟩ := getById_mem read
            refine ⟨createEntry_active made, fun old named => ?_⟩
            cases named
            exact same ▸ List.mem_map_of_mem among

/-- A write that is timely keeps the chains. -/
theorem linked_applied {write : Write} (linked : Linked store supersessions)
    (fresh : write.added.id ∉ store.map fun entry => entry.id)
    (active : write.added.supersededById = none)
    (known : ∀ old, write.superseded = some old → old ∈ store.map fun entry => entry.id)
    (current : ∀ old, write.superseded = some old → ∀ item ∈ store, item.id = old →
      item.supersededById = none) :
    Linked (write.apply store)
      (supersessions ++ (write.superseded.map fun old => (old, write.added.id)).toList) := by
  unfold Write.apply
  cases named : write.superseded with
  | none =>
      rw [Option.map_none, Option.toList_none, List.append_nil]
      exact linked_added linked fresh active
  | some old => exact linked_superseded linked fresh active (known old named) (current old named)

theorem applied_ids {write : Write} {id : UUID} (among : id ∈ store.map fun entry => entry.id) :
    id ∈ (write.apply store).map fun entry => entry.id := by
  unfold Write.apply
  cases write.superseded with
  | none =>
      rw [List.map_append]
      exact List.mem_append_left _ among
  | some old =>
      rw [List.map_append, marked_ids]
      exact List.mem_append_left _ among

end Invariant

section Steps

variable {state next : State} {action : Action}

structure Sound (state : State) : Prop where
  linked : Linked state.store state.supersessions
  prepared : Prepared state

theorem prepared_set (prepared : Prepared state) {session : Nat} {now : Session}
    (ready : ∀ write, now = .pending write → write.added.supersededById = none ∧
      ∀ old, write.superseded = some old → old ∈ state.ids) : Prepared
        (state.setSession session now) := by
  intro other write pending
  unfold State.setSession at pending
  dsimp only at pending
  split at pending
  · exact ready write pending
  · exact prepared other write pending

theorem prepared_closed (prepared : Prepared state) (session : Nat) :
    Prepared (state.setSession session .closed) := by
  refine prepared_set prepared fun write same => ?_
  cases same

/-- A timely step keeps the chains. -/
theorem sound_step (sound : Sound state) (timely : Timely state action)
    (taken : step state action = some next) : Sound next := by
  cases action with
  | perform session call id createdAt =>
      rw [step] at taken
      split at taken
      · split at taken
        · cases taken
          exact ⟨sound.linked, prepared_closed sound.prepared session⟩
        · next write ran =>
            cases taken
            refine ⟨sound.linked, prepared_set sound.prepared fun other same => ?_⟩
            cases same
            exact run_prepares ran
      · cases taken
  | commit session =>
      rw [step] at taken
      split at taken
      · next write pending =>
          obtain ⟨active, known⟩ := sound.prepared session write pending
          split at taken
          · cases taken
            exact ⟨sound.linked, prepared_closed sound.prepared session⟩
          · next absent =>
              cases taken
              have fresh := getById_none (Option.not_isSome_iff_eq_none.mp absent)
              refine ⟨linked_applied sound.linked fresh active known fun old named =>
                timely session write old rfl pending named, fun other later waiting => ?_⟩
              have closed : Prepared (state.setSession session .closed) :=
                prepared_closed sound.prepared session
              obtain ⟨ready, stored⟩ := closed other later waiting
              exact ⟨ready, fun old named => applied_ids (stored old named)⟩
      · cases taken
  | rollback session =>
      rw [step] at taken
      split at taken
      · cases taken
        exact ⟨sound.linked, prepared_closed sound.prepared session⟩
      · cases taken

theorem sound_initial : Sound State.initial := by
  refine ⟨linked_initial, fun session write pending => ?_⟩
  cases pending

end Steps

section Chains

variable {state : State}

theorem succeeds_unique (linked : Linked state.store state.supersessions) :
    Relator.RightUnique state.Succeeds := by
  intro old first second one other
  obtain ⟨entry, among, same⟩ := List.mem_map.mp (linked.known _ one)
  have left := (linked.recorded entry among first).mpr (by rw [same]; exact one)
  have right := (linked.recorded entry among second).mpr (by rw [same]; exact other)
  rw [left] at right
  exact Option.some.inj right

theorem succeeds_stored (linked : Linked state.store state.supersessions) {old new : UUID}
    (link : state.Succeeds old new) : new ∈ state.ids := by
  have within := (linked.rises _ link).2
  rw [← List.length_map (f := fun entry : MemoryEntry => entry.id)] at within
  exact List.idxOf_lt_length_iff.mp within

theorem reached_stored (linked : Linked state.store state.supersessions) {first last : UUID}
    (stored : first ∈ state.ids) (reached : ReflTransGen state.Succeeds first last) : last ∈
      state.ids := by
  rcases reached.cases_tail with same | ⟨_, _, link⟩
  · exact same ▸ stored
  · exact succeeds_stored linked link

theorem active_last (linked : Linked state.store state.supersessions) {entry : MemoryEntry}
    (among : entry ∈ state.store) : entry.supersededById = none ↔ Last state.Succeeds entry.id := by
  constructor
  · intro active new link
    have named := (linked.recorded entry among new).mpr link
    rw [active] at named
    cases named
  · intro last
    cases named : entry.supersededById with
    | none => rfl
    | some new => exact absurd ((linked.recorded entry among new).mp named) (last new)

theorem results_stored {contains : PyStr → PyStr → Bool} {search : SearchQuery}
    {results : List MemoryEntry} (distinct : (state.store.map fun entry => entry.id).Nodup)
    (found : search.results contains state.store = .ok results) :
    (results.map fun entry => entry.id).Nodup ∧
      ∀ entry ∈ results, entry ∈ state.store ∧ search.selects contains entry = true := by
  unfold SearchQuery.results at found
  split at found
  · split at found
    · cases found
      have part := (List.take_sublist search.limit.toNat _).trans
        (List.drop_sublist search.offset.toNat
        ((state.store.filter (search.selects contains)).insertionSort fun first second =>
          second.createdAt < first.createdAt ∨
            (second.createdAt = first.createdAt ∧ second.id ≤ first.id)))
      have order := List.perm_insertionSort (fun first second : MemoryEntry =>
        second.createdAt < first.createdAt ∨
          (second.createdAt = first.createdAt ∧ second.id ≤ first.id))
        (state.store.filter (search.selects contains))
      constructor
      · have selected :
            ((state.store.filter (search.selects contains)).map fun entry => entry.id).Nodup :=
          distinct.sublist (List.filter_sublist.map _)
        exact ((order.map _).nodup_iff.mpr selected).sublist (part.map _)
      · intro entry among
        exact List.mem_filter.mp (order.mem_iff.mp (part.subset among))
    · cases found
  · cases found

theorem linked_chained (linked : Linked state.store state.supersessions) : Chained state := by
  have single := succeeds_unique linked
  refine ⟨single, linked.recorded, fun entry among => ?_,
    fun contains search results only_ found => ?_⟩
  · obtain ⟨id, reached, last⟩ := last_exists linked.rises_step entry.id
    obtain ⟨final, there, rfl⟩ := List.mem_map.mp
      (reached_stored linked (List.mem_map_of_mem (f := fun entry : MemoryEntry => entry.id) among)
        reached)
    refine ⟨final, ⟨there, (active_last linked there).mpr last, reached⟩, fun other held => ?_⟩
    obtain ⟨stored, active, led⟩ := held
    have same := last_unique single led reached ((active_last linked stored).mp active) last
    exact List.inj_on_of_nodup_map linked.distinct stored there same
  · obtain ⟨distinct, stored⟩ := results_stored linked.distinct found
    rw [List.Nodup, List.pairwise_map] at distinct
    refine distinct.imp_of_mem fun one other apart both => ?_
    obtain ⟨memory, first, second⟩ := both
    have ended : ∀ entry ∈ results, Last state.Succeeds entry.id := by
      intro entry among
      obtain ⟨inside, selected⟩ := stored entry among
      apply (active_last linked inside).mp
      unfold SearchQuery.selects at selected
      simpa [only_] using (Bool.and_eq_true_iff.mp selected).2
    exact apart (last_unique single first.to_reflTransGen second.to_reflTransGen (ended _ one)
      (ended _ other))

theorem timely_linked (run : Reaches step Timely State.initial state) :
    Linked state.store state.supersessions := by
  have sound : Sound state := run.invariant Sound sound_initial fun _ _ _ held timely taken =>
    sound_step held timely taken
  exact sound.linked

/-- Over every interleaving in which each supersession is timely, the memories are chained. -/
theorem supersessions_chained {state : State} (run : Reaches step Timely State.initial state) :
    Chained state :=
  linked_chained (timely_linked run)

end Chains

section Separate

/-- A session starts to supersede a memory only while no other session is about to commit a
supersession of it. -/
def Separate (state : State) (action : Action) : Prop :=
  ∀ session entryId title content source id createdAt,
    action = .perform session (.supersede entryId title content source) id createdAt →
      ∀ other write, state.sessions other = .pending write → write.superseded ≠ some entryId

structure Apart (state : State) : Prop where
  current : ∀ session write old, state.sessions session = .pending write →
    write.superseded = some old →
    ∀ entry ∈ state.store, entry.id = old → entry.supersededById = none
  alone : ∀ first second write other old, state.sessions first = .pending write →
    state.sessions second = .pending other → write.superseded = some old →
    other.superseded = some old →
      first = second

variable {state next : State} {action : Action}

theorem apart_timely (apart : Apart state) : Timely state action :=
  fun session write old _ pending named => apart.current session write old pending named

theorem set_pending {session other : Nat} {write : Write}
    (pending : (state.setSession session .closed).sessions other = .pending write) :
    other ≠ session ∧ state.sessions other = .pending write := by
  unfold State.setSession at pending
  dsimp only at pending
  split at pending
  · cases pending
  · next apart => exact ⟨apart, pending⟩

theorem apart_closed (apart : Apart state) (session : Nat) :
    Apart (state.setSession session .closed) where
  current other write old pending := apart.current other write old (set_pending pending).2
  alone first second write other old one two :=
    apart.alone first second write other old (set_pending one).2 (set_pending two).2

theorem run_supersedes {store : List MemoryEntry} {call : Call} {id old : UUID} {createdAt : Nat}
    {write : Write} (distinct : (store.map fun entry => entry.id).Nodup)
    (ran : call.run store id createdAt = .ok write) (named : write.superseded = some old) :
    (∃ title content source, call = .supersede old title content source) ∧
      ∀ entry ∈ store, entry.id = old → entry.supersededById = none := by
  cases call with
  | create request =>
      obtain ⟨added, _, made⟩ := bind_ok ran
      cases made
      cases named
  | supersede entryId title content source =>
      rw [Call.run] at ran
      split at ran
      · cases ran
      · next found read =>
          split at ran
          · cases ran
          · next active =>
              obtain ⟨added, _, made⟩ := bind_ok ran
              cases made
              cases named
              obtain ⟨among, same⟩ := getById_mem read
              refine ⟨⟨title, content, source, rfl⟩, fun entry there own => ?_⟩
              rw [List.inj_on_of_nodup_map distinct there among (own.trans same.symm)]
              exact not_not.mp active

theorem apart_performed (apart : Apart state) {session : Nat} {write : Write}
    (current : ∀ old, write.superseded = some old →
      ∀ entry ∈ state.store, entry.id = old → entry.supersededById = none)
    (free : ∀ old, write.superseded = some old →
      ∀ other waiting, state.sessions other = .pending waiting → waiting.superseded ≠ some old) :
    Apart (state.setSession session (.pending write)) := by
  have pending_ : ∀ other waiting, (state.setSession session (.pending write)).sessions other =
      .pending waiting → other = session ∧ waiting = write ∨
      state.sessions other = .pending waiting := by
    intro other waiting pending
    unfold State.setSession at pending
    dsimp only at pending
    split at pending
    · next same =>
        cases pending
        exact .inl ⟨same, rfl⟩
    · exact .inr pending
  refine ⟨fun other waiting old pending named => ?_,
    fun first second one two old left right own its => ?_⟩
  · rcases pending_ other waiting pending with ⟨_, rfl⟩ | earlier
    · exact current old named
    · exact apart.current other waiting old earlier named
  · rcases pending_ first one left with ⟨rfl, rfl⟩ | before
    · rcases pending_ second two right with ⟨rfl, _⟩ | after
      · rfl
      · exact absurd its (free old own second two after)
    · rcases pending_ second two right with ⟨rfl, rfl⟩ | after
      · exact absurd own (free old its first one before)
      · exact apart.alone first second one two old before after own its

theorem apart_committed (apart : Apart state) {session : Nat} {write : Write}
    (pending : state.sessions session = .pending write) (active : write.added.supersededById = none)
    {supersessions : List (UUID × UUID)} :
    Apart { (state.setSession session .closed) with
      store := write.apply state.store
      supersessions := supersessions } := by
  refine ⟨fun other waiting old later named entry among same => ?_, ?_⟩
  · obtain ⟨different, waits⟩ := set_pending later
    have before := apart.current other waiting old waits named
    unfold Write.apply at among
    split at among
    · rcases List.mem_append.mp among with inside | last
      · exact before entry inside same
      · rw [List.mem_singleton.mp last, active]
    · next gone superseded =>
        rcases List.mem_append.mp among with inside | last
        · obtain ⟨source, there, rfl⟩ := List.mem_map.mp inside
          rw [markSuperseded_id] at same
          have kept : source.id ≠ gone := fun own => different
            (apart.alone other session waiting write old waits pending named
              (same ▸ own ▸ superseded))
          rw [markSuperseded, if_neg kept]
          exact before source there same
        · rw [List.mem_singleton.mp last, active]
  · intro first second one two old left right
    exact apart.alone first second one two old (set_pending left).2 (set_pending right).2

theorem apart_step (sound : Sound state) (apart : Apart state) (separate : Separate state action)
    (taken : step state action = some next) : Apart next := by
  cases action with
  | perform session call id createdAt =>
      rw [step] at taken
      split at taken
      · split at taken
        · cases taken
          exact apart_closed apart session
        · next write ran =>
            cases taken
            refine apart_performed apart
              (fun old named => (run_supersedes sound.linked.distinct ran named).2)
              fun old named => ?_
            obtain ⟨title, content, source, rfl⟩ :=
              (run_supersedes sound.linked.distinct ran named).1
            exact separate session old title content source id createdAt rfl
      · cases taken
  | commit session =>
      rw [step] at taken
      split at taken
      · next write pending =>
          split at taken
          · cases taken
            exact apart_closed apart session
          · cases taken
            exact apart_committed apart pending (sound.prepared session write pending).1
      · cases taken
  | rollback session =>
      rw [step] at taken
      split at taken
      · cases taken
        exact apart_closed apart session
      · cases taken

theorem apart_initial : Apart State.initial := by
  refine ⟨fun session write old pending => ?_, fun first second write other old pending => ?_⟩
  · cases pending
  · cases pending

/-- Where no two sessions that supersede one memory overlap, every commit is timely. -/
theorem separate_timely (run : Reaches step Separate State.initial state) :
    Reaches step Timely State.initial state := by
  suffices held : Reaches step Timely State.initial state ∧ Sound state ∧ Apart state from held.1
  induction run with
  | refl => exact ⟨.refl, sound_initial, apart_initial⟩
  | tail _ separate taken ih =>
      obtain ⟨timely, sound, apart⟩ := ih
      exact ⟨.tail timely (apart_timely apart) taken, sound_step sound (apart_timely apart) taken,
        apart_step sound apart separate taken⟩

theorem separate_chained (run : Reaches step Separate State.initial state) : Chained state :=
  linked_chained (timely_linked (separate_timely run))

end Separate

section Sample

def sampleCreate : CreateRequest where
  scope := .company
  memoryType := .general
  title := [0x61]
  content := [0x61]
  source := [0x61]
  projectId := none
  agentId := none
  tags := []
  confidence := none

def sampleSupersede : Call := .supersede 1 [0x62] [0x62] [0x62]

def oneAfterAnother : List Action :=
  [.perform 0 (.create sampleCreate) 1 10, .commit 0, .perform 1 sampleSupersede 2 11, .commit 1]

def sideBySide : List Action :=
  [.perform 0 (.create sampleCreate) 1 10, .commit 0, .perform 1 sampleSupersede 2 11,
    .perform 2 sampleSupersede 3 12, .commit 1, .commit 2]

def sampleSearch : SearchQuery := ⟨none, none, none, none, [], true, 50, 0⟩

def replacements (state : State) : List (UUID × UUID) × List UUID :=
  (state.supersessions,
    ((sampleSearch.results (fun _ _ => true) state.store).toOption.getD []).map fun entry =>
      entry.id)

def timely (state : State) : Action → Bool
  | .commit session =>
      match state.sessions session with
      | .pending write => write.superseded.all fun old =>
          state.store.all fun entry => decide (entry.id = old → entry.supersededById = none)
      | _ => true
  | _ => true

theorem timely_sound (state : State) (action : Action) (checked : timely state action = true) :
    Timely state action := by
  rintro session write old rfl pending named entry among same
  unfold timely at checked
  dsimp only at checked
  rw [pending] at checked
  dsimp only at checked
  rw [named, Option.all_some] at checked
  exact of_decide_eq_true (List.all_eq_true.mp checked entry among) same

theorem one_replaces : (execute step timely State.initial oneAfterAnother).map replacements =
    some ([(1, 2)], [2]) := by
  decide +kernel

theorem supersessions_chained_sample :
    ∃ state, replacements state = ([(1, 2)], [2]) ∧ Chained state := by
  obtain ⟨state, executed, shown⟩ := Option.map_eq_some_iff.mp one_replaces
  exact ⟨state, shown, supersessions_chained (execute_reaches timely_sound _ _ _ executed)⟩

theorem both_replace : (execute step (fun _ _ => true) State.initial sideBySide).map replacements =
    some ([(1, 2), (1, 3)], [3, 2]) := by
  decide +kernel

/-- The search finds two replacements of one memory. -/
theorem supersession_lost : ∃ state, Reaches step (fun _ _ => True) State.initial state ∧
    replacements state = ([(1, 2), (1, 3)], [3, 2]) ∧ ¬ Chained state := by
  obtain ⟨state, executed, shown⟩ := Option.map_eq_some_iff.mp both_replace
  have run : Reaches step (fun _ _ => True) State.initial state :=
    execute_reaches (fun _ _ _ => trivial) _ _ _ executed
  refine ⟨state, run, shown, fun chained => ?_⟩
  have links : state.supersessions = [(1, 2), (1, 3)] := congrArg Prod.fst shown
  have first : state.Succeeds 1 2 := by
    unfold State.Succeeds
    rw [links]
    exact List.mem_cons_self
  have second : state.Succeeds 1 3 := by
    unfold State.Succeeds
    rw [links]
    exact List.mem_cons_of_mem _ (List.mem_singleton_self _)
  exact absurd (chained.single first second) (by decide)

end Sample

end SynapseOS.Memory
