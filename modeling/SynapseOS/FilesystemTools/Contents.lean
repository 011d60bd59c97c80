import SynapseOS.FilesystemTools.Listing
import SynapseOS.FilesystemTools.Paging

/-! What is below a directory and in its files, and that the tools find it. -/

namespace SynapseOS.FilesystemTools

open Execution Tools LinkedTree Containment

open Workspaces (Raised asPosix pathParts)

mutual

/-- The entries below a directory that are not hidden, those of its directories included if it is a
deep look. -/
def below (hides : HostPath → Bool) (deep : Bool) (path : HostPath) : Item PyStr → List Entry
  | .directory entries => belowAll hides deep path entries
  | .file | .special | .link _ => []

def belowAll (hides : HostPath → Bool) (deep : Bool) (path : HostPath) :
    List (PyStr × Item PyStr) → List Entry
  | [] => []
  | (name, item) :: rest =>
      (if hides (path ++ [name]) = true then []
        else
          match entryKind item with
          | none => []
          | some kind => (path ++ [name], kind) ::
              if deep = true then below hides deep (path ++ [name]) item else []) ++
        belowAll hides deep path rest

end

section Below

variable (hides : HostPath → Bool) (deep : Bool) (path : HostPath)

def shown (entries : List (PyStr × Item PyStr)) : List Entry :=
  entries.filterMap fun entry =>
    if hides (path ++ [entry.1]) = true then none
    else (entryKind entry.2).map fun kind => (path ++ [entry.1], kind)

def inner (entries : List Entry) : List HostPath :=
  if deep = true then (entries.filter fun entry => decide (entry.2 = .directory)).map Prod.fst
  else []

def belowAt (tree : HostTree) : List Entry :=
  match tree.stands path with
  | .ok item => below hides deep path item
  | .error _ => []

variable {hides deep path}

theorem belowAll_flatMap (entries : List (PyStr × Item PyStr)) :
    belowAll hides deep path entries = entries.flatMap fun entry =>
      belowAll hides deep path [entry] := by
  induction entries with
  | nil => rfl
  | cons entry rest ih =>
      have alone : belowAll hides deep path (entry :: rest) =
          belowAll hides deep path [entry] ++ belowAll hides deep path rest := by
        simp only [belowAll, List.append_nil]
      rw [alone, List.flatMap_cons, ih]

theorem belowAll_perm {entries others : List (PyStr × Item PyStr)} (same : entries.Perm others) :
    (belowAll hides deep path entries).Perm (belowAll hides deep path others) := by
  rw [belowAll_flatMap entries, belowAll_flatMap others]
  exact same.flatMap_right _

theorem shown_append (entries others : List (PyStr × Item PyStr)) :
    shown hides path (entries ++ others) = shown hides path entries ++ shown hides path others :=
  List.filterMap_append

theorem inner_append (first second : List Entry) :
    inner deep (first ++ second) = inner deep first ++ inner deep second := by
  unfold inner
  split
  · rw [List.filter_append, List.map_append]
  · rfl

theorem belowAll_single {tree : HostTree} {name : PyStr} {item : Item PyStr}
    (there : tree.stands (path ++ [name]) = .ok item) : belowAll hides deep path [(name, item)] =
      shown hides path [(name, item)] ++
        (inner deep (shown hides path [(name, item)])).flatMap fun path =>
          belowAt hides deep path tree := by
  by_cases hidden : hides (path ++ [name]) = true
  · simp [belowAll, shown, inner, hidden]
  · cases deep with
    | false => cases item <;> simp [belowAll, shown, inner, hidden, entryKind]
    | true => cases item <;> simp [belowAll, shown, inner, hidden, entryKind, belowAt, there, below]

/-- A look is one at the entries of the directory, and one at what is below those that it goes
into. -/
theorem belowAll_step {tree : HostTree} {entries : List (PyStr × Item PyStr)}
    (there : ∀ entry ∈ entries, tree.stands (path ++ [entry.1]) = .ok entry.2) :
    (belowAll hides deep path entries).Perm (shown hides path entries ++
      (inner deep (shown hides path entries)).flatMap fun path =>
        belowAt hides deep path tree) := by
  induction entries with
  | nil =>
      have none_ : inner deep [] = [] := by cases deep <;> rfl
      show List.Perm [] ([] ++ (inner deep []).flatMap _)
      rw [none_]
      exact List.Perm.refl _
  | cons entry rest ih =>
      have later := ih fun other member => there other (List.mem_cons_of_mem _ member)
      have first : belowAll hides deep path [entry] = shown hides path [entry] ++
          (inner deep (shown hides path [entry])).flatMap fun path =>
            belowAt hides deep path tree :=
        belowAll_single (there entry List.mem_cons_self)
      have parts : shown hides path (entry :: rest) = shown hides path [entry] ++
          shown hides path rest :=
        shown_append [entry] rest
      have split : belowAll hides deep path (entry :: rest) =
          belowAll hides deep path [entry] ++ belowAll hides deep path rest := by
        simp only [belowAll, List.append_nil]
      rw [split, parts, inner_append, List.flatMap_append, first]
      refine (List.Perm.append_left _ later).trans ?_
      simp only [List.append_assoc]
      refine List.Perm.append_left _ ?_
      rw [← List.append_assoc, ← List.append_assoc]
      exact List.Perm.append_right _ List.perm_append_comm

end Below

section Visible

def visible (hides : HostPath → Bool) : HostPath → List PyStr → Bool
  | _, [] => true
  | path, name :: rest => !hides (path ++ [name]) && visible hides (path ++ [name]) rest

def nothing : HostPath → Bool := fun _ => false

theorem visible_nothing (path : HostPath)
    (rest : List PyStr) : visible nothing path rest = true := by
  induction rest generalizing path with
  | nil => rfl
  | cons name rest ih => exact ih _

variable {hides : HostPath → Bool} {deep : Bool}

def visibleFrom (hides : HostPath → Bool) (path : HostPath) (entry : Entry) : Bool :=
  visible hides path (entry.1.drop path.length)

mutual

theorem below_inside (path : HostPath) (item : Item PyStr) :
    ∀ entry ∈ below hides deep path item, path <+: entry.1 := by
  cases item with
  | directory entries =>
      rw [below]
      intro entry member
      obtain ⟨_, inside⟩ := belowAll_inside path entries entry member
      exact (List.prefix_append _ _).trans inside
  | file | special | link => nofun

theorem belowAll_inside (path : HostPath) (entries : List (PyStr × Item PyStr)) :
    ∀ entry ∈ belowAll hides deep path entries, ∃ name, path ++ [name] <+: entry.1 := by
  cases entries with
  | nil => nofun
  | cons first rest =>
      obtain ⟨name, item⟩ := first
      intro entry member
      rw [belowAll, List.mem_append] at member
      rcases member with own | later
      · refine ⟨name, ?_⟩
        split at own
        · cases own
        · split at own
          · cases own
          · rcases List.mem_cons.mp own with rfl | deeper
            · exact List.prefix_refl _
            · split at deeper
              · exact below_inside (path ++ [name]) item entry deeper
              · cases deeper
      · exact belowAll_inside path rest entry later

end

theorem visibleFrom_step {path : HostPath} {name : PyStr} {entry : Entry}
    (inside : path ++ [name] <+: entry.1) :
    visibleFrom hides path entry =
      (!hides (path ++ [name]) && visibleFrom hides (path ++ [name]) entry) := by
  obtain ⟨rest, same⟩ := inside
  have far : entry.1.drop (path ++ [name]).length = rest := by rw [← same, List.drop_left]
  have near : entry.1.drop path.length = name :: rest := by
    rw [← same, List.append_assoc, List.drop_left]
    rfl
  rw [visibleFrom, visibleFrom, far, near]
  rfl

theorem filter_step {path : HostPath} (name : PyStr) {entries : List Entry}
    (inside : ∀ entry ∈ entries, path ++ [name] <+: entry.1) :
    entries.filter (visibleFrom hides path) =
      if hides (path ++ [name]) = true then []
      else entries.filter (visibleFrom hides (path ++ [name])) := by
  have step : entries.filter (visibleFrom hides path) =
      entries.filter fun entry => !hides (path ++ [name]) && visibleFrom hides
        (path ++ [name]) entry :=
    List.filter_congr fun entry member => visibleFrom_step (inside entry member)
  rw [step]
  split
  · next hidden => simp [hidden]
  · next plain => simp [plain]

mutual

theorem below_visible (path : HostPath) (item : Item PyStr) : below hides deep path item =
    (below nothing deep path item).filter (visibleFrom hides path) := by
  cases item with
  | directory entries =>
      rw [below, below]
      exact belowAll_visible path entries
  | file | special | link => rfl

theorem belowAll_visible (path : HostPath) (entries : List (PyStr × Item PyStr)) :
    belowAll hides deep path entries = (belowAll nothing deep path entries).filter
      (visibleFrom hides path) := by
  cases entries with
  | nil => rfl
  | cons first rest =>
      obtain ⟨name, item⟩ := first
      rw [belowAll, belowAll, List.filter_append, ← belowAll_visible path rest]
      congr 1
      have open_ : ¬ nothing (path ++ [name]) = true := Bool.false_ne_true
      rw [if_neg open_]
      cases entryKind item with
      | none =>
          dsimp only
          rw [List.filter_nil, ite_self]
      | some kind =>
          have own : visibleFrom hides (path ++ [name]) (path ++ [name], kind) = true := by
            rw [visibleFrom, List.drop_length]
            rfl
          dsimp only
          rw [filter_step name]
          · have deeper := below_visible (path ++ [name]) item
            by_cases goes : deep = true
            · rw [if_pos goes, if_pos goes, List.filter_cons_of_pos own, deeper]
            · rw [if_neg goes, if_neg goes, List.filter_cons_of_pos own, List.filter_nil]
          · intro entry member
            rcases List.mem_cons.mp member with rfl | later
            · exact List.prefix_refl _
            · split at later
              · exact below_inside (path ++ [name]) item entry later
              · cases later

end

end Visible

section Collecting

variable {ws : Workspace} {deep : Bool}

variable {current : HostPath} {name : PyStr} {item : Item PyStr} {rest : List (PyStr × Item PyStr)}
    {scan : Scan}

/-- One entry is passed over, or collected and counted. -/
theorem scan_cases : (shown ws.kindRefuses current [(name, item)] = [] ∧
      scanEntries ws deep current ((name, item) :: rest) scan =
        scanEntries ws deep current rest scan) ∨
    ∃ kind, shown ws.kindRefuses current [(name, item)] = [(current ++ [name], kind)] ∧
      scanEntries ws deep current ((name, item) :: rest) scan =
        if maxScanEntries < (scan.collect deep (current ++ [name]) kind).collected.length then
          { scan.collect deep (current ++ [name]) kind with limited := true }
        else scanEntries ws deep current rest (scan.collect deep (current ++ [name]) kind) := by
  rw [scanEntries]
  by_cases refused : ws.kindRefuses (current ++ [name]) = true
  · rw [if_pos refused]
    exact .inl ⟨by simp [shown, refused], rfl⟩
  · rw [if_neg refused]
    cases known : entryKind item with
    | none => exact .inl ⟨by simp [shown, refused, known], rfl⟩
    | some kind => exact .inr ⟨kind, by simp [shown, refused, known], rfl⟩

theorem collect_inner (path : HostPath) (kind : EntryKind) :
    scan.collect deep path kind =
      ⟨scan.pending ++ inner deep [(path, kind)], scan.collected ++ [(path, kind)],
        scan.limited⟩ := by
  unfold Scan.collect inner
  cases deep with
  | false => simp
  | true => by_cases same : kind = .directory <;> simp [same]

theorem scanEntries_whole (ws : Workspace) (deep : Bool) (current : HostPath) (scan : Scan)
    (entries : List (PyStr × Item PyStr)) (fresh : scan.limited = false)
    (open_ : scan.collected.length ≤ maxScanEntries) :
    ((scanEntries ws deep current entries scan).limited = false →
      scanEntries ws deep current entries scan =
        ⟨scan.pending ++ inner deep (shown ws.kindRefuses current entries),
          scan.collected ++ shown ws.kindRefuses current entries, false⟩ ∧
        (scan.collected ++ shown ws.kindRefuses current entries).length ≤ maxScanEntries) ∧
    ((scanEntries ws deep current entries scan).limited = true →
      maxScanEntries < (scanEntries ws deep current entries scan).collected.length ∧
        (scanEntries ws deep current entries scan).collected <+:
          scan.collected ++ shown ws.kindRefuses current entries) := by
  induction entries generalizing scan with
  | nil =>
      have none_ : inner deep [] = [] := by cases deep <;> rfl
      constructor
      · intro _
        show scan = ⟨scan.pending ++ inner deep [], scan.collected ++ [], false⟩ ∧ _
        rw [none_, List.append_nil, List.append_nil, ← fresh]
        exact ⟨rfl, by simpa [shown] using open_⟩
      · intro limited
        exact absurd (fresh.symm.trans limited) (by decide)
  | cons entry rest ih =>
      obtain ⟨name, item⟩ := entry
      have parts : shown ws.kindRefuses current ((name, item) :: rest) =
        shown ws.kindRefuses current [(name, item)] ++ shown ws.kindRefuses current rest :=
          shown_append [_] rest
      rw [parts, inner_append, ← List.append_assoc, ← List.append_assoc]
      rcases scan_cases with ⟨none_, step⟩ | ⟨kind, one, step⟩
      · have nothing : inner deep [] = [] := by cases deep <;> rfl
        rw [step, none_, nothing, List.append_nil, List.append_nil]
        exact ih scan fresh open_
      · rw [step, one]
        split
        · next full =>
            constructor
            · nofun
            · intro _
              refine ⟨full, ?_⟩
              rw [collect_inner]
              exact List.prefix_append _ _
        · next room =>
            rw [collect_inner] at room ⊢
            exact ih _ fresh (not_lt.mp room)

theorem collectLoop_nil (done : scan.pending = []) : collectLoop ws deep scan = .ok scan := by
  rw [collectLoop]
  split
  · rfl
  · next found => cases done.symm.trans found

theorem collectLoop_full (full : maxScanEntries < scan.collected.length) :
    collectLoop ws deep scan = .ok scan := by
  rw [collectLoop]
  split
  · rfl
  · rw [if_pos full]

theorem collectLoop_next {pending : List HostPath} (next : scan.pending = current :: pending)
    (open_ : scan.collected.length ≤ maxScanEntries) : collectLoop ws deep scan =
      match scandir ws current with
      | .error raised => .error raised
      | .ok entries =>
          collectLoop ws deep
            (scanEntries ws deep current entries { scan with pending := pending }) := by
  conv => lhs; rw [collectLoop]
  split
  · next found => cases next.symm.trans found
  · next found =>
      cases next.symm.trans found
      exact if_neg (not_lt.mpr open_)

theorem scandir_ok {entries : List (PyStr × Item PyStr)} (run : scandir ws current = .ok entries) :
    ∃ raw, ws.tree.stands current = .ok (.directory raw) ∧ ws.scanRefuses current = false ∧
    entries.Perm raw := by
  unfold scandir at run
  split at run
  · next raw there =>
      split at run
      · cases run
      · next listed =>
          cases run
          exact ⟨raw, there, Bool.eq_false_iff.mpr listed, ranked_perm⟩
  · cases run

theorem stands_below {raw : List (PyStr × Item PyStr)}
    (there : ws.tree.stands current = .ok (.directory raw))
    {entry : PyStr × Item PyStr} (member : entry ∈ raw) :
    ws.tree.stands (current ++ [entry.1]) = .ok entry.2 :=
  standing_concat ws.tree.top there
    ((Assoc.mem_iff_get entry.1 entry.2 raw (ws.unique current raw there)).mp member)

def Scan.listed (ws : Workspace) (deep : Bool) (scan : Scan) (current : HostPath)
    (pending : List HostPath) (entries : List (PyStr × Item PyStr)) : Scan :=
  ⟨pending ++ inner deep (shown ws.kindRefuses current entries),
    scan.collected ++ shown ws.kindRefuses current entries, false⟩

inductive Scans (ws : Workspace) (deep : Bool) : Scan → Scan → Prop
  | done {scan : Scan} (empty : scan.pending = []) (fresh : scan.limited = false)
      (within : scan.collected.length ≤ maxScanEntries) : Scans ws deep scan scan
  | cut {scan final : Scan} {current : HostPath} {pending : List HostPath}
      {entries : List (PyStr × Item PyStr)}
      (next : scan.pending = current :: pending) (run : scandir ws current = .ok entries)
      (limited : final.limited = true) (full : maxScanEntries < final.collected.length)
      (front : final.collected <+: scan.collected ++ shown ws.kindRefuses current entries) :
      Scans ws deep scan final
  | more {scan final : Scan} {current : HostPath} {pending : List HostPath}
      {entries : List (PyStr × Item PyStr)}
      (next : scan.pending = current :: pending) (run : scandir ws current = .ok entries)
      (rest : Scans ws deep (scan.listed ws deep current pending entries) final) :
      Scans ws deep scan final

theorem collectLoop_scans {final : Scan} (run : collectLoop ws deep scan = .ok final)
    (fresh : scan.limited = false)
    (open_ : scan.collected.length ≤ maxScanEntries) : Scans ws deep scan final := by
  induction bound : scan.room using Nat.strong_induction_on generalizing scan with
  | _ room ih =>
      cases next : scan.pending with
      | nil =>
          cases (collectLoop_nil next).symm.trans run
          exact .done next fresh open_
      | cons current pending =>
          rw [collectLoop_next next open_] at run
          cases listed : scandir ws current with
          | error raised =>
              rw [listed] at run
              cases run
          | ok entries =>
              rw [listed] at run
              dsimp only at run
              have smaller :
                  (scanEntries ws deep current entries { scan with pending := pending }).room <
                    room := by
                have below :=
                  scanEntries_room ws deep current entries { scan with pending := pending } open_
                have popped : Scan.room { scan with pending := pending } < scan.room := by
                  unfold Scan.room
                  rw [next]
                  exact Nat.lt_succ_self _
                omega
              obtain ⟨whole, cut⟩ :=
                scanEntries_whole ws deep current { scan with pending := pending }
                entries fresh open_
              cases limited :
                (scanEntries ws deep current entries { scan with pending := pending }).limited with
              | false =>
                  obtain ⟨same, within⟩ := whole limited
                  rw [same] at run smaller
                  exact .more next listed (ih _ smaller run rfl within rfl)
              | true =>
                  obtain ⟨full, front⟩ := cut limited
                  cases (collectLoop_full full).symm.trans run
                  exact .cut next listed limited full front

/-- The entries that the pending directories and what is collected make up. -/
def Scan.all (ws : Workspace) (deep : Bool) (scan : Scan) : List Entry :=
  scan.collected ++ scan.pending.flatMap fun path => belowAt ws.kindRefuses deep path ws.tree

theorem all_step (deep : Bool) {pending : List HostPath} {entries : List (PyStr × Item PyStr)}
    (run : scandir ws current = .ok entries) (next : scan.pending = current :: pending) :
    (scan.all ws deep).Perm ((scan.listed ws deep current pending entries).all ws deep) := by
  obtain ⟨raw, there, _, same⟩ := scandir_ok run
  have look :
      belowAt ws.kindRefuses deep current ws.tree = belowAll ws.kindRefuses deep current raw := by
    rw [belowAt, there]
    rfl
  have step : (belowAll ws.kindRefuses deep current entries).Perm _ :=
    belowAll_step fun entry member => stands_below there (same.mem_iff.mp member)
  unfold Scan.all Scan.listed
  rw [next, List.flatMap_cons, List.flatMap_append, look, List.append_assoc]
  refine List.Perm.append_left _ ?_
  refine (List.Perm.append_right _ ((belowAll_perm same.symm).trans step)).trans ?_
  rw [List.append_assoc]
  exact List.Perm.append_left _ List.perm_append_comm

/-- The scan collects all that is below the pending directories, or more than it may. -/
theorem scans_all {final : Scan} (scans : Scans ws deep scan final) :
    ((final.limited || !final.pending.isEmpty) = false →
      final.collected.Perm (scan.all ws deep) ∧ final.collected.length ≤ maxScanEntries) ∧
    ((final.limited || !final.pending.isEmpty) = true →
      maxScanEntries < (scan.all ws deep).length) := by
  induction scans with
  | @done scan empty fresh within =>
      rw [fresh, empty, Scan.all, empty]
      simpa using within
  | @cut scan final current pending entries next run limited full front =>
      have step := (all_step deep run next).length_eq
      rw [limited]
      refine ⟨nofun, fun _ => ?_⟩
      calc
        maxScanEntries < final.collected.length := full
        _ ≤ (scan.collected ++ shown ws.kindRefuses current entries).length := front.length_le
        _ ≤ (scan.all ws deep).length := by
          rw [step]
          exact (List.prefix_append _ _).length_le
  | more next run rest ih =>
      have step := all_step deep run next
      exact ⟨fun done => ⟨(ih.1 done).1.trans step.symm, (ih.1 done).2⟩,
        fun full => (ih.2 full).trans_eq step.length_eq.symm⟩

end Collecting

section Held

variable (ws : Workspace) {hides : HostPath → Bool} {deep : Bool}

structure Held (path : HostPath) (entry : Entry) : Prop where
  item : ∃ item, ws.tree.stands entry.1 = .ok item ∧ entryKind item = some entry.2
  parts : ∃ parts, entry.1 = path ++ parts ∧ parts ≠ [] ∧ Plain parts

variable {ws}

theorem Held.step {path : HostPath} {name : PyStr} {entry : Entry}
    (held : Held ws (path ++ [name]) entry) (plain : Plain [name]) : Held ws path entry := by
  obtain ⟨parts, place, _, more⟩ := held.parts
  refine ⟨held.item, name :: parts, by rw [place, List.append_assoc, List.singleton_append],
    List.cons_ne_nil _ _, ?_⟩
  intro part member
  rcases List.mem_cons.mp member with rfl | later
  · exact plain part (List.mem_singleton_self _)
  · exact more part later

mutual

theorem below_held (path : HostPath) (item : Item PyStr) (there : ws.tree.stands path = .ok item) :
    ∀ entry ∈ below hides deep path item, Held ws path entry := by
  cases item with
  | directory entries =>
      rw [below]
      exact belowAll_held path entries there entries (List.Subset.refl _)
  | file | special | link => nofun

theorem belowAll_held (path : HostPath) (raw : List (PyStr × Item PyStr))
    (there : ws.tree.stands path = .ok (.directory raw)) (entries : List (PyStr × Item PyStr))
    (among : entries ⊆ raw) : ∀ entry ∈ belowAll hides deep path entries, Held ws path entry := by
  cases entries with
  | nil => nofun
  | cons first rest =>
      obtain ⟨name, item⟩ := first
      have inside : (name, item) ∈ raw := among List.mem_cons_self
      have stands := stands_below there inside
      have plain : Plain [name] := by
        intro part member
        cases List.mem_singleton.mp member
        exact ws.plain path raw there name (List.mem_map_of_mem inside)
      intro entry member
      rw [belowAll, List.mem_append] at member
      rcases member with own | later
      · split at own
        · cases own
        · split at own
          · cases own
          · next kind known =>
              rcases List.mem_cons.mp own with rfl | deeper
              · exact ⟨⟨item, stands, known⟩, [name], rfl, List.cons_ne_nil _ _, plain⟩
              · split at deeper
                · exact (below_held (path ++ [name]) item stands entry deeper).step plain
                · cases deeper
      · exact belowAll_held path raw there rest
          (fun _ inner => among (List.mem_cons_of_mem _ inner)) entry later

end

end Held

section Grounded

variable {ws : Workspace} {deep : Bool}

theorem standing_inverse {path : HostPath} {name : PyStr} {item : Item PyStr}
    (entries : List (PyStr × Item PyStr)) (there : standing (path ++ [name]) entries = .ok item) :
    ∃ inner, standing path entries = .ok (.directory inner) ∧ Assoc.get name inner = some item := by
  induction path generalizing entries with
  | nil =>
      rw [List.nil_append, standing] at there
      refine ⟨entries, rfl, ?_⟩
      cases held : Assoc.get name entries with
      | none =>
          rw [held] at there
          cases there
      | some found =>
          rw [held] at there
          cases found <;> cases there <;> rfl
  | cons first rest ih =>
      rw [List.cons_append, standing] at there
      rw [standing]
      cases held : Assoc.get first entries with
      | none =>
          rw [held] at there
          cases there
      | some found =>
          rw [held] at there
          cases found with
          | directory below => exact ih below there
          | file | special | link =>
              dsimp only at there
              split at there
              · next empty => simp at empty
              · cases there

def Grounded (ws : Workspace) (path : HostPath) : Prop :=
  ∃ front name, path = front ++ [name] ∧ ws.tree.Direct front

theorem Grounded.direct {path : HostPath} (grounded : Grounded ws path) {item : Item PyStr}
    (there : ws.tree.stands path = .ok item) (solid : ∀ target, item ≠ .link target)
    (seen : ws.tree.refuses path = false) : ws.tree.Direct path := by
  obtain ⟨front, name, rfl, direct⟩ := grounded
  obtain ⟨entries, above, held⟩ := standing_inverse ws.tree.top there
  have stands : ws.tree.stands front = .ok (.directory entries) := above
  refine .down direct ?_ solid
  rw [entry, stands]
  dsimp only
  rw [seen, held, if_neg Bool.false_ne_true]

theorem direct_front {tree : HostTree} (front back : HostPath)
    (direct : tree.Direct (front ++ back)) : tree.Direct front := by
  induction back using List.reverseRecOn with
  | nil => rwa [List.append_nil] at direct
  | append_singleton back name ih =>
      have above := direct_parent direct
      rw [← List.append_assoc, List.dropLast_concat] at above
      exact ih above

theorem direct_reached {tree : HostTree} {root parts : HostPath}
    (direct : tree.Direct (root ++ parts)) : Reached tree root parts := by
  induction parts generalizing root with
  | nil =>
      rw [List.append_nil] at direct
      exact .all direct
  | cons name rest ih =>
      have split : root ++ name :: rest = (root ++ [name]) ++ rest := by simp
      rw [split] at direct
      have first := direct_front _ _ direct
      have above := direct_parent first
      rw [List.dropLast_concat] at above
      generalize whole : root ++ [name] = path at first
      cases first with
      | top => simp at whole
      | down _ held solid =>
          obtain ⟨rfl, same⟩ := List.append_inj' whole rfl
          cases same
          exact .next above held solid (ih direct)

def relativeText (ws : Workspace) (path : HostPath) : PyStr := asPosix (path.drop ws.root.length)

theorem relativePath_direct {path : HostPath}
    (canonical : canonicalRoot ws.tree ws.depth (ws.root.map .into) = .ok ws.root)
    (inside : ws.root <+: path)
    (direct : ws.tree.Direct path) : relativePath ws path = .ok (relativeText ws path) := by
  obtain ⟨parts, rfl⟩ := inside
  rw [relativeText, List.drop_left]
  exact relative_reached canonical (direct_reached direct)

theorem scandir_direct {current : HostPath} {entries : List (PyStr × Item PyStr)}
    (run : scandir ws current = .ok entries)
    (placed : ws.tree.Direct current ∨ Grounded ws current) :
    ws.tree.Direct current := by
  obtain ⟨raw, there, listed, _⟩ := scandir_ok run
  rcases placed with direct | grounded
  · exact direct
  · refine grounded.direct there nofun ?_
    rw [← Bool.not_eq_true]
    intro refused
    exact absurd (listed.symm.trans (ws.searched current refused).2) (by decide)

structure Placed (ws : Workspace) (entry : Entry) : Prop where
  grounded : Grounded ws entry.1
  item : ∃ item, ws.tree.stands entry.1 = .ok item ∧ entryKind item = some entry.2

theorem shown_placed {current : HostPath} {entries : List (PyStr × Item PyStr)}
    (run : scandir ws current = .ok entries) (direct : ws.tree.Direct current)
    {hides : HostPath → Bool} : ∀ entry ∈ shown hides current entries, Placed ws entry := by
  intro entry member
  obtain ⟨raw, there, _, same⟩ := scandir_ok run
  obtain ⟨⟨name, item⟩, among, made⟩ := List.mem_filterMap.mp member
  split at made
  · cases made
  · obtain ⟨kind, known, rfl⟩ := Option.map_eq_some_iff.mp made
    exact ⟨⟨current, name, rfl, direct⟩, item, stands_below there (same.mem_iff.mp among), known⟩

theorem inner_subset {entries : List Entry} {path : HostPath} (member : path ∈ inner deep entries) :
    ∃ entry ∈ entries, entry.1 = path := by
  unfold inner at member
  split at member
  · obtain ⟨entry, kept, rfl⟩ := List.mem_map.mp member
    exact ⟨entry, (List.mem_filter.mp kept).1, rfl⟩
  · cases member

theorem scans_placed {scan final : Scan} (scans : Scans ws deep scan final)
    (pendings : ∀ path ∈ scan.pending, ws.tree.Direct path ∨ Grounded ws path)
    (entries : ∀ entry ∈ scan.collected, Placed ws entry) : ∀ entry ∈ final.collected,
      Placed ws entry := by
  induction scans with
  | done => exact entries
  | @cut scan final current pending listed next run limited full front =>
      have direct := scandir_direct run (pendings current (by rw [next]; exact List.mem_cons_self))
      intro entry member
      rcases List.mem_append.mp (front.subset member) with old | fresh
      · exact entries entry old
      · exact shown_placed run direct entry fresh
  | @more scan final current pending listed next run rest ih =>
      have direct := scandir_direct run (pendings current (by rw [next]; exact List.mem_cons_self))
      apply ih
      · intro path member
        rcases List.mem_append.mp member with old | fresh
        · exact pendings path (by rw [next]; exact List.mem_cons_of_mem _ old)
        · obtain ⟨entry, among, rfl⟩ := inner_subset fresh
          exact .inr (shown_placed run direct entry among).grounded
      · intro entry member
        rcases List.mem_append.mp member with old | fresh
        · exact entries entry old
        · exact shown_placed run direct entry fresh

end Grounded

section Entries

variable {ws : Workspace} {deep limited : Bool} {directory : HostPath} {entries : List Entry}

theorem entryRelativePath_ok {path : HostPath} {text : PyStr}
    (run : entryRelativePath ws path = .ok text) :
    ws.root <+: path ∧ text = relativeText ws path := by
  unfold entryRelativePath at run
  split at run
  · next inside =>
      cases run
      exact ⟨List.isPrefixOf_iff_prefix.mp inside, rfl⟩
  · cases run

theorem keyed_ok {collected : List Entry} {keyed : List (PyStr × Entry)}
    (run : (collected.mapM fun entry => do return (← entryRelativePath ws entry.1, entry)) =
      .ok keyed) :
    keyed = collected.map (fun entry => (relativeText ws entry.1, entry)) ∧
      ∀ entry ∈ collected, ws.root <+: entry.1 := by
  have pairs := mapM_related run
  have each :
    ∀ (entry : Entry) (pair : PyStr × Entry), (do return (← entryRelativePath ws entry.1, entry)) =
      (.ok pair : Except Raised _) →
      (relativeText ws entry.1, entry) = pair ∧ ws.root <+: entry.1 := by
    intro entry pair made
    obtain ⟨text, shown, made⟩ := bind_ok made
    obtain ⟨inside, rfl⟩ := entryRelativePath_ok shown
    cases made
    exact ⟨rfl, inside⟩
  constructor
  · have same := related_map pairs (g := id) fun entry pair made => (each entry pair made).1
    rw [List.map_id] at same
    exact same.symm
  · intro entry member
    obtain ⟨pair, made⟩ := mapM_accepts run entry member
    exact (each entry pair made).2

theorem collectEntries_ok (run : collectEntries ws deep directory = .ok (entries, limited)) :
    ∃ scan, Scans ws deep ⟨[directory], [], false⟩ scan ∧
      entries = sortedBy (fun entry => relativeText ws entry.1) scan.collected ∧
      (∀ entry ∈ entries, ws.root <+: entry.1) ∧
      limited = (scan.limited || !scan.pending.isEmpty) := by
  obtain ⟨scan, loop, run⟩ := bind_ok run
  obtain ⟨keyed, keys, run⟩ := bind_ok run
  obtain ⟨rfl, inside⟩ := keyed_ok keys
  cases run
  have plain :
    (sortedBy Prod.fst (scan.collected.map fun entry => (relativeText ws entry.1, entry))).map
      Prod.snd = sortedBy (fun entry => relativeText ws entry.1) scan.collected := by
    rw [sortedBy_map, List.map_map]
    exact List.map_id _
  rw [plain]
  refine ⟨scan, collectLoop_scans loop rfl (Nat.zero_le _), rfl, fun entry member => ?_, rfl⟩
  exact inside entry (sortedBy_perm.mem_iff.mp member)

theorem held_apart {first second : Entry}
    (inside : ∃ parts, directory = ws.root ++ parts ∧ Plain parts)
    (held : Held ws directory first) (other : Held ws directory second)
    (same : relativeText ws first.1 = relativeText ws second.1) : first = second := by
  obtain ⟨parts, rfl, plain⟩ := inside
  obtain ⟨⟨item, there, kind⟩, more, place, _, morePlain⟩ := held
  obtain ⟨⟨item', there', kind'⟩, more', place', _, morePlain'⟩ := other
  have joined (more : HostPath) (morePlain : Plain more) : Plain (parts ++ more) := by
    intro part member
    rcases List.mem_append.mp member with front | back
    · exact plain part front
    · exact morePlain part back
  rw [relativeText, relativeText, place, place', List.append_assoc, List.append_assoc,
    List.drop_left, List.drop_left] at same
  have paths : parts ++ more = parts ++ more' := by
    rw [← parts_asPosix (joined more morePlain), same, parts_asPosix (joined more' morePlain')]
  have path : first.1 = second.1 := by
    rw [place, place', List.append_assoc, paths, ← List.append_assoc]
  rw [path] at there
  cases there.symm.trans there'
  exact Prod.ext path (Option.some.inj (kind.symm.trans kind'))

/-- What is collected below a directory of the workspace, and when that is all. -/
theorem collected_exact (run : collectEntries ws deep directory = .ok (entries, limited))
    {raw : List (PyStr × Item PyStr)} (there : ws.tree.stands directory = .ok (.directory raw))
    (inside : ∃ parts, directory = ws.root ++ parts ∧ Plain parts) :
    (limited = false ↔ (below ws.kindRefuses deep directory (.directory raw)).length ≤
      maxScanEntries) ∧
      (limited = false → entries = sortedBy (fun entry => relativeText ws entry.1)
        (below ws.kindRefuses deep directory (.directory raw))) := by
  obtain ⟨scan, scans, rfl, _, rfl⟩ := collectEntries_ok run
  have whole : Scan.all ws deep ⟨[directory], [], false⟩ = below ws.kindRefuses deep directory
      (.directory raw) := by
    show [] ++ (belowAt ws.kindRefuses deep directory ws.tree ++ []) = _
    rw [List.nil_append, List.append_nil, belowAt, there]
  obtain ⟨all, many⟩ := scans_all scans
  rw [whole] at all many
  have held :
      ∀ entry ∈ below ws.kindRefuses deep directory (.directory raw), Held ws directory entry :=
    below_held directory _ there
  constructor
  · constructor
    · intro done
      rw [← (all done).1.length_eq]
      exact (all done).2
    · intro within
      rw [← Bool.not_eq_true]
      intro full
      have above := many full
      omega
  · intro done
    refine sortedBy_eq (all done).1 fun first here second other same => ?_
    exact held_apart inside (held first ((all done).1.mem_iff.mp here))
      (held second ((all done).1.mem_iff.mp other)) same

theorem collected_placed (run : collectEntries ws deep directory = .ok (entries, limited))
    (direct : ws.tree.Direct directory) : ∀ entry ∈ entries, Placed ws entry ∧
    ws.root <+: entry.1 := by
  obtain ⟨scan, scans, rfl, inside, _⟩ := collectEntries_ok run
  intro entry member
  refine ⟨?_, inside entry member⟩
  refine scans_placed scans ?_ nofun entry (sortedBy_perm.mem_iff.mp member)
  intro path among
  cases List.mem_singleton.mp among
  exact .inl direct

end Entries

end SynapseOS.FilesystemTools
