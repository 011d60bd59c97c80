import Mathlib.Data.Finset.Lattice.Fold
import SynapseOS.Lib.Dict

/-! Directory trees below a fixed family of top directories, with one table of inodes. A call
that fails leaves the disk as it is. A path is followed through directories only. -/

namespace SynapseOS

inductive Node (Name : Type)
  | file (inode : Nat)
  | link
  | special
  | directory (entries : List (Name × Node Name))

inductive OSError
  /-- The call failed though the disk allows it. -/
  | fault
  | missing
  | exists_
  | notDirectory
  | isDirectory
  | notEmpty
  | invalid
  deriving DecidableEq, Repr

abbrev Entries (Name : Type) := List (Name × Node Name)

variable {Name Slot : Type}

mutual

def Node.bound : Node Name → Nat
  | .file inode => inode + 1
  | .link | .special => 0
  | .directory entries => Entries.bound entries

def Entries.bound : List (Name × Node Name) → Nat
  | [] => 0
  | (_, node) :: rest => max node.bound (Entries.bound rest)

end

theorem Entries.bound_append (front back : Entries Name) :
    Entries.bound (front ++ back) = max (Entries.bound front) (Entries.bound back) := by
  induction front with
  | nil => simp [Entries.bound]
  | cons entry rest ih =>
      obtain ⟨name, node⟩ := entry
      rw [List.cons_append, Entries.bound, Entries.bound, ih, max_assoc]

variable [DecidableEq Name]

namespace Entries

def enter : List Name → Entries Name → Except OSError (Entries Name)
  | [], entries => .ok entries
  | name :: rest, entries =>
      match Assoc.get name entries with
      | some (.directory inner) => enter rest inner
      | some _ => .error .notDirectory
      | none => .error .missing

def find (path : List Name) (name : Name) (entries : Entries Name) :
    Except OSError (Node Name) := do
  match Assoc.get name (← enter path entries) with
  | some node => .ok node
  | none => .error .missing

def alter (f : Entries Name → Entries Name) : List Name → Entries Name → Entries Name
  | [], entries => f entries
  | name :: rest, entries =>
      Assoc.adjust name (fun node => match node with
        | .directory inner => .directory (alter f rest inner)
        | other => other) entries

theorem enter_nil (entries : Entries Name) : enter [] entries = .ok entries := rfl

theorem enter_cons (name : Name) (rest : List Name) (entries : Entries Name) :
    enter (name :: rest) entries =
      match Assoc.get name entries with
      | some (.directory inner) => enter rest inner
      | some _ => .error .notDirectory
      | none => .error .missing := rfl

theorem alter_nil (f : Entries Name → Entries Name) (entries : Entries Name) :
    alter f [] entries = f entries := rfl

theorem alter_cons (f : Entries Name → Entries Name) (name : Name) (rest : List Name)
    (entries : Entries Name) : alter f (name :: rest) entries =
      Assoc.adjust name (fun node => match node with
        | .directory inner => .directory (alter f rest inner)
        | other => other) entries := rfl

theorem enter_alter (f : Entries Name → Entries Name) (path : List Name) (entries : Entries Name) :
    enter path (alter f path entries) = (enter path entries).map f := by
  induction path generalizing entries with
  | nil => rfl
  | cons name rest ih =>
      simp only [enter_cons, alter_cons, Assoc.get_adjust, if_true]
      rcases Assoc.get name entries with _ | node
      · rfl
      · cases node with
        | directory inner => exact ih inner
        | file inode => rfl
        | link => rfl
        | special => rfl

theorem find_eq (path : List Name) (name : Name) (entries : Entries Name) (node : Node Name) :
    find path name entries = .ok node ↔
      ∃ inner, enter path entries = .ok inner ∧ Assoc.get name inner = some node := by
  unfold find
  rcases enter path entries with error | inner
  · constructor
    · intro found
      cases found
    · rintro ⟨_, entered, _⟩
      cases entered
  · simp only [bind, Except.bind]
    rcases held : Assoc.get name inner with _ | other
    · constructor
      · intro found
        cases found
      · rintro ⟨_, entered, found⟩
        cases entered
        rw [held] at found
        cases found
    · constructor
      · intro found
        cases found
        exact ⟨inner, rfl, held⟩
      · rintro ⟨_, entered, found⟩
        cases entered
        rw [held] at found
        cases found
        rfl

theorem bound_get {name : Name} {entries : Entries Name} {node : Node Name}
    (held : Assoc.get name entries = some node) : node.bound ≤ bound entries := by
  induction entries with
  | nil => cases held
  | cons entry rest ih =>
      obtain ⟨key, value⟩ := entry
      rw [bound]
      by_cases same : key = name
      · simp only [Assoc.get, if_pos same] at held
        cases held
        exact le_max_left _ _
      · simp only [Assoc.get, if_neg same] at held
        exact le_trans (ih held) (le_max_right _ _)

theorem bound_enter {path : List Name} {entries inner : Entries Name}
    (entered : enter path entries = .ok inner) : bound inner ≤ bound entries := by
  induction path generalizing entries with
  | nil =>
      cases entered
      exact le_refl _
  | cons name rest ih =>
      simp only [enter_cons] at entered
      rcases held : Assoc.get name entries with _ | node
      · rw [held] at entered
        cases entered
      · rw [held] at entered
        cases node with
        | directory inside =>
            have below := bound_get held
            rw [Node.bound] at below
            exact le_trans (ih entered) below
        | file inode => cases entered
        | link => cases entered
        | special => cases entered

theorem bound_find {path : List Name} {name : Name} {entries : Entries Name} {inode : Nat}
    (found : find path name entries = .ok (.file inode)) : inode < bound entries := by
  obtain ⟨inner, entered, held⟩ := (find_eq path name entries _).mp found
  have below := bound_get held
  rw [Node.bound] at below
  exact lt_of_lt_of_le below (bound_enter entered)

theorem alter_alter (f g : Entries Name → Entries Name) (path : List Name)
    (entries : Entries Name) : alter f path (alter g path entries) = alter
      (f ∘ g) path entries := by
  induction path generalizing entries with
  | nil => rfl
  | cons name rest ih =>
      induction entries with
      | nil => rfl
      | cons entry others same =>
          obtain ⟨key, node⟩ := entry
          by_cases hit : key = name
          · cases node with
            | directory inner => simp [alter_cons, Assoc.adjust_cons, hit, ih]
            | file inode => simp [alter_cons, Assoc.adjust_cons, hit]
            | link => simp [alter_cons, Assoc.adjust_cons, hit]
            | special => simp [alter_cons, Assoc.adjust_cons, hit]
          · simp only [alter_cons, Assoc.adjust_cons, if_neg hit] at same ⊢
            rw [same]

def shape : Except OSError (Node Name) → Option (Option Nat)
  | .ok (.file inode) => some (some inode)
  | .ok _ => some none
  | .error _ => none

/-- A change of a directory that touches one name, and puts no directory there. -/
structure OnlyAt (name : Name) (f : Entries Name → Entries Name) : Prop where
  others : ∀ entries other, other ≠ name → Assoc.get other (f entries) = Assoc.get other entries
  leaf : ∀ entries inner, Assoc.get name (f entries) ≠ some (.directory inner)

theorem onlyAt_set (name : Name) (inode : Nat) : OnlyAt name (Assoc.set name (.file inode)) where
  others entries other different := by rw [Assoc.get_set, if_neg (Ne.symm different)]
  leaf entries inner held := by
    rw [Assoc.get_set, if_pos rfl] at held
    cases held

theorem onlyAt_erase (name : Name) : OnlyAt name (Assoc.erase (α := Node Name) name) where
  others entries other different := by rw [Assoc.get_erase, if_neg (Ne.symm different)]
  leaf entries inner held := by
    rw [Assoc.get_erase, if_pos rfl] at held
    cases held

theorem onlyAt_comp {name : Name} {f g : Entries Name → Entries Name} (outer : OnlyAt name f)
    (inner : OnlyAt name g) : OnlyAt name (f ∘ g) where
  others entries other different :=
    (outer.others _ other different).trans (inner.others entries other different)
  leaf _ := outer.leaf _

theorem find_nil (name : Name) (entries : Entries Name) : find [] name entries =
    match Assoc.get name entries with
    | some node => .ok node
    | none => .error .missing := rfl

theorem find_cons (head name : Name) (rest : List Name) (entries : Entries Name) :
    find (head :: rest) name entries =
      match Assoc.get head entries with
      | some (.directory inner) => find rest name inner
      | some _ => .error .notDirectory
      | none => .error .missing := by
  unfold find
  simp only [enter_cons]
  rcases Assoc.get head entries with _ | node
  · rfl
  · cases node <;> rfl

theorem shape_leaf {head : Name} {entries : Entries Name} (name : Name) (rest : List Name)
    (leaf : ∀ below, Assoc.get head entries ≠ some (.directory below)) :
    shape (find (head :: rest) name entries) = none := by
  rw [find_cons]
  rcases held : Assoc.get head entries with _ | node
  · rfl
  · cases node with
    | directory below => exact absurd held (leaf below)
    | file inode => rfl
    | link => rfl
    | special => rfl

theorem shape_alter {name other : Name} {f : Entries Name → Entries Name} {path place : List Name}
    {entries inner : Entries Name} (only : OnlyAt name f) (entered : enter path entries = .ok inner)
    (leaf : ∀ below, Assoc.get name inner ≠ some (.directory below))
    (apart : ¬ (place = path ∧ other = name)) :
    shape (find place other (alter f path entries)) = shape (find place other entries) := by
  induction path generalizing place entries with
  | nil =>
      obtain rfl : entries = inner := by simpa [enter_nil] using entered
      cases place with
      | nil =>
          have different : other ≠ name := fun same => apart ⟨rfl, same⟩
          rw [alter_nil, find_nil, find_nil, only.others entries other different]
      | cons head rest =>
          by_cases same : head = name
          · subst same
            rw [alter_nil, shape_leaf other rest (only.leaf entries), shape_leaf other rest leaf]
          · rw [alter_nil, find_cons, find_cons, only.others entries head same]
  | cons head rest ih =>
      cases place with
      | nil =>
          rw [alter_cons, find_nil, find_nil, Assoc.get_adjust]
          by_cases same : head = other
          · subst same
            rw [if_pos rfl]
            rcases Assoc.get head entries with _ | node
            · rfl
            · cases node <;> rfl
          · rw [if_neg same]
      | cons first others =>
          rw [alter_cons, find_cons, find_cons, Assoc.get_adjust]
          by_cases same : head = first
          · subst same
            rw [if_pos rfl]
            simp only [enter_cons] at entered
            rcases held : Assoc.get head entries with _ | node
            · rfl
            · rw [held] at entered
              cases node with
              | directory below =>
                  refine ih entered ?_
                  rintro ⟨rfl, rfl⟩
                  exact apart ⟨rfl, rfl⟩
              | file inode => rfl
              | link => rfl
              | special => rfl
          · rw [if_neg same]

theorem get_alter {name : Name} {entries inner : Entries Name} (f : Entries Name → Entries Name)
    (rest : List Name) (held : Assoc.get name entries = some (.directory inner)) :
    Assoc.get name (alter f (name :: rest) entries) = some (.directory (alter f rest inner)) := by
  simp [alter_cons, Assoc.get_adjust, held]

theorem enter_last {name : Name} {entries inner : Entries Name}
    (fresh : Assoc.get name entries = none) :
    enter [name] (entries ++ [(name, .directory inner)]) = .ok inner := by
  simp [enter_cons, enter_nil, Assoc.get_concat name name _ entries fresh]

theorem alter_last {name : Name} {entries inner : Entries Name} (f : Entries Name → Entries Name)
    (fresh : Assoc.get name entries = none) :
    alter f [name] (entries ++ [(name, .directory inner)]) =
      entries ++ [(name, .directory (f inner))] := by
  simp [alter_cons, alter_nil, Assoc.adjust_concat name _ _ entries fresh]

end Entries

structure Inode where
  content : ByteArray
  mode : Nat
  links : Nat

structure Disk (Slot Name : Type) where
  top : Slot → Entries Name
  inodes : Nat → Inode

/-- A name in a directory below one of the top directories. -/
structure Place (Slot Name : Type) where
  slot : Slot
  path : List Name
  name : Name
  deriving DecidableEq

namespace Disk

def find (disk : Disk Slot Name) (place : Place Slot Name) : Except OSError (Node Name) :=
  Entries.find place.path place.name (disk.top place.slot)

def fresh [Fintype Slot] (disk : Disk Slot Name) : Nat :=
  Finset.univ.sup fun slot => Entries.bound (disk.top slot)

def touch (disk : Disk Slot Name) (inode : Nat) (f : Inode → Inode) : Disk Slot Name :=
  { disk with inodes := Function.update disk.inodes inode (f (disk.inodes inode)) }

variable [DecidableEq Slot]

def alter (disk : Disk Slot Name) (slot : Slot) (path : List Name)
    (f : Entries Name → Entries Name) : Disk Slot Name :=
  { disk with top := Function.update disk.top slot (Entries.alter f path (disk.top slot)) }

def bind (disk : Disk Slot Name) (place : Place Slot Name) (node : Node Name) : Disk Slot Name :=
  disk.alter place.slot place.path (Assoc.set place.name node)

def unbind (disk : Disk Slot Name) (place : Place Slot Name) : Disk Slot Name :=
  disk.alter place.slot place.path (Assoc.erase place.name)

def unlinked (disk : Disk Slot Name) : Option (Node Name) → Disk Slot Name
  | some (.file inode) => disk.touch inode fun held => { held with links := held.links - 1 }
  | _ => disk

omit [DecidableEq Name] [DecidableEq Slot] in
@[simp] theorem unlinked_top (disk : Disk Slot Name) (node : Option (Node Name)) :
    (disk.unlinked node).top = disk.top := by
  unfold unlinked
  split
  · rfl
  · rfl

section Calls

variable (disk : Disk Slot Name) (place target : Place Slot Name)

def vacant : Except OSError Unit := do
  match Assoc.get place.name (← Entries.enter place.path (disk.top place.slot)) with
  | some _ => .error .exists_
  | none => .ok ()

def mkdir : Except OSError (Disk Slot Name) := do
  disk.vacant place
  .ok (disk.bind place (.directory []))

def rmdir : Except OSError (Disk Slot Name) := do
  match ← disk.find place with
  | .directory [] => .ok (disk.unbind place)
  | .directory _ => .error .notEmpty
  | _ => .error .notDirectory

def unlink : Except OSError (Disk Slot Name) := do
  match ← disk.find place with
  | .directory _ => .error .isDirectory
  | node => .ok ((disk.unbind place).unlinked (some node))

/-- `open` with `O_CREAT | O_EXCL`. -/
def create [Fintype Slot] (mode : Nat) : Except OSError (Disk Slot Name) := do
  disk.vacant place
  .ok ((disk.bind place (.file disk.fresh)).touch disk.fresh fun _ => ⟨.empty, mode, 1⟩)

def change (f : Inode → Inode) : Except OSError (Disk Slot Name) := do
  match ← disk.find place with
  | .file inode => .ok (disk.touch inode f)
  | _ => .error .invalid

def write (content : ByteArray) : Except OSError (Disk Slot Name) :=
  disk.change place fun held => { held with content := content }

def chmod (mode : Nat) : Except OSError (Disk Slot Name) :=
  disk.change place fun held => { held with mode := mode }

def link : Except OSError (Disk Slot Name) := do
  match ← disk.find place with
  | .file inode => do
      disk.vacant target
      .ok ((disk.bind target (.file inode)).touch inode fun held =>
        { held with links := held.links + 1 })
  | _ => .error .invalid

def givesWay : Node Name → Option (Node Name) → Except OSError Unit
  | _, none => .ok ()
  | .directory _, some (.directory []) => .ok ()
  | .directory _, some (.directory _) => .error .notEmpty
  | .directory _, some _ => .error .notDirectory
  | _, some (.directory _) => .error .isDirectory
  | _, some _ => .ok ()

/-- `rename`, which keeps two links of one file. -/
def rename : Except OSError (Disk Slot Name) := do
  let node ← disk.find place
  let held := Assoc.get target.name (← Entries.enter target.path (disk.top target.slot))
  givesWay node held
  if place.slot = target.slot ∧ (place.path ++ [place.name]).isPrefixOf target.path then
    .error .invalid
  else
    match node, held with
    | .file inode, some (.file other) =>
        if inode = other then .ok disk
        else .ok (((disk.unbind place).bind target node).unlinked held)
    | _, _ => .ok (((disk.unbind place).bind target node).unlinked held)

end Calls

section Laws

variable (disk : Disk Slot Name) (place : Place Slot Name)

@[simp] theorem alter_top_self (slot : Slot) (path : List Name) (f : Entries Name → Entries Name) :
    (disk.alter slot path f).top slot = Entries.alter f path (disk.top slot) :=
  Function.update_self ..

theorem alter_top_other {slot other : Slot} (path : List Name) (f : Entries Name → Entries Name)
    (different : other ≠ slot) : (disk.alter slot path f).top other = disk.top other :=
  Function.update_of_ne different ..

@[simp] theorem alter_inodes (slot : Slot) (path : List Name) (f : Entries Name → Entries Name) :
    (disk.alter slot path f).inodes = disk.inodes := rfl

theorem alter_comm {slot other : Slot} (path way : List Name)
    (f g : Entries Name → Entries Name) (apart : slot ≠ other) :
    (disk.alter slot path f).alter other way g = (disk.alter other way g).alter slot path f := by
  simp only [alter, Function.update_of_ne apart, Function.update_of_ne (Ne.symm apart)]
  rw [Function.update_comm apart]

omit [DecidableEq Name] [DecidableEq Slot] in
@[simp] theorem touch_top (inode : Nat) (f : Inode → Inode) :
    (disk.touch inode f).top = disk.top := rfl

omit [DecidableEq Name] [DecidableEq Slot] in
@[simp] theorem touch_inodes_self (inode : Nat) (f : Inode → Inode) :
    (disk.touch inode f).inodes inode = f (disk.inodes inode) :=
  Function.update_self ..

omit [DecidableEq Name] [DecidableEq Slot] in
theorem touch_inodes_other {inode other : Nat} (f : Inode → Inode) (different : other ≠ inode) :
    (disk.touch inode f).inodes other = disk.inodes other :=
  Function.update_of_ne different ..

omit [DecidableEq Slot] in
theorem find_congr {disk other : Disk Slot Name} {place : Place Slot Name}
    (same : disk.top place.slot = other.top place.slot) : disk.find place = other.find place := by
  unfold find
  rw [same]

omit [DecidableEq Slot] in
theorem find_eq (node : Node Name) : disk.find place = .ok node ↔
    ∃ inner, Entries.enter place.path (disk.top place.slot) = .ok inner ∧
      Assoc.get place.name inner = some node :=
  Entries.find_eq ..

omit [DecidableEq Name] [DecidableEq Slot] in
theorem bound_le_fresh [Fintype Slot] (slot : Slot) :
    Entries.bound (disk.top slot) ≤ disk.fresh :=
  Finset.le_sup (f := fun slot => Entries.bound (disk.top slot)) (Finset.mem_univ slot)

omit [DecidableEq Slot] in
theorem find_below_fresh [Fintype Slot] {inode : Nat}
    (found : disk.find place = .ok (.file inode)) :
    inode < disk.fresh :=
  lt_of_lt_of_le (Entries.bound_find found) (disk.bound_le_fresh place.slot)

omit [DecidableEq Name] [DecidableEq Slot] in
theorem fresh_mono [Fintype Slot] {disk other : Disk Slot Name}
    (grows : ∀ slot, Entries.bound (disk.top slot) ≤ Entries.bound (other.top slot)) :
    disk.fresh ≤ other.fresh :=
  Finset.sup_mono_fun fun slot _ => grows slot

omit [DecidableEq Name] [DecidableEq Slot] in
theorem fresh_congr [Fintype Slot] {disk other : Disk Slot Name}
    (same : ∀ slot, Entries.bound (other.top slot) = Entries.bound (disk.top slot)) :
    other.fresh = disk.fresh :=
  le_antisymm (fresh_mono fun slot => (same slot).le) (fresh_mono fun slot => (same slot).ge)

theorem find_unbind_other {other : Place Slot Name} (apart : other.slot ≠ place.slot) :
    (disk.unbind place).find other = disk.find other :=
  find_congr (alter_top_other _ _ _ apart)

theorem find_bind_other {other : Place Slot Name} (node : Node Name)
    (apart : other.slot ≠ place.slot) : (disk.bind place node).find other = disk.find other :=
  find_congr (alter_top_other _ _ _ apart)

theorem enter_alter {inner : Entries Name} (f : Entries Name → Entries Name)
    (entered : Entries.enter place.path (disk.top place.slot) = .ok inner) :
    Entries.enter place.path ((disk.alter place.slot place.path f).top place.slot) =
      .ok (f inner) := by
  rw [alter_top_self, Entries.enter_alter, entered]
  rfl

theorem find_alter {inner : Entries Name} (f : Entries Name → Entries Name)
    (entered : Entries.enter place.path (disk.top place.slot) = .ok inner) :
    (disk.alter place.slot place.path f).find place =
      match Assoc.get place.name (f inner) with
      | some node => .ok node
      | none => .error .missing := by
  have there := disk.enter_alter place f entered
  unfold find Entries.find
  rw [there]
  rfl

omit [DecidableEq Slot] in
theorem vacant_ok : disk.vacant place = .ok () ↔
    ∃ inner, Entries.enter place.path (disk.top place.slot) = .ok inner ∧
      Assoc.get place.name inner = none := by
  unfold vacant
  rcases entered : Entries.enter place.path (disk.top place.slot) with error | inner
  · exact ⟨fun free => (nomatch free), fun ⟨_, entered, _⟩ => nomatch entered⟩
  · simp only [Bind.bind, Except.bind]
    rcases held : Assoc.get place.name inner with _ | node
    · exact ⟨fun _ => ⟨inner, rfl, held⟩, fun _ => rfl⟩
    · constructor
      · intro free
        cases free
      · rintro ⟨_, same, free⟩
        cases same
        rw [held] at free
        cases free

variable {disk place} {target : Place Slot Name} {inode : Nat}

section Renaming

variable {inner : Entries Name} {node : Node Name} {held : Option (Node Name)}

theorem rename_moved (found : disk.find place = .ok node)
    (entered : Entries.enter target.path (disk.top target.slot) = .ok inner)
    (there : Assoc.get target.name inner = held) (way : givesWay node held = .ok ())
    (apart : place.slot ≠ target.slot) (other : ∀ inode, node = .file inode →
      held ≠ some (.file inode)) :
    disk.rename place target = .ok (((disk.unbind place).bind target node).unlinked held) := by
  unfold rename
  rw [found]
  simp only [Bind.bind, Except.bind, entered, there, way]
  rw [if_neg fun both => apart both.1]
  split
  · next inode held =>
      rw [if_neg]
      rintro rfl
      exact other inode rfl rfl
  · rfl

theorem rename_refused {error : OSError} (found : disk.find place = .ok node)
    (entered : Entries.enter target.path (disk.top target.slot) = .ok inner)
    (there : Assoc.get target.name inner = held) (stands : givesWay node held = .error error) :
    disk.rename place target = .error error := by
  unfold rename
  rw [found]
  simp only [Bind.bind, Except.bind, entered, there, stands]

theorem rename_file {other : Nat} (found : disk.find place = .ok (.file inode))
    (covered : disk.find target = .ok (.file other)) (apart : place.slot ≠ target.slot)
    (different : inode ≠ other) : disk.rename place target =
      .ok (((disk.unbind place).bind target (.file inode)).unlinked (some (.file other))) := by
  obtain ⟨inner, entered, there⟩ := (find_eq _ _ _).mp covered
  refine rename_moved found entered there rfl apart ?_
  intro number own same
  cases own
  cases same
  exact different rfl

theorem rename_fresh (found : disk.find place = .ok (.file inode))
    (free : disk.vacant target = .ok ()) (apart : place.slot ≠ target.slot) :
    disk.rename place target = .ok ((disk.unbind place).bind target (.file inode)) := by
  obtain ⟨inner, entered, absent⟩ := (vacant_ok _ _).mp free
  refine rename_moved found entered absent rfl apart ?_
  intro number _ same
  cases same

theorem rename_directory {entries : Entries Name}
    (found : disk.find place = .ok (.directory entries))
    (entered : Entries.enter target.path (disk.top target.slot) = .ok inner)
    (free : Assoc.get target.name inner = none ∨
      Assoc.get target.name inner = some (.directory []))
    (apart : place.slot ≠ target.slot) :
    disk.rename place target = .ok ((disk.unbind place).bind target (.directory entries)) := by
  have other : ∀ (held : Option (Node Name)) (inode : Nat),
      Node.directory entries = .file inode → held ≠ some (.file inode) := by
    intro held inode own
    cases own
  rcases free with absent | bare
  · exact rename_moved found entered absent rfl apart (other _)
  · exact rename_moved found entered bare rfl apart (other _)

/-- Anything else that stands at the new name of a directory keeps it from moving. -/
theorem rename_blocked {entries : Entries Name}
    (found : disk.find place = .ok (.directory entries))
    (entered : Entries.enter target.path (disk.top target.slot) = .ok inner)
    (taken : Assoc.get target.name inner = some node) (full : node ≠ .directory []) :
    ∃ error, disk.rename place target = .error error := by
  cases node with
  | file | link | special => exact ⟨.notDirectory, rename_refused found entered taken rfl⟩
  | directory held =>
      cases held with
      | nil => exact absurd rfl full
      | cons entry rest => exact ⟨.notEmpty, rename_refused found entered taken rfl⟩

end Renaming

theorem link_ok (found : disk.find place = .ok (.file inode))
    (free : disk.vacant target = .ok ()) : disk.link place target =
      .ok ((disk.bind target (.file inode)).touch inode
        fun held => { held with links := held.links + 1 }) := by
  simp [Disk.link, found, free, Bind.bind, Except.bind]

theorem unlink_returned {after : Disk Slot Name} (run : disk.unlink place = .ok after) :
    ∃ node, disk.find place = .ok node ∧ after = (disk.unbind place).unlinked (some node) := by
  unfold unlink at run
  rcases held : disk.find place with error | node
  · rw [held] at run
    cases run
  · rw [held] at run
    refine ⟨node, rfl, ?_⟩
    cases node with
    | directory entries => cases run
    | file inode =>
        cases run
        rfl
    | link =>
        cases run
        rfl
    | special =>
        cases run
        rfl

theorem rmdir_returned {after : Disk Slot Name} (run : disk.rmdir place = .ok after) :
    after = disk.unbind place := by
  unfold rmdir at run
  rcases held : disk.find place with error | node
  · rw [held] at run
    cases run
  · rw [held] at run
    cases node with
    | file | link | special => cases run
    | directory entries =>
        cases entries with
        | nil =>
            cases run
            rfl
        | cons entry rest => cases run

theorem unlink_ok (found : disk.find place = .ok (.file inode)) : disk.unlink place =
    .ok ((disk.unbind place).touch inode fun held => { held with links := held.links - 1 }) := by
  simp [Disk.unlink, found, Disk.unlinked, Bind.bind, Except.bind]

end Laws

end Disk

end SynapseOS
