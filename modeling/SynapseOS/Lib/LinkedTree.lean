import SynapseOS.Lib.Dict

/-! Directory trees with symbolic links, and the lookup of a path in them, which follows the links
that it meets, up to a number of them. -/

namespace SynapseOS

namespace LinkedTree

inductive Step (Name : Type)
  | here
  | up
  | into (name : Name)
  deriving DecidableEq, Repr

structure Target (Name : Type) where
  absolute : Bool
  steps : List (Step Name)
  deriving DecidableEq, Repr

inductive Item (Name : Type)
  | file
  | special
  | link (target : Target Name)
  | directory (entries : List (Name × Item Name))

inductive Fault
  | missing
  | notDirectory
  | loop
  /-- Any other error of a lookup. -/
  | refused
  deriving DecidableEq, Repr

end LinkedTree

open LinkedTree

/-- A tree that does not change, and the places that the system refuses to look at. -/
structure LinkedTree (Name : Type) where
  top : List (Name × Item Name)
  refuses : List Name → Bool

namespace LinkedTree

variable {Name : Type} [DecidableEq Name]

def standing : List Name → List (Name × Item Name) → Except Fault (Item Name)
  | [], entries => .ok (.directory entries)
  | name :: rest, entries =>
      match Assoc.get name entries with
      | none => .error .missing
      | some (.directory inner) => standing rest inner
      | some item => if rest.isEmpty then .ok item else .error .notDirectory

variable (tree : LinkedTree Name)

def stands (path : List Name) : Except Fault (Item Name) := standing path tree.top

def entry (path : List Name) (name : Name) : Except Fault (Item Name) :=
  match tree.stands path with
  | .error fault => .error fault
  | .ok (.directory entries) =>
      if tree.refuses (path ++ [name]) = true then .error .refused
      else
        match Assoc.get name entries with
        | some item => .ok item
        | none => .error .missing
  | .ok _ => .error .notDirectory

def enter (path : List Name) : Except Fault Unit :=
  match tree.stands path with
  | .error fault => .error fault
  | .ok (.directory _) => .ok ()
  | .ok _ => .error .notDirectory

/-- The lookup of steps below a path; what is done at a link is left open. -/
def walkWith (onLink : List Name → List (Step Name) → Except Fault (Item Name)) (follow : Bool) :
    List Name → List (Step Name) → Except Fault (Item Name)
  | path, [] => tree.stands path
  | path, .here :: rest => do
      tree.enter path
      walkWith onLink follow path rest
  | path, .up :: rest => do
      tree.enter path
      walkWith onLink follow path.dropLast rest
  | path, .into name :: rest =>
      match tree.entry path name with
      | .error fault => .error fault
      | .ok (.link target) =>
          if rest.isEmpty && !follow then .ok (.link target)
          else onLink (if target.absolute = true then [] else path) (target.steps ++ rest)
      | .ok _ => walkWith onLink follow (path ++ [name]) rest

def walk (follow : Bool) : Nat → List Name → List (Step Name) → Except Fault (Item Name)
  | 0 => tree.walkWith (fun _ _ => .error .loop) follow
  | links + 1 => tree.walkWith (walk follow links) follow

def lstat (path : List Name) : Except Fault (Item Name) := tree.walk false 40 [] (path.map .into)

def stat (path : List Name) : Except Fault (Item Name) := tree.walk true 40 [] (path.map .into)

inductive Direct : List Name → Prop
  | top : Direct []
  | down {path : List Name} {name : Name} {item : Item Name} (above : Direct path)
      (held : tree.entry path name = .ok item) (solid : ∀ target, item ≠ .link target) :
      Direct (path ++ [name])

section Laws

variable {tree} {path : List Name} {name : Name} {item : Item Name}

theorem standing_concat (entries : List (Name × Item Name)) {inner : List (Name × Item Name)}
    (found : standing path entries = .ok (.directory inner))
    (held : Assoc.get name inner = some item) : standing (path ++ [name]) entries = .ok item := by
  induction path generalizing entries with
  | nil =>
      cases found
      rw [List.nil_append, standing, held]
      cases item <;> rfl
  | cons first rest ih =>
      rw [standing] at found
      rw [List.cons_append, standing]
      cases there : Assoc.get first entries with
      | none =>
          rw [there] at found
          cases found
      | some node =>
          rw [there] at found
          cases node with
          | directory below => exact ih below found
          | file | special | link =>
              dsimp only at found
              split at found <;> cases found

theorem stands_entry (held : tree.entry path name = .ok item) :
    tree.stands (path ++ [name]) = .ok item := by
  unfold entry at held
  split at held
  · cases held
  · next entries found =>
      split at held
      · cases held
      · split at held
        · next node there =>
            cases held
            exact standing_concat tree.top found there
        · cases held
  · cases held

theorem direct_stands (direct : tree.Direct path) : ∃ item, tree.stands path = .ok item := by
  cases direct with
  | top => exact ⟨_, rfl⟩
  | down above held solid => exact ⟨_, stands_entry held⟩

theorem direct_parent (direct : tree.Direct path) : tree.Direct path.dropLast := by
  cases direct with
  | top => exact .top
  | down above held solid =>
      rw [List.dropLast_concat]
      exact above

variable {onLink : List Name → List (Step Name) → Except Fault (Item Name)} {follow : Bool}

theorem walkWith_into (rest : List (Step Name)) (held : tree.entry path name = .ok item)
    (solid : ∀ target, item ≠ .link target) :
    tree.walkWith onLink follow path (.into name :: rest) =
      tree.walkWith onLink follow (path ++ [name]) rest := by
  rw [walkWith, held]
  cases item with
  | link target => exact absurd rfl (solid target)
  | file | special | directory => rfl

/-- A lookup passes such a path. -/
theorem walkWith_direct (direct : tree.Direct path) (rest : List (Step Name)) :
    tree.walkWith onLink follow [] (path.map .into ++ rest) =
      tree.walkWith onLink follow path rest := by
  induction direct generalizing rest with
  | top => rfl
  | down above held solid ih =>
      rw [List.map_append, List.append_assoc, ih]
      exact walkWith_into rest held solid

theorem walk_direct (follow : Bool) (links : Nat) (direct : tree.Direct path)
    (rest : List (Step Name)) :
    tree.walk follow links [] (path.map .into ++ rest) = tree.walk follow links path rest := by
  cases links with
  | zero => exact walkWith_direct direct rest
  | succ links => exact walkWith_direct direct rest

theorem walk_nil (links : Nat) : tree.walk follow links path [] = tree.stands path := by
  cases links <;> rfl

theorem stat_direct (direct : tree.Direct path) : tree.stat path = tree.stands path := by
  have passed := walk_direct true 40 direct []
  rw [List.append_nil, walk_nil] at passed
  exact passed

theorem lstat_direct (direct : tree.Direct path) (name : Name) :
    tree.lstat (path ++ [name]) = tree.entry path name := by
  have passed := walk_direct false 40 direct [.into name]
  rw [lstat, List.map_append, List.map_cons, List.map_nil, passed, walk, walkWith]
  cases held : tree.entry path name with
  | error fault => rfl
  | ok item =>
      cases item with
      | link target => rfl
      | file | special | directory => exact stands_entry held

theorem walk_lost {fault : Fault} (follow : Bool) (links : Nat) (direct : tree.Direct path)
    (lost : tree.entry path name = .error fault) (rest : List Name) :
    tree.walk follow links [] ((path ++ name :: rest).map .into) = .error fault := by
  rw [List.map_append, walk_direct follow links direct]
  cases links <;> rw [List.map_cons, walk, walkWith, lost]

end Laws

end LinkedTree

end SynapseOS
