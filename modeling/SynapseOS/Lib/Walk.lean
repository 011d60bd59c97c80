import SynapseOS.Lib.FileSystem

/-! Walks of a directory tree with a stack of the directories that are still to be listed. -/

namespace SynapseOS

variable {Name : Type}

mutual

def Node.total (weight : Node Name → Nat) : Node Name → Nat
  | .file inode => weight (.file inode)
  | .link => weight .link
  | .special => weight .special
  | .directory entries => weight (.directory entries) + Entries.total weight entries

def Entries.total (weight : Node Name → Nat) : List (Name × Node Name) → Nat
  | [] => 0
  | (_, node) :: rest => node.total weight + Entries.total weight rest

end

structure Frame (Name : Type) where
  path : List Name
  depth : Nat
  entries : Entries Name

/-- What a walk does with a directory that it opens, and with each entry of it. -/
structure Visitor (σ ε Name : Type) where
  opens : σ → Frame Name → Except ε σ
  visits : σ → Frame Name → Name → Node Name → Except ε σ

namespace Visitor

variable {σ ε : Type} (visitor : Visitor σ ε Name)

def list (frame : Frame Name) (state : σ) (stack : List (Frame Name)) :
    List (Name × Node Name) → Except ε (σ × List (Frame Name))
  | [] => .ok (state, stack)
  | (name, node) :: rest =>
      match visitor.visits state frame name node with
      | .error e => .error e
      | .ok seen =>
          match node with
          | .directory inner =>
              list frame seen (⟨frame.path ++ [name], frame.depth + 1, inner⟩ :: stack) rest
          | _ => list frame seen stack rest

def pending (weight : Node Name → Nat) (stack : List (Frame Name)) : Nat :=
  (stack.map fun frame => Entries.total weight frame.entries).sum

theorem pending_cons (weight : Node Name → Nat) (frame : Frame Name) (stack : List (Frame Name)) :
    pending weight (frame :: stack) = Entries.total weight frame.entries +
      pending weight stack := by
  simp [pending]

variable {visitor}

theorem list_weight {weight : Node Name → Nat} {frame : Frame Name} {state seen : σ}
    {stack left : List (Frame Name)} {entries : List (Name × Node Name)}
    (run : visitor.list frame state stack entries = .ok (seen, left)) :
    pending weight left + (entries.map fun entry => weight entry.2).sum =
      pending weight stack + Entries.total weight entries := by
  induction entries generalizing state stack with
  | nil =>
      cases run
      simp [Entries.total]
  | cons entry rest ih =>
      obtain ⟨name, node⟩ := entry
      unfold list at run
      cases visited : visitor.visits state frame name node with
      | error e =>
          rw [visited] at run
          cases run
      | ok next =>
          rw [visited] at run
          cases node with
          | directory inner =>
              have step := ih run
              rw [pending_cons] at step
              simp only [List.map_cons, List.sum_cons, Entries.total, Node.total] at step ⊢
              omega
          | file | link | special =>
              have step := ih run
              simp only [List.map_cons, List.sum_cons, Entries.total, Node.total]
              omega

theorem list_length {frame : Frame Name} {state seen : σ} {stack left : List (Frame Name)}
    {entries : List (Name × Node Name)}
    (run : visitor.list frame state stack entries = .ok (seen, left)) :
    left.length ≤ stack.length + entries.length := by
  induction entries generalizing state stack with
  | nil =>
      cases run
      exact le_refl _
  | cons entry rest ih =>
      obtain ⟨name, node⟩ := entry
      unfold list at run
      cases visited : visitor.visits state frame name node with
      | error e =>
          rw [visited] at run
          cases run
      | ok next =>
          rw [visited] at run
          cases node with
          | directory | file | link | special =>
              have step := ih run
              simp only [List.length_cons] at step ⊢
              omega

variable (visitor)

/-- The walk: the last directory that was pushed is listed next. -/
def run (state : σ) : List (Frame Name) → Except ε σ
  | [] => .ok state
  | frame :: rest =>
      match visitor.opens state frame with
      | .error e => .error e
      | .ok opened =>
          match _listed : visitor.list frame opened rest frame.entries with
          | .error e => .error e
          | .ok (seen, stack) => run seen stack
  termination_by stack => pending (fun _ => 1) stack + stack.length
  decreasing_by
    have lengths := list_length _listed
    have weights : pending (fun _ => 1) stack + (frame.entries.map fun _ => 1).sum =
        pending (fun _ => 1) rest + Entries.total (fun _ => 1) frame.entries := list_weight _listed
    simp only [List.map_const', List.sum_replicate, smul_eq_mul, mul_one] at weights
    rw [pending_cons, List.length_cons]
    omega

variable {visitor}

section Steps

variable {state last : σ} {stack : List (Frame Name)}

theorem run_cons {frame : Frame Name} (passed : visitor.run state (frame :: stack) = .ok last) :
    ∃ opened seen left, visitor.opens state frame = .ok opened ∧
      visitor.list frame opened stack frame.entries = .ok (seen, left) ∧
        visitor.run seen left = .ok last := by
  unfold run at passed
  cases opened : visitor.opens state frame with
  | error e =>
      rw [opened] at passed
      cases passed
  | ok next =>
      rw [opened] at passed
      dsimp only at passed
      split at passed
      · cases passed
      · next seen left listed => exact ⟨next, seen, left, rfl, listed, passed⟩

/-- Induction over a walk that passes. -/
theorem run_induction {motive : σ → List (Frame Name) → Prop} (nil : motive last [])
    (cons : ∀ state frame stack opened seen left, visitor.opens state frame = .ok opened →
      visitor.list frame opened stack frame.entries = .ok (seen, left) →
        motive seen left → motive state (frame :: stack))
    (passed : visitor.run state stack = .ok last) : motive state stack := by
  induction state, stack using run.induct visitor with
  | case1 state =>
      unfold run at passed
      cases passed
      exact nil
  | case2 state frame rest e refused =>
      obtain ⟨_, _, _, opened, _⟩ := run_cons passed
      rw [refused] at opened
      cases opened
  | case3 state frame rest opened entered e refused =>
      obtain ⟨_, _, _, again, listed, _⟩ := run_cons passed
      rw [entered] at again
      cases again
      rw [refused] at listed
      cases listed
  | case4 state frame rest opened entered seen stack listed ih =>
      obtain ⟨_, _, _, again, walked, rest_passed⟩ := run_cons passed
      rw [entered] at again
      cases again
      rw [listed] at walked
      cases walked
      exact cons _ _ _ _ _ _ entered listed (ih rest_passed)

theorem list_keeps {keeps : σ → Prop} {frame : Frame Name} {seen : σ} {left : List (Frame Name)}
    {entries : List (Name × Node Name)}
    (visits : ∀ s name node t, visitor.visits s frame name node = .ok t → keeps s → keeps t)
    (holds : keeps state) (run : visitor.list frame state stack entries = .ok (seen, left)) :
    keeps seen := by
  induction entries generalizing state stack with
  | nil =>
      cases run
      exact holds
  | cons entry rest ih =>
      obtain ⟨name, node⟩ := entry
      unfold list at run
      cases visited : visitor.visits state frame name node with
      | error e =>
          rw [visited] at run
          cases run
      | ok next =>
          rw [visited] at run
          have kept := visits _ _ _ _ visited holds
          cases node with
          | directory | file | link | special => exact ih kept run

theorem run_keeps {keeps : σ → Prop}
    (opens : ∀ s frame t, visitor.opens s frame = .ok t → keeps s → keeps t)
    (visits : ∀ s frame name node t, visitor.visits s frame name node = .ok t → keeps s → keeps t)
    (holds : keeps state) (passed : visitor.run state stack = .ok last) : keeps last := by
  have kept : keeps state → keeps last := by
    apply run_induction _ _ passed
    · exact id
    · intro state frame stack opened seen left entered listed ih before
      exact ih (list_keeps (visits · frame) (opens _ _ _ entered before) listed)
  exact kept holds

end Steps

section Measures

variable {weight : Node Name → Nat} {measure : σ → Nat}
  (visits : ∀ s frame name node t, visitor.visits s frame name node = .ok t →
    measure t = measure s + weight node)

include visits

theorem list_measures {frame : Frame Name} {state seen : σ} {stack left : List (Frame Name)}
    {entries : List (Name × Node Name)}
    (run : visitor.list frame state stack entries = .ok (seen, left)) :
    measure seen = measure state + (entries.map fun entry => weight entry.2).sum := by
  induction entries generalizing state stack with
  | nil =>
      cases run
      rfl
  | cons entry rest ih =>
      obtain ⟨name, node⟩ := entry
      unfold list at run
      cases visited : visitor.visits state frame name node with
      | error e =>
          rw [visited] at run
          cases run
      | ok next =>
          rw [visited] at run
          have first := visits _ _ _ _ _ visited
          cases node with
          | directory | file | link | special =>
              have step := ih run
              simp only [List.map_cons, List.sum_cons]
              omega

/-- A walk that passes has counted the weight of every node, if each visit counts its own. -/
theorem run_measures
    (opens : ∀ s frame t, visitor.opens s frame = .ok t → measure t = measure s)
    {state last : σ} {stack : List (Frame Name)} (passed : visitor.run state stack = .ok last) :
    measure last = measure state + pending weight stack := by
  apply run_induction _ _ passed
  · rfl
  · intro state frame stack opened seen left entered listed ih
    have first := opens _ _ _ entered
    have counted := list_measures visits listed
    have moved : pending weight left + _ = _ := list_weight listed
    rw [pending_cons]
    omega

end Measures

end Visitor

end SynapseOS
