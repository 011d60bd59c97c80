import Mathlib.Data.List.Basic
import Mathlib.Tactic

/-! Serial allocation: each request in turn is given the best of its items that is still free. -/

namespace SynapseOS.SerialAllocation

/-- A request in its turn: what is taken by then, and the item that it is given. -/
structure Round (ρ α κ : Type) where
  request : ρ
  taken : List κ
  given : Option α

variable {ρ α κ : Type} [DecidableEq κ]

section Allocation

variable (ranked : ρ → List α) (key : α → κ)

def allocate : List ρ → List κ → List (Round ρ α κ)
  | [], _ => []
  | request :: rest, taken =>
      let given := (ranked request).find? fun item => !taken.contains (key item)
      ⟨request, taken, given⟩ :: allocate rest ((given.map key).toList ++ taken)

def Round.Exhausted (round : Round ρ α κ) : Prop :=
  round.given = none → ∀ item ∈ ranked round.request, key item ∈ round.taken

/-- The allocation that sees the best items of a request only. -/
def cut (limit : ρ → Nat) (request : ρ) : List α := (ranked request).take (limit request)

def Round.Within (limit : ρ → Nat) (round : Round ρ α κ) : Prop :=
  ∀ item ∈ round.given, item ∈ cut ranked limit round.request

end Allocation

variable {ranked : ρ → List α} {key : α → κ} {limit : ρ → Nat}

theorem free_none {items : List α} {taken : List κ} :
    (items.find? fun item => !taken.contains (key item)) = none ↔
      ∀ item ∈ items, key item ∈ taken := by
  rw [List.find?_eq_none]
  simp

theorem free_seen (request : ρ) (taken : List κ) {item : α}
    (given : ((ranked request).find? fun item => !taken.contains (key item)) = some item) :
    ((cut ranked limit request).find? fun item => !taken.contains (key item)) = some item ↔
      item ∈ cut ranked limit request := by
  constructor
  · exact fun seen => List.mem_of_find?_eq_some seen
  · intro among
    have whole := given
    rw [← List.take_append_drop (limit request) (ranked request), List.find?_append] at whole
    change ((cut ranked limit request).find? _).or _ = _ at whole
    cases seen : (cut ranked limit request).find? fun item => !taken.contains (key item) with
    | some other => rwa [seen, Option.some_or] at whole
    | none =>
        have free := List.find?_some given
        have held := free_none.mp seen item among
        simp [held] at free

theorem free_unseen (request : ρ) (taken : List κ) {item : α}
    (given : ((ranked request).find? fun item => !taken.contains (key item)) = some item)
    (behind : item ∉ cut ranked limit request) :
    ((cut ranked limit request).find? fun item => !taken.contains (key item)) = none := by
  rw [← List.take_append_drop (limit request) (ranked request), List.find?_append] at given
  change ((cut ranked limit request).find? _).or _ = _ at given
  cases seen : (cut ranked limit request).find? fun item => !taken.contains (key item) with
  | none => rfl
  | some other =>
      rw [seen, Option.some_or] at given
      exact absurd (Option.some.inj given ▸ List.mem_of_find?_eq_some seen) behind

/-- No request that is given nothing had a free item exactly when, without the limits, each request
is given an item under its limit. -/
theorem exhausted_within (requests : List ρ) (taken : List κ) :
    (∀ round ∈ allocate (cut ranked limit) key requests taken, round.Exhausted ranked key) ↔
      ∀ round ∈ allocate ranked key requests taken, round.Within ranked limit := by
  induction requests generalizing taken with
  | nil => simp [allocate]
  | cons request rest ih =>
      simp only [allocate, List.forall_mem_cons]
      cases given : (ranked request).find? fun item => !taken.contains (key item) with
      | none =>
          have all := free_none.mp given
          have seen : ((cut ranked limit request).find? fun item => !taken.contains (key item)) =
              none := free_none.mpr fun item among => all item (List.mem_of_mem_take among)
          rw [seen]
          refine and_congr (iff_of_true (fun _ => all) ?_) (ih _)
          intro item none_
          cases none_
      | some item =>
          by_cases among : item ∈ cut ranked limit request
          · rw [(free_seen request taken given).mpr among]
            refine and_congr (iff_of_true (fun none_ => ?_) ?_) (ih _)
            · cases none_
            · intro other same
              exact Option.some.inj same ▸ among
          · rw [free_unseen request taken given among]
            refine iff_of_false (fun both => ?_) fun both => among (both.1 item rfl)
            have held := both.1 rfl item (List.mem_of_find?_eq_some given)
            have free := List.find?_some given
            simp [held] at free

theorem within_roomy {requests : List ρ} (taken : List κ)
    (roomy : ∀ request ∈ requests, (ranked request).length ≤ limit request) :
    ∀ round ∈ allocate ranked key requests taken, round.Within ranked limit := by
  induction requests generalizing taken with
  | nil => simp [allocate]
  | cons request rest ih =>
      obtain ⟨first, others⟩ := List.forall_mem_cons.mp roomy
      simp only [allocate, List.forall_mem_cons]
      refine ⟨fun item given => ?_, ih _ others⟩
      have among := List.mem_of_find?_eq_some given
      show item ∈ (ranked request).take (limit request)
      rw [List.take_of_length_le first]
      exact among

end SynapseOS.SerialAllocation
