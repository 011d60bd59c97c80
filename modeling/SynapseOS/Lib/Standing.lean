import Mathlib.Data.List.Sort
import Mathlib.Tactic

/-! Where an item stands in a list that is sorted by keys. -/

namespace SynapseOS.Standing

variable {α κ : Type} [LinearOrder κ] {key : α → κ} {items other : List α} {item : α}

theorem sorted_unique (same : items.Perm other) (apart : (items.map key).Nodup)
    (sorted : items.Pairwise fun first second => key first ≤ key second)
    (otherSorted : other.Pairwise fun first second => key first ≤ key second) : items = other := by
  refine same.eq_of_pairwise ?_ sorted otherSorted
  intro first second among there below above
  exact List.inj_on_of_nodup_map apart among (same.mem_iff.mpr there) (le_antisymm below above)

/-- How many items have a smaller key. -/
def standing (key : α → κ) (items : List α) (bound : κ) : Nat :=
  items.countP fun item => decide (key item < bound)

theorem standing_perm {bound : κ} (same : items.Perm other) :
    standing key items bound = standing key other bound :=
  same.countP_eq _

theorem standing_mono {low high : κ} (below : low ≤ high) :
    standing key items low ≤ standing key items high := by
  apply List.countP_mono_left
  intro item _ smaller
  exact decide_eq_true ((of_decide_eq_true smaller).trans_le below)

/-- In a sorted list an item comes after those with a smaller key. -/
theorem findIdx_standing {chosen : α → Bool} (apart : (items.map key).Nodup)
    (sorted : items.Pairwise fun first second => key first ≤ key second) (among : item ∈ items)
    (alone : ∀ there ∈ items, chosen there = true ↔ there = item) :
    items.findIdx chosen = standing key items (key item) := by
  induction items with
  | nil => cases among
  | cons head tail ih =>
      rw [List.map_cons, List.nodup_cons] at apart
      rw [List.pairwise_cons] at sorted
      rw [List.findIdx_cons]
      rcases List.mem_cons.mp among with rfl | later
      · have picked : chosen item = true := (alone item List.mem_cons_self).mpr rfl
        have none_ : standing key tail (key item) = 0 := by
          rw [standing, List.countP_eq_zero]
          intro there present
          simpa using sorted.1 there present
        rw [picked, cond_true, standing, List.countP_cons_of_neg (by simp)]
        exact none_.symm
      · have different : head ≠ item := by
          rintro rfl
          exact apart.1 (List.mem_map_of_mem later)
        have passed : chosen head = false := by
          rw [Bool.eq_false_iff]
          intro picked
          exact different ((alone head List.mem_cons_self).mp picked)
        have smaller : key head < key item := by
          refine lt_of_le_of_ne (sorted.1 item later) fun same => apart.1 ?_
          rw [same]
          exact List.mem_map_of_mem later
        have rest : tail.findIdx chosen = standing key tail (key item) :=
          ih apart.2 sorted.2 later fun there present =>
            alone there (List.mem_cons_of_mem _ present)
        rw [passed, cond_false, rest]
        exact (List.countP_cons_of_pos (by simpa using smaller)).symm

theorem standing_replaced {front back : List α} {better : α} (improved : key better ≤ key item) :
    standing key (front ++ better :: back) (key better) ≤
      standing key (front ++ item :: back) (key item) := by
  have first : standing key front (key better) ≤ standing key front (key item) :=
    standing_mono improved
  have last : standing key back (key better) ≤ standing key back (key item) :=
    standing_mono improved
  unfold standing at first last ⊢
  rw [List.countP_append, List.countP_append, List.countP_cons_of_neg (by simp),
    List.countP_cons_of_neg (by simp)]
  omega

end SynapseOS.Standing
