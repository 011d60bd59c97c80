import Mathlib.Data.List.DropRight
import Mathlib.Tactic

/-! A bounded queue that is cleared when something else comes in, and the longest constant end of
all that came in. -/

namespace SynapseOS

section Windows

variable {α : Type} {window : Nat}

theorem rtake_replicate (count : Nat) (item : α) :
    (List.replicate count item).rtake window = List.replicate (min window count) item := by
  rw [List.rtake_eq_reverse_take_reverse, List.reverse_replicate, List.take_replicate,
    List.reverse_replicate]

theorem takeWhile_window (kept : α → Bool) (items : List α) (count : Nat) :
    count ≤ (items.takeWhile kept).length ↔ count ≤ items.length ∧
    ∀ item ∈ items.take count, kept item = true := by
  induction items generalizing count with
  | nil => simp
  | cons item rest ih =>
      cases count with
      | zero => simp
      | succ count =>
          by_cases keeps : kept item = true
          · rw [List.takeWhile_cons_of_pos keeps, List.length_cons, Nat.succ_le_succ_iff, ih,
              List.take_succ_cons, List.forall_mem_cons, List.length_cons, Nat.succ_le_succ_iff]
            simp only [keeps, true_and]
          · rw [List.takeWhile_cons_of_neg keeps, List.take_succ_cons, List.forall_mem_cons]
            simp [keeps]

end Windows

variable {α : Type} [DecidableEq α]

def push (window : Nat) (queue : List α) (item : α) : List α :=
  ((match queue.getLast? with
    | some last => if last ≠ item then [] else queue
    | none => []) ++ [item]).rtake window

def streak (history : List α) : Nat :=
  match history.reverse with
  | [] => 0
  | newest :: older => (older.takeWhile fun item => decide (item = newest)).length + 1

variable {window : Nat}

theorem streak_concat (history : List α) (item : α) :
    streak (history ++ [item]) = (history.reverse.takeWhile fun earlier =>
      decide (earlier = item)).length + 1 := by
  rw [streak, List.reverse_append]
  rfl

theorem streak_same (history : List α) (item : α) :
    streak (history ++ [item] ++ [item]) = streak (history ++ [item]) + 1 := by
  rw [streak_concat, streak_concat, List.reverse_append, List.reverse_singleton,
    List.singleton_append, List.takeWhile_cons_of_pos (by simp), List.length_cons]

theorem streak_other (history : List α) {item other : α} (differs : item ≠ other) :
    streak (history ++ [item] ++ [other]) = 1 := by
  rw [streak_concat, List.reverse_append, List.reverse_singleton, List.singleton_append,
    List.takeWhile_cons_of_neg (by simpa using differs)]
  rfl

theorem queue_run (room : 0 < window) (history : List α) (item : α) :
    (history ++ [item]).foldl (push window)
    [] = List.replicate (min window (streak (history ++ [item]))) item := by
  induction history using List.reverseRecOn generalizing item with
  | nil =>
      have single : streak [item] = 1 := streak_concat [] item
      rw [List.nil_append, single]
      exact rtake_replicate 1 item
  | append_singleton history last ih =>
      rw [List.foldl_append, ih last, List.foldl_cons, List.foldl_nil, push]
      have some_ : min window (streak (history ++ [last])) ≠ 0 := by
        rw [streak_concat]
        omega
      rw [List.getLast?_replicate, if_neg some_]
      dsimp only
      by_cases same : last = item
      · subst same
        rw [if_neg (not_not.mpr rfl), streak_same, ← List.replicate_succ', rtake_replicate]
        congr 1
        omega
      · rw [if_pos same, streak_other history same]
        exact rtake_replicate 1 item

/-- A history ends with so many equal items exactly if its last ones are there and equal the
last. -/
theorem streak_window (room : 0 < window) (history : List α) (item : α) :
    window ≤ streak (history ++ [item]) ↔
    window ≤ (history ++ [item]).length ∧ ∀ earlier ∈ (history ++ [item]).rtake window,
      earlier = item := by
  obtain ⟨count, rfl⟩ := Nat.exists_eq_add_of_le' room
  have last :
      (history ++ [item]).rtake (count + 1) = (item :: history.reverse.take count).reverse := by
    rw [List.rtake_eq_reverse_take_reverse, List.reverse_append]
    rfl
  rw [streak_concat, Nat.add_le_add_iff_right, takeWhile_window, last, List.length_append,
    List.length_reverse]
  simp only [List.mem_reverse, List.mem_cons, forall_eq_or_imp, decide_eq_true_eq,
    List.length_singleton, Nat.add_le_add_iff_right, true_and]

end SynapseOS
