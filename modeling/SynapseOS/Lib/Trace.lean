import Mathlib.Data.List.Basic
import Mathlib.Tactic

/-! Logs that grow at their end, and what holds of each entry in view of those before it. -/

namespace SynapseOS

variable {α : Type}

theorem split_concat {log before after : List α} {last entry : α}
    (split : log ++ [last] = before ++ entry :: after) :
    (after = [] ∧ before = log ∧ entry = last) ∨
      ∃ rest, after = rest ++ [last] ∧ log = before ++ entry :: rest := by
  rcases List.eq_nil_or_concat after with rfl | ⟨rest, final, rfl⟩
  · have ends := List.append_inj' split rfl
    exact .inl ⟨rfl, ends.1.symm, (List.cons.inj ends.2).1.symm⟩
  · have regrouped : log ++ [last] = (before ++ entry :: rest) ++ [final] := by
      rw [split]
      simp
    have ends := List.append_inj' regrouped rfl
    exact .inr ⟨rest, by rw [(List.cons.inj ends.2).1]; simp, ends.1⟩

/-- A log can be split in one way only at an entry of which something holds that holds of no
other. -/
theorem split_unique {p : α → Prop} {log before rest after : List α} {entry other : α}
    (first : ∀ x ∈ log, ¬ p x) (last : ∀ x ∈ rest, ¬ p x)
    (split : log ++ entry :: rest = before ++ other :: after) (holds : p other) :
    before = log ∧ other = entry ∧ after = rest := by
  rcases List.append_eq_append_iff.mp split with ⟨gap, rfl, tail⟩ | ⟨gap, rfl, tail⟩
  · cases gap with
    | nil =>
        obtain ⟨same, rfl⟩ := List.cons.inj tail
        exact ⟨List.append_nil _, same.symm, rfl⟩
    | cons head gap =>
        obtain ⟨_, rfl⟩ := List.cons.inj tail
        exact absurd holds (last other (List.mem_append_right _ List.mem_cons_self))
  · cases gap with
    | nil =>
        obtain ⟨same, rfl⟩ := List.cons.inj tail
        exact ⟨(List.append_nil _).symm, same, rfl⟩
    | cons head gap =>
        obtain ⟨rfl, _⟩ := List.cons.inj tail
        exact absurd holds (first other (List.mem_append_right _ List.mem_cons_self))

def Always (good : List α → α → Prop) (log : List α) : Prop :=
  ∀ before entry after, log = before ++ entry :: after → good before entry

variable {good : List α → α → Prop}

theorem always_nil : Always good [] := by
  intro before entry after split
  simp at split

theorem always_concat {log : List α} {last : α} (always : Always good log)
    (now : good log last) : Always good (log ++ [last]) := by
  intro before entry after split
  rcases split_concat split with ⟨rfl, rfl, rfl⟩ | ⟨rest, rfl, earlier⟩
  · exact now
  · exact always before entry rest earlier

section Bracketed

variable {opens : α → Prop} {closes : α → α → Prop} {log : List α}

/-- The entry after each opening one closes it, and no later entry does. -/
def Bracketed (opens : α → Prop) (closes : α → α → Prop) (log : List α) : Prop :=
  ∀ before first after, log = before ++ first :: after → opens first →
    ∃ last rest, after = last :: rest ∧ closes first last ∧ ∀ entry ∈ rest, ¬ closes first entry

theorem bracketed_nil : Bracketed opens closes [] := by
  intro before first after split
  simp at split

theorem bracketed_plain {entry : α} (bracketed : Bracketed opens closes log)
    (quiet : ¬ opens entry) (foreign : ∀ first ∈ log, opens first → ¬ closes first entry) :
    Bracketed opens closes (log ++ [entry]) := by
  intro before first after split begun
  rcases split_concat split with ⟨_, _, rfl⟩ | ⟨rest, rfl, earlier⟩
  · exact absurd begun quiet
  · have member : first ∈ log := by
      rw [earlier]
      exact List.mem_append_right _ List.mem_cons_self
    obtain ⟨last, others, rfl, closed, unclosed⟩ := bracketed before first rest earlier begun
    refine ⟨last, others ++ [entry], rfl, closed, ?_⟩
    intro other inside
    rcases List.mem_append.mp inside with early | late
    · exact unclosed other early
    · rw [List.mem_singleton.mp late]
      exact foreign first member begun

theorem bracketed_pair {first last : α} (bracketed : Bracketed opens closes log)
    (closed : closes first last) (quiet : ¬ opens last)
    (early : ∀ entry ∈ log, opens entry → ¬ closes entry first)
    (late : ∀ entry ∈ log, opens entry → ¬ closes entry last) :
    Bracketed opens closes (log ++ [first] ++ [last]) := by
  intro before entry after split begun
  rcases split_concat split with ⟨_, _, rfl⟩ | ⟨rest, rfl, earlier⟩
  · exact absurd begun quiet
  · rcases split_concat earlier with ⟨rfl, _, rfl⟩ | ⟨others, rfl, body⟩
    · exact ⟨last, [], rfl, closed, fun _ member => nomatch member⟩
    · have member : entry ∈ log := by
        rw [body]
        exact List.mem_append_right _ List.mem_cons_self
      obtain ⟨final, more, rfl, ends, unclosed⟩ := bracketed before entry others body begun
      refine ⟨final, more ++ [first] ++ [last], by simp, ends, ?_⟩
      intro other inside
      rcases List.mem_append.mp inside with front | same
      · rcases List.mem_append.mp front with old | same
        · exact unclosed other old
        · rw [List.mem_singleton.mp same]
          exact early entry member begun
      · rw [List.mem_singleton.mp same]
        exact late entry member begun

end Bracketed

end SynapseOS
