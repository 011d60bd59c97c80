import SynapseOS.Lib.Trace

/-! Logs whose entries have owners, in which the entries of an owner stand together. -/

namespace SynapseOS

variable {α ι : Type} {owner : α → ι} {log more block : List α} {id : ι}

/-- The entries of an owner are a block of the log. -/
def Segment (owner : α → ι) (log : List α) (id : ι) (block : List α) : Prop :=
  ∃ before after, log = before ++ block ++ after ∧ ∀ entry ∈ before ++ after, owner entry ≠ id

theorem segment_absent (absent : ∀ entry ∈ log, owner entry ≠ id) : Segment owner log id [] :=
  ⟨log, [], by simp, by simpa using absent⟩

theorem Segment.grow (segment : Segment owner log id block)
    (foreign : ∀ entry ∈ more, owner entry ≠ id) :
    Segment owner (log ++ more) id block := by
  obtain ⟨before, after, rfl, others⟩ := segment
  refine ⟨before, after ++ more, by simp, ?_⟩
  intro entry member
  rw [← List.append_assoc] at member
  rcases List.mem_append.mp member with old | new
  · exact others entry old
  · exact foreign entry new

/-- A block at the end of the log is continued there. -/
theorem segment_concat (absent : ∀ entry ∈ log, owner entry ≠ id) :
    Segment owner (log ++ block) id block :=
  ⟨log, [], by simp, by simpa using absent⟩

theorem Segment.member (segment : Segment owner log id block) {entry : α} (member : entry ∈ log)
    (owned : owner entry = id) : entry ∈ block := by
  obtain ⟨before, after, rfl, others⟩ := segment
  rcases List.mem_append.mp member with front | late
  · rcases List.mem_append.mp front with early | inside
    · exact absurd owned (others entry (List.mem_append_left _ early))
    · exact inside
  · exact absurd owned (others entry (List.mem_append_right _ late))

theorem Segment.around {front rest before after : List α} {entry : α}
    (segment : Segment owner log id (front ++ entry :: rest)) (owned : owner entry = id)
    (once : ∀ other ∈ front ++ rest, other ≠ entry) (split : log = before ++ entry :: after) :
    (∃ earlier, before = earlier ++ front) ∧ ∃ later, after = rest ++ later := by
  obtain ⟨prior, final, rfl, others⟩ := segment
  have first : ∀ other ∈ prior ++ front, ¬ other = entry := by
    intro other member same
    rcases List.mem_append.mp member with old | own
    · exact others other (List.mem_append_left _ old) (same ▸ owned)
    · exact once other (List.mem_append_left _ own) same
  have last : ∀ other ∈ rest ++ final, ¬ other = entry := by
    intro other member same
    rcases List.mem_append.mp member with own | old
    · exact once other (List.mem_append_right _ own) same
    · exact others other (List.mem_append_right _ old) (same ▸ owned)
  have regrouped : (prior ++ front) ++ entry :: (rest ++ final) = before ++ entry :: after := by
    rw [← split]
    simp
  obtain ⟨sameBefore, _, sameAfter⟩ := split_unique first last regrouped rfl
  exact ⟨⟨prior, sameBefore⟩, ⟨final, sameAfter⟩⟩

end SynapseOS
