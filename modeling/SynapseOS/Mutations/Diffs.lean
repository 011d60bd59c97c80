import SynapseOS.Mutations.Recovery

/-! When the summary of a mutation counts the lines of the whole diff. -/

namespace SynapseOS.Mutations

open Tools Execution Workspaces Program

inductive DiffLine
  | hunk (ranges : String)
  | kept (line : String)
  | inserted (line : String)
  | deleted (line : String)
  deriving DecidableEq

namespace DiffLine

def text : DiffLine → String
  | .hunk ranges => "@@" ++ ranges
  | .kept line => " " ++ line
  | .inserted line => "+" ++ line
  | .deleted line => "-" ++ line

def inserts : DiffLine → Bool
  | .inserted _ => true
  | .hunk _ | .kept _ | .deleted _ => false

def deletes : DiffLine → Bool
  | .deleted _ => true
  | .hunk _ | .kept _ | .inserted _ => false

def Doubled : DiffLine → Prop
  | .inserted line => "++".toList <+: line.toList
  | .deleted line => "--".toList <+: line.toList
  | .hunk _ | .kept _ => False

end DiffLine

inductive LineEdit
  | keep (line : String)
  | insert (line : String)
  | delete (line : String)

def LineEdit.change? : LineEdit → Option DiffLine
  | .keep _ => none
  | .insert line => some (.inserted line)
  | .delete line => some (.deleted line)

def LineEdit.old? : LineEdit → Option String
  | .keep line | .delete line => some line
  | .insert _ => none

def LineEdit.new? : LineEdit → Option String
  | .keep line | .insert line => some line
  | .delete _ => none

def diffHeader : List String := ["--- before\n", "+++ after\n"]

/-- A correct unified diff of two texts: the edits lead from the lines of the one to the lines of
the other, the body shows their changes, and the header comes first. -/
structure UnifiedDiff (before after : String) (edits : List LineEdit) (body : List DiffLine)
    (lines : List String) : Prop where
  before_lines : String.join (edits.filterMap LineEdit.old?) = before
  after_lines : String.join (edits.filterMap LineEdit.new?) = after
  changes : (body.filter fun line => line.inserts || line.deletes) =
    edits.filterMap LineEdit.change?
  printed : lines = if body = [] then [] else diffHeader ++ body.map DiffLine.text

section Counting

/-- What `_bounded_diff` counts as added. -/
def plusLine (line : String) : Bool := line.startsWith "+" && !line.startsWith "+++"

def minusLine (line : String) : Bool := line.startsWith "-" && !line.startsWith "---"

def spent (lines : List String) : Nat := (lines.map String.utf8ByteSize).sum

/-- The lines that the loop of `_bounded_diff` takes up. -/
def reached (limit : Nat) : Nat → List String → List String
  | _, [] => []
  | size, line :: rest =>
      line :: if limit < size + line.utf8ByteSize then []
        else reached limit (size + line.utf8ByteSize) rest

theorem reached_front (limit size : Nat)
    (lines : List String) : reached limit size lines <+: lines := by
  induction lines generalizing size with
  | nil => exact List.prefix_rfl
  | cons line rest ih =>
      rw [reached, List.prefix_cons_inj]
      split
      · exact List.nil_prefix
      · exact ih _

theorem reached_iff {limit size : Nat} (small : size ≤ limit) (lines : List String) (place : Nat) :
    place < (reached limit size lines).length ↔ place < lines.length ∧
    size + spent (lines.take place) ≤ limit := by
  induction lines generalizing size place with
  | nil => simp [reached]
  | cons line rest ih =>
      cases place with
      | zero => simp [reached, spent, small]
      | succ place =>
          have cost : spent ((line :: rest).take (place + 1)) = line.utf8ByteSize + spent
              (rest.take place) := by
            simp [spent]
          rw [reached, cost, List.length_cons, List.length_cons, Nat.add_lt_add_iff_right,
            Nat.add_lt_add_iff_right]
          split
          · next large =>
              simp only [List.length_nil]
              omega
          · next fits =>
              rw [ih (by omega) place]
              omega

theorem plus_minus {line : String} (plus : plusLine line = true) : minusLine line = false := by
  unfold plusLine at plus
  unfold minusLine
  rw [Bool.and_eq_true] at plus
  have starts := String.startsWith_string_iff.mp plus.1
  rw [Bool.and_eq_false_iff]
  left
  rw [String.startsWith_string_eq_false_iff]
  intro other
  cases points : line.toList with
  | nil =>
      rw [points] at starts
      simp at starts
  | cons head tail =>
      rw [points] at starts other
      simp at starts other
      rw [← starts] at other
      cases other

theorem boundedDiff_counts (limits : MutationLimits) (diff : Diff) (lines : List String) :
    (boundedDiff limits diff lines).added =
        diff.added + (reached limits.maxDiffBytes diff.size lines).countP plusLine ∧
      (boundedDiff limits diff lines).removed =
        diff.removed + (reached limits.maxDiffBytes diff.size lines).countP minusLine := by
  induction lines generalizing diff with
  | nil => exact ⟨rfl, rfl⟩
  | cons line rest ih =>
      unfold boundedDiff reached
      by_cases plus : plusLine line = true
      · have minus := plus_minus plus
        rw [List.countP_cons_of_pos plus,
          List.countP_cons_of_neg (by rw [minus]; exact Bool.false_ne_true)]
        unfold plusLine at plus
        simp only [if_pos plus]
        split
        · exact ⟨rfl, rfl⟩
        · have later := ih { diff with
            added := diff.added + 1
            chunks := diff.chunks ++ [line]
            size := diff.size + line.utf8ByteSize }
          dsimp only at later
          rw [later.1, later.2]
          constructor <;> omega
      · rw [List.countP_cons_of_neg plus]
        by_cases minus : minusLine line = true
        · rw [List.countP_cons_of_pos minus]
          unfold plusLine at plus
          unfold minusLine at minus
          simp only [if_neg plus, if_pos minus]
          split
          · exact ⟨rfl, rfl⟩
          · have later := ih { diff with
              removed := diff.removed + 1
              chunks := diff.chunks ++ [line]
              size := diff.size + line.utf8ByteSize }
            dsimp only at later
            rw [later.1, later.2]
            constructor <;> omega
        · rw [List.countP_cons_of_neg minus]
          unfold plusLine at plus
          unfold minusLine at minus
          simp only [if_neg plus, if_neg minus]
          split
          · exact ⟨rfl, rfl⟩
          · exact ih { diff with
              chunks := diff.chunks ++ [line]
              size := diff.size + line.utf8ByteSize }

/-- A count of a front is the weaker count of the whole exactly when nothing is missed in the front
and nothing is left behind it. -/
theorem countP_front {α : Type} {counted wanted : α → Bool}
    (weaker : ∀ item, counted item = true → wanted item = true)
    (front back : List α) : front.countP counted = (front ++ back).countP wanted ↔
      (∀ item ∈ front, wanted item = true → counted item = true) ∧
      ∀ item ∈ back, wanted item = false := by
  have less : front.countP counted ≤ front.countP wanted :=
    List.countP_mono_left fun item _ => weaker item
  rw [List.countP_append]
  constructor
  · intro same
    have none_ : back.countP wanted = 0 := by omega
    refine ⟨?_, fun item among => ?_⟩
    · induction front with
      | nil => exact fun item among => (List.not_mem_nil among).elim
      | cons head rest ih =>
          have below : rest.countP counted ≤ rest.countP wanted :=
            List.countP_mono_left fun item _ => weaker item
          by_cases takes : counted head = true
          · rw [List.countP_cons_of_pos takes, List.countP_cons_of_pos (weaker head takes)] at same
            have later := ih below (by omega)
            intro item among wants
            rcases List.mem_cons.mp among with rfl | behind
            · exact takes
            · exact later item behind wants
          · have refuses : ¬ wanted head = true := by
              intro wants
              rw [List.countP_cons_of_neg takes, List.countP_cons_of_pos wants] at same
              omega
            rw [List.countP_cons_of_neg takes, List.countP_cons_of_neg refuses] at same
            have later := ih below (by omega)
            intro item among wants
            rcases List.mem_cons.mp among with rfl | behind
            · exact absurd wants refuses
            · exact later item behind wants
    · rw [List.countP_eq_zero] at none_
      exact Bool.not_eq_true _ ▸ none_ item among
  · rintro ⟨every, nothing⟩
    have none_ : back.countP wanted = 0 := by
      rw [List.countP_eq_zero]
      intro item among wants
      rw [nothing item among] at wants
      cases wants
    have equal : front.countP counted = front.countP wanted := by
      apply List.countP_congr
      intro item among
      exact ⟨weaker item, every item among⟩
    omega

theorem plusLine_text (line : DiffLine) :
    plusLine line.text = true ↔ line.inserts = true ∧ ¬ line.Doubled := by
  unfold plusLine
  rw [Bool.and_eq_true, Bool.not_eq_true', String.startsWith_string_iff,
    String.startsWith_string_eq_false_iff]
  cases line <;> simp [DiffLine.text, DiffLine.inserts, DiffLine.Doubled]

theorem minusLine_text (line : DiffLine) :
    minusLine line.text = true ↔ line.deletes = true ∧ ¬ line.Doubled := by
  unfold minusLine
  rw [Bool.and_eq_true, Bool.not_eq_true', String.startsWith_string_iff,
    String.startsWith_string_eq_false_iff]
  cases line <;> simp [DiffLine.text, DiffLine.deletes, DiffLine.Doubled]

/-- The changed lines of a diff are taken up, and none of them looks like a line of the header. -/
def Countable (limit : Nat) (body : List DiffLine) : Prop :=
  ∀ place line, body[place]? = some line → (line.inserts || line.deletes) = true →
    spent (diffHeader ++ (body.take place).map DiffLine.text) ≤ limit ∧ ¬ line.Doubled

def bodyReached (limit : Nat) (body : List DiffLine) : Nat :=
  (reached limit 0 (diffHeader ++ body.map DiffLine.text)).length - 2

theorem bodyReached_iff (limit : Nat) (body : List DiffLine) (place : Nat) :
    place < bodyReached limit body ↔
      place < body.length ∧ spent (diffHeader ++ (body.take place).map DiffLine.text) ≤ limit := by
  have whole := reached_iff (Nat.zero_le limit) (diffHeader ++ body.map DiffLine.text) (place + 2)
  have front : (diffHeader ++ body.map DiffLine.text).take (place + 2) =
      diffHeader ++ (body.take place).map DiffLine.text := by
    rw [diffHeader, List.map_take]
    rfl
  have size : (diffHeader ++ body.map DiffLine.text).length = body.length + 2 := by
    rw [diffHeader, List.length_append, List.length_map]
    exact Nat.add_comm _ _
  rw [front, size, Nat.zero_add] at whole
  unfold bodyReached
  omega

theorem countP_reached {counted : String → Bool}
    (header : ∀ line ∈ diffHeader, counted line = false) (limit : Nat)
    (body : List DiffLine) :
    (reached limit 0 (diffHeader ++ body.map DiffLine.text)).countP counted =
      (body.take (bodyReached limit body)).countP fun line => counted line.text := by
  have taken :=
    List.prefix_iff_eq_take.mp (reached_front limit 0 (diffHeader ++ body.map DiffLine.text))
  have none_ : ∀ number, (diffHeader.take number).countP counted = 0 := by
    intro number
    rw [List.countP_eq_zero]
    intro line among
    rw [header line (List.mem_of_mem_take among)]
    exact Bool.false_ne_true
  rw [taken, List.take_append, List.countP_append, none_, Nat.zero_add, ← List.map_take,
    List.countP_map]
  rfl

/-- Both counts of a diff are right exactly when it is countable. -/
theorem counts_iff (limit : Nat) (body : List DiffLine) :
    ((reached limit 0 (diffHeader ++ body.map DiffLine.text)).countP plusLine =
      body.countP DiffLine.inserts ∧
        (reached limit 0 (diffHeader ++ body.map DiffLine.text)).countP minusLine =
          body.countP DiffLine.deletes) ↔
      Countable limit body := by
  have adding : ∀ line : DiffLine, plusLine line.text = true → line.inserts = true :=
    fun line takes =>
    ((plusLine_text line).mp takes).1
  have deleting : ∀ line : DiffLine, minusLine line.text = true → line.deletes = true :=
    fun line takes =>
    ((minusLine_text line).mp takes).1
  have plus := countP_front adding (body.take (bodyReached limit body))
    (body.drop (bodyReached limit body))
  have minus := countP_front deleting (body.take (bodyReached limit body))
    (body.drop (bodyReached limit body))
  rw [List.take_append_drop] at plus minus
  have header : ∀ line ∈ diffHeader, plusLine line = false ∧ minusLine line = false := by
    intro line among
    unfold plusLine minusLine
    simp only [Bool.and_eq_false_iff, Bool.not_eq_false', String.startsWith_string_iff,
      String.startsWith_string_eq_false_iff]
    simp only [diffHeader, List.mem_cons, List.not_mem_nil, or_false] at among
    rcases among with rfl | rfl <;> decide
  rw [countP_reached (fun line among => (header line among).1),
    countP_reached (fun line among => (header line among).2), plus, minus]
  constructor
  · rintro ⟨⟨inserted, no_insert⟩, deleted, no_delete⟩ place line at_ changes
    have early : place < bodyReached limit body := by
      by_contra late
      have behind : line ∈ body.drop (bodyReached limit body) := by
        rw [List.mem_iff_getElem?]
        exact ⟨place - bodyReached limit body,
          by rw [List.getElem?_drop]; rw [← at_]; congr 1; omega⟩
      rw [no_insert line behind, no_delete line behind] at changes
      cases changes
    have front : line ∈ body.take (bodyReached limit body) := by
      rw [List.mem_iff_getElem?]
      exact ⟨place, by rw [List.getElem?_take_of_lt early, at_]⟩
    refine ⟨((bodyReached_iff limit body place).mp early).2, ?_⟩
    rcases Bool.or_eq_true_iff.mp changes with inserts | deletes
    · exact ((plusLine_text line).mp (inserted line front inserts)).2
    · exact ((minusLine_text line).mp (deleted line front deletes)).2
  · intro countable
    have shown : ∀ line ∈ body.take (bodyReached limit body), (line.inserts || line.deletes) =
        true →
        ¬ line.Doubled := by
      intro line among changes
      obtain ⟨place, at_⟩ := List.mem_iff_getElem?.mp (List.mem_of_mem_take among)
      exact (countable place line at_ changes).2
    have hidden : ∀ line ∈ body.drop (bodyReached limit body), (line.inserts || line.deletes) =
        false := by
      intro line among
      by_contra changes
      rw [Bool.not_eq_false] at changes
      obtain ⟨shift, at_⟩ := List.mem_iff_getElem?.mp among
      rw [List.getElem?_drop] at at_
      have fits := (countable _ line at_ changes).1
      have inside := (List.getElem?_eq_some_iff.mp at_).1
      have early := (bodyReached_iff limit body _).mpr ⟨inside, fits⟩
      omega
    refine ⟨⟨fun line among inserts => ?_, fun line among => ?_⟩, fun line among deletes => ?_,
      fun line among => ?_⟩
    · exact (plusLine_text line).mpr ⟨inserts, shown line among (by rw [inserts]; rfl)⟩
    · exact (Bool.or_eq_false_iff.mp (hidden line among)).1
    · exact (minusLine_text line).mpr ⟨deletes, shown line among (by rw [deletes, Bool.or_true])⟩
    · exact (Bool.or_eq_false_iff.mp (hidden line among)).2

end Counting

section Summary

variable {host : Host} {project : UUID} {target : List PyStr} {before after : ByteArray}
  {operation : MutationOperation} {disk last : Files} {output : MutationSummary}
  {oldText newText : String}

theorem summary_diff (old : decode before = .ok oldText) (new : decode after = .ok newText)
    (run : summary host project target before after operation disk = (.ok output, last)) :
    output.addedLines = (boundedDiff host.limits {} (host.unifiedDiff oldText newText)).added ∧
      output.removedLines =
        (boundedDiff host.limits {} (host.unifiedDiff oldText newText)).removed := by
  unfold summary at run
  rw [old, resume_ok_run, new, resume_ok_run] at run
  obtain ⟨path, _, _, rest⟩ := run_returned run
  cases rest
  exact ⟨rfl, rfl⟩

/-- A summary counts the inserted and the deleted lines of the whole diff exactly when the changed
lines are taken up before the output limit and none of them starts with its own sign twice. -/
theorem summary_counts {edits : List LineEdit} {body : List DiffLine}
    (old : decode before = .ok oldText) (new : decode after = .ok newText)
    (correct : UnifiedDiff oldText newText edits body (host.unifiedDiff oldText newText))
    (run : summary host project target before after operation disk = (.ok output, last)) :
    (output.addedLines = (edits.filterMap LineEdit.change?).countP DiffLine.inserts ∧
        output.removedLines = (edits.filterMap LineEdit.change?).countP DiffLine.deletes) ↔
      Countable host.limits.maxDiffBytes body := by
  obtain ⟨added, removed⟩ := summary_diff old new run
  have counts := boundedDiff_counts host.limits {} (host.unifiedDiff oldText newText)
  have inserts : (edits.filterMap LineEdit.change?).countP DiffLine.inserts =
      body.countP DiffLine.inserts := by
    rw [← correct.changes, List.countP_filter]
    apply List.countP_congr
    intro line _
    cases line.inserts <;> simp
  have deletes : (edits.filterMap LineEdit.change?).countP DiffLine.deletes =
      body.countP DiffLine.deletes := by
    rw [← correct.changes, List.countP_filter]
    apply List.countP_congr
    intro line _
    cases line.deletes <;> simp
  rw [added, removed, counts.1, counts.2, Nat.zero_add, Nat.zero_add, correct.printed,
    inserts, deletes]
  split
  · next empty =>
      rw [empty]
      constructor
      · intro _ place line at_
        cases at_
      · intro _
        exact ⟨rfl, rfl⟩
  · exact counts_iff host.limits.maxDiffBytes body

end Summary

def diffHost (body : List DiffLine) : Host :=
  { sampleHost .linked .read with unifiedDiff := fun _ _ => diffHeader ++ body.map DiffLine.text }

def oneChanged : List DiffLine := [.hunk " -1 +1 @@\n", .deleted "a\n", .inserted "b\n"]

theorem summary_counts_sample : ∃ output,
    summary (diffHost oneChanged) 1 [.ofString "old"] "a\n".toUTF8 "b\n".toUTF8 .write sampleDisk =
        (.ok output, sampleDisk) ∧
      ((output.addedLines = 1 ∧ output.removedLines = 1) ↔ Countable 100 oneChanged) := by
  have correct : UnifiedDiff "a\n" "b\n" [.delete "a\n", .insert "b\n"] oneChanged
      ((diffHost oneChanged).unifiedDiff "a\n" "b\n") :=
        ⟨by decide, by decide, by decide, by decide⟩
  obtain ⟨output, run⟩ : ∃ output,
      summary (diffHost oneChanged) 1 [.ofString "old"] "a\n".toUTF8 "b\n".toUTF8
        .write sampleDisk = (.ok output, sampleDisk) := ⟨_, rfl⟩
  exact ⟨output, run, summary_counts rfl rfl correct run⟩

def plusInserted : List DiffLine := [.hunk " -0,0 +1 @@\n", .inserted "++x\n"]

theorem line_uncounted : ∃ output,
    UnifiedDiff "" "++x\n" [.insert "++x\n"] plusInserted
      ((diffHost plusInserted).unifiedDiff "" "++x\n") ∧
      summary (diffHost plusInserted) 1 [.ofString "old"] "".toUTF8 "++x\n".toUTF8
        .write sampleDisk = (.ok output, sampleDisk) ∧
      output.addedLines = 0 ∧ output.truncated = false := by
  have correct : UnifiedDiff "" "++x\n" [.insert "++x\n"] plusInserted
      ((diffHost plusInserted).unifiedDiff "" "++x\n") :=
        ⟨by decide, by decide, by decide, by decide⟩
  exact ⟨_, correct, rfl, by decide +kernel, by decide +kernel⟩

end SynapseOS.Mutations
