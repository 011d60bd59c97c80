import SynapseOS.Lib.Occurrences
import SynapseOS.Mutations.Recovery

/-! What a patch makes of a text, and when a part that is counted once stands once. -/

namespace SynapseOS.Mutations

open Tools Execution Workspaces Program Occurrences

section Counting

variable {old new : PyStr}

theorem count_nil (old : PyStr) (skip : Nat) : count old skip [] = 0 := rfl

theorem count_cons (old : PyStr) (point : Nat) (rest : PyStr) : count old 0 (point :: rest) =
    if old.isPrefixOf (point :: rest) = true then 1 + count old (old.length - 1) rest
    else count old 0 rest := rfl

theorem count_skip (old : PyStr) (skip : Nat) (text : PyStr) : count old skip text = count old 0
    (text.drop skip) := by
  induction text generalizing skip with
  | nil => rw [List.drop_nil, count_nil, count_nil]
  | cons point rest ih =>
      cases skip with
      | zero => rfl
      | succ skip => exact ih skip

theorem count_here (some_ : old ≠ []) (after : PyStr) : count old 0 (old ++ after) = 1 +
    count old 0 after := by
  cases old with
  | nil => exact absurd rfl some_
  | cons head tail =>
      have stands : (head :: tail).isPrefixOf (head :: (tail ++ after)) = true := by
        rw [List.isPrefixOf_iff_prefix]
        exact List.prefix_append (head :: tail) after
      rw [List.cons_append, count_cons, if_pos stands, count_skip]
      congr 2
      simp

theorem count_elsewhere {point : Nat} {rest : PyStr} (differs : ¬ old <+: point :: rest) :
    count old 0 (point :: rest) = count old 0 rest := by
  rw [count_cons, if_neg]
  rwa [List.isPrefixOf_iff_prefix]

theorem replaceOnce_elsewhere {point : Nat} {rest : PyStr} (differs : ¬ old <+: point :: rest) :
    replaceOnce old new (point :: rest) = point :: replaceOnce old new rest := by
  rw [replaceOnce, if_neg]
  rwa [List.isPrefixOf_iff_prefix]

theorem count_absent {text : PyStr} (absent : ¬ Occurs old text) : count old 0 text = 0 := by
  induction text with
  | nil => rfl
  | cons point rest ih =>
      rw [occurs_cons, not_or] at absent
      rw [count_elsewhere absent.1, ih absent.2]

/-- The first occurrence is the one that is counted and replaced. -/
theorem count_first (new : PyStr) (some_ : old ≠ []) {before after : PyStr}
    (first : ∀ start < before.length, ¬ OccursAt old (before ++ (old ++ after)) start) :
    count old 0 (before ++ (old ++ after)) = 1 + count old 0 after ∧
      replaceOnce old new (before ++ (old ++ after)) = before ++ (new ++ after) := by
  induction before with
  | nil =>
      refine ⟨count_here some_ after, ?_⟩
      cases old with
      | nil => exact absurd rfl some_
      | cons head tail =>
          have stands : (head :: tail).isPrefixOf (head :: (tail ++ after)) = true := by
            rw [List.isPrefixOf_iff_prefix]
            exact List.prefix_append (head :: tail) after
          rw [List.nil_append, List.nil_append, List.cons_append, replaceOnce,
            if_pos stands, ← List.cons_append, List.drop_left]
  | cons point rest ih =>
      have differs : ¬ old <+: point :: (rest ++ (old ++ after)) := by
        have here := first 0 (by simp)
        rwa [occursAt_zero] at here
      have later : ∀ start < rest.length, ¬ OccursAt old (rest ++ (old ++ after)) start := by
        intro start below occurs
        exact first (start + 1) (by simpa using below) (occursAt_succ.mpr occurs)
      obtain ⟨counted, replaced⟩ := ih later
      rw [List.cons_append, count_elsewhere differs, replaceOnce_elsewhere differs,
        counted, replaced]
      exact ⟨rfl, rfl⟩

/-- A part is counted once and does not overlap itself exactly when it stands at one position. -/
theorem occursOnce_count (some_ : old ≠ []) (text : PyStr) :
    OccursOnce old text ↔ count old 0 text = 1 ∧ ¬ Overlaps old text := by
  by_cases occurs : Occurs old text
  · obtain ⟨before, after, rfl, first⟩ := occurs_first some_ occurs
    have counted := (count_first [] some_ first).1
    rw [occursOnce_iff some_ rfl first, counted]
    have none_ : count old 0 after = 0 ↔ ¬ Occurs old after := by
      constructor
      · intro zero later
        obtain ⟨front, back, rfl, least⟩ := occurs_first some_ later
        rw [(count_first [] some_ least).1] at zero
        omega
      · exact count_absent
    rw [← none_]
    constructor
    · rintro ⟨zero, apart⟩
      exact ⟨by omega, apart⟩
    · rintro ⟨one, apart⟩
      exact ⟨by omega, apart⟩
  · constructor
    · intro once
      exact absurd (occursOnce_occurs once) occurs
    · rintro ⟨one, _⟩
      rw [count_absent occurs] at one
      cases one

end Counting

section Composition

/-- The one occurrence of each old text is replaced, one after the other. -/
inductive Composes : PyStr → List TextReplacement → PyStr → Prop
  | done (text : PyStr) : Composes text [] text
  | replace (before after : PyStr) (replacement : TextReplacement) (rest : List TextReplacement)
      (final : PyStr)
      (only : ∀ start, OccursAt replacement.oldText
        (before ++ (replacement.oldText ++ after)) start →
        start = before.length)
      (later : Composes (before ++ (replacement.newText ++ after)) rest final) :
      Composes (before ++ (replacement.oldText ++ after)) (replacement :: rest) final

def turns : PyStr → List TextReplacement → List (TextReplacement × PyStr)
  | _, [] => []
  | text, replacement :: rest =>
      (replacement, text) :: turns (replaceOnce replacement.oldText replacement.newText text) rest

theorem composes_iff {text final : PyStr} {replacements : List TextReplacement}
    (solid : ∀ replacement ∈ replacements, replacement.oldText ≠ []) :
    Composes text replacements final ↔
      (∀ turn ∈ turns text replacements, OccursOnce turn.1.oldText turn.2) ∧
      final = patched text replacements := by
  induction replacements generalizing text with
  | nil =>
      constructor
      · intro composes
        cases composes
        exact ⟨fun turn among => (List.not_mem_nil among).elim, rfl⟩
      · rintro ⟨_, rfl⟩
        exact .done _
  | cons replacement rest ih =>
      have some_ := solid replacement List.mem_cons_self
      have others : ∀ replacement ∈ rest, replacement.oldText ≠ [] := fun replacement among =>
        solid replacement (List.mem_cons_of_mem _ among)
      have unfolds : patched text (replacement :: rest) =
          patched (replaceOnce replacement.oldText replacement.newText text) rest := rfl
      constructor
      · intro composes
        cases composes with
        | replace before after _ _ _ only later =>
            have first : ∀ start < before.length,
                ¬ OccursAt replacement.oldText
                  (before ++ (replacement.oldText ++ after)) start := by
              intro start below occurs
              have same := only start occurs
              omega
            have replaced := (count_first replacement.newText some_ first).2
            rw [← replaced] at later
            obtain ⟨each, ends⟩ := (ih others).mp later
            refine ⟨fun turn among => ?_, by rw [unfolds, ends]⟩
            rcases List.mem_cons.mp among with rfl | behind
            · exact ⟨before.length, occursAt_front before after, only⟩
            · exact each turn behind
      · rintro ⟨each, ends⟩
        obtain ⟨start, occurs, only⟩ := each _ List.mem_cons_self
        obtain ⟨before, after, stands, rfl⟩ := occursAt_splits occurs
          ((Nat.le_add_right _ _).trans (occursAt_fits some_ occurs))
        dsimp only at stands only occurs
        subst stands
        have first : ∀ start < before.length,
            ¬ OccursAt replacement.oldText (before ++ (replacement.oldText ++ after)) start := by
          intro start below there
          have same := only start there
          omega
        have replaced := (count_first replacement.newText some_ first).2
        refine .replace before after replacement rest final only ?_
        rw [← replaced, ih others]
        exact ⟨fun turn among => each turn (List.mem_cons_of_mem _ among), by rw [ends, unfolds]⟩

end Composition

section Patches

variable {limits : MutationLimits}

def Fits (limits : MutationLimits) (text : PyStr) : Prop :=
  ∃ encoded, encode text = .ok encoded ∧ encoded.size ≤ limits.maxPatchTextBytes

structure WithinLimits (limits : MutationLimits) (replacements : List TextReplacement) : Prop where
  number : 1 ≤ replacements.length ∧ replacements.length ≤ limits.maxPatchOperations
  solid : ∀ replacement ∈ replacements, replacement.oldText ≠ []
  old_fits : ∀ replacement ∈ replacements, Fits limits replacement.oldText
  new_fits : ∀ replacement ∈ replacements, Fits limits replacement.newText

def CountedOnce (text : PyStr) (replacements : List TextReplacement) : Prop :=
  ∀ turn ∈ turns text replacements, count turn.1.oldText 0 turn.2 = 1

/-- The loop accepts replacements within the limits exactly when each old text is counted once. -/
theorem applyReplacements_iff {text final : PyStr} {replacements : List TextReplacement}
    (solid : ∀ replacement ∈ replacements, replacement.oldText ≠ [])
    (old_fits : ∀ replacement ∈ replacements, Fits limits replacement.oldText)
    (new_fits : ∀ replacement ∈ replacements, Fits limits replacement.newText) :
    applyReplacements limits text replacements = .ok final ↔
      CountedOnce text replacements ∧ final = patched text replacements := by
  induction replacements generalizing text with
  | nil =>
      constructor
      · intro applied
        cases applied
        exact ⟨fun turn among => (List.not_mem_nil among).elim, rfl⟩
      · rintro ⟨_, rfl⟩
        rfl
  | cons replacement rest ih =>
      have some_ : replacement.oldText.isEmpty = false := by
        rw [List.isEmpty_eq_false_iff]
        exact solid replacement List.mem_cons_self
      obtain ⟨old, old_encoded, old_small⟩ := old_fits replacement List.mem_cons_self
      obtain ⟨new, new_encoded, new_small⟩ := new_fits replacement List.mem_cons_self
      have further := @ih (replaceOnce replacement.oldText replacement.newText text)
        (fun other among => solid other (List.mem_cons_of_mem _ among))
        (fun other among => old_fits other (List.mem_cons_of_mem _ among))
        (fun other among => new_fits other (List.mem_cons_of_mem _ among))
      have split : CountedOnce text (replacement :: rest) ↔ count replacement.oldText 0 text = 1 ∧
          CountedOnce (replaceOnce replacement.oldText replacement.newText text) rest := by
        unfold CountedOnce
        rw [turns, List.forall_mem_cons]
      have run : applyReplacements limits text (replacement :: rest) =
          if count replacement.oldText 0 text = 1 then
            applyReplacements limits (replaceOnce replacement.oldText replacement.newText text) rest
          else .error patchMismatch := by
        rw [applyReplacements, if_neg (by rw [some_]; exact Bool.false_ne_true), old_encoded]
        show (if limits.maxPatchTextBytes < old.size then _ else _) = _
        rw [if_neg (by omega), new_encoded]
        show (if limits.maxPatchTextBytes < new.size ∨ _ then _ else _) = _
        by_cases once : count replacement.oldText 0 text = 1
        · rw [if_pos once, if_neg]
          rintro (large | other)
          · omega
          · exact other once
        · rw [if_neg once, if_pos (.inr once)]
      rw [run, split]
      by_cases once : count replacement.oldText 0 text = 1
      · rw [if_pos once, further]
        exact ⟨fun both => ⟨⟨once, both.1⟩, both.2⟩, fun both => ⟨both.1.2, both.2⟩⟩
      · rw [if_neg once]
        constructor
        · intro raised
          cases raised
        · rintro ⟨⟨one, _⟩, _⟩
          exact absurd one once

def patchedContent (limits : MutationLimits) (original : ByteArray) (text : PyStr)
    (replacements : List TextReplacement) : Except Raised ByteArray := do
  let current ← applyReplacements limits text replacements
  let updated ← encodeInput limits current
  if updated = original then .error (failure .patchMismatch "Requested patch makes no change.")
  else .ok updated

def Changes (limits : MutationLimits) (original : ByteArray) (final : PyStr) (updated : ByteArray) :
    Prop :=
  encode final = .ok updated ∧ updated.size ≤ limits.maxInputBytes ∧ updated ≠ original

def Patches (limits : MutationLimits) (original : ByteArray) (text : PyStr)
    (replacements : List TextReplacement) (updated : ByteArray) : Prop :=
  ∃ final, Composes text replacements final ∧ Changes limits original final updated

/-- No patch with an accepted result replaces a text that overlaps itself. -/
def Unambiguous (limits : MutationLimits) (original : ByteArray) (text : PyStr)
    (replacements : List TextReplacement) : Prop :=
  CountedOnce text replacements →
    (∃ updated, Changes limits original (patched text replacements) updated) →
    ∀ turn ∈ turns text replacements, ¬ Overlaps turn.1.oldText turn.2

theorem encodeInput_iff {final : PyStr} {updated : ByteArray} :
    encodeInput limits final = .ok updated ↔ encode final = .ok updated ∧
    updated.size ≤ limits.maxInputBytes := by
  unfold encodeInput
  cases encoded : encode final with
  | error e =>
      constructor
      · intro raised
        cases raised
      · rintro ⟨same, _⟩
        cases same
  | ok bytes =>
      show (if limits.maxInputBytes < bytes.size then _ else _) = _ ↔ _
      split
      · next large =>
          constructor
          · intro raised
            cases raised
          · rintro ⟨same, small⟩
            cases same
            omega
      · next small =>
          constructor
          · intro same
            cases same
            exact ⟨rfl, by omega⟩
          · rintro ⟨same, _⟩
            cases same
            rfl

theorem patchedContent_eq (original : ByteArray) (text : PyStr)
    (replacements : List TextReplacement) : patchedContent limits original text replacements =
      match applyReplacements limits text replacements with
      | .error e => .error e
      | .ok current =>
          match encodeInput limits current with
          | .error e => .error e
          | .ok updated =>
              if updated = original then
                .error (failure .patchMismatch "Requested patch makes no change.")
              else .ok updated := by
  unfold patchedContent
  cases applyReplacements limits text replacements with
  | error e => rfl
  | ok current =>
      show (encodeInput limits current >>= fun updated => _) = _
      dsimp only
      cases encodeInput limits current with
      | error e => rfl
      | ok updated => rfl

theorem patchedContent_iff {original updated : ByteArray} {text : PyStr}
    {replacements : List TextReplacement} (within : WithinLimits limits replacements) :
    patchedContent limits original text replacements = .ok updated ↔
      CountedOnce text replacements ∧
      Changes limits original (patched text replacements) updated := by
  have loop : ∀ final, applyReplacements limits text replacements = .ok final ↔
      CountedOnce text replacements ∧ final = patched text replacements := fun final =>
    applyReplacements_iff within.solid within.old_fits within.new_fits
  constructor
  · intro run
    obtain ⟨current, applied, rest⟩ := except_returned run
    obtain ⟨counted, rfl⟩ := (loop current).mp applied
    obtain ⟨bytes, encoded, last⟩ := except_returned rest
    obtain ⟨whole, small⟩ := encodeInput_iff.mp encoded
    split at last
    · cases last
    · next differs =>
        cases last
        exact ⟨counted, whole, small, differs⟩
  · rintro ⟨counted, whole, small, differs⟩
    rw [patchedContent_eq, (loop _).mpr ⟨counted, rfl⟩]
    dsimp only
    rw [encodeInput_iff.mpr ⟨whole, small⟩]
    dsimp only
    rw [if_neg differs]

theorem patches_iff {original updated : ByteArray} {text : PyStr}
    {replacements : List TextReplacement} (within : WithinLimits limits replacements) :
    Patches limits original text replacements updated ↔
      (CountedOnce text replacements ∧ ∀ turn ∈ turns text replacements,
        ¬ Overlaps turn.1.oldText turn.2) ∧
        Changes limits original (patched text replacements) updated := by
  have solid : ∀ {text : PyStr} {replacements : List TextReplacement},
      (∀ replacement ∈ replacements, replacement.oldText ≠ []) →
        ∀ turn ∈ turns text replacements, turn.1.oldText ≠ [] := by
    intro text replacements some_ turn among
    induction replacements generalizing text with
    | nil => cases among
    | cons replacement rest ih =>
        rcases List.mem_cons.mp among with rfl | behind
        · exact some_ replacement List.mem_cons_self
        · exact ih (fun other later => some_ other (List.mem_cons_of_mem _ later)) behind
  have each : (∀ turn ∈ turns text replacements, OccursOnce turn.1.oldText turn.2) ↔
      CountedOnce text replacements ∧ ∀ turn ∈ turns text replacements,
        ¬ Overlaps turn.1.oldText turn.2 := by
    constructor
    · intro once
      exact ⟨fun turn among =>
        ((occursOnce_count (solid within.solid turn among) turn.2).mp (once turn among)).1,
        fun turn among =>
          ((occursOnce_count (solid within.solid turn among) turn.2).mp (once turn among)).2⟩
    · rintro ⟨counted, apart⟩ turn among
      exact (occursOnce_count (solid within.solid turn among) turn.2).mpr ⟨counted turn among,
        apart turn among⟩
  unfold Patches
  constructor
  · rintro ⟨final, composes, changes⟩
    obtain ⟨once, rfl⟩ := (composes_iff within.solid).mp composes
    exact ⟨each.mp once, changes⟩
  · rintro ⟨both, changes⟩
    exact ⟨_, (composes_iff within.solid).mpr ⟨each.mpr both, rfl⟩, changes⟩

end Patches

section Run

variable {host : Host} {project : UUID} {root : RootPath} {relative : PyStr} {disk after : Files}
  {original : ByteArray} {target : List PyStr} {stat : StatResult} {text : String}

theorem patchUnlocked_run {replacements : List TextReplacement}
    (within : WithinLimits host.limits replacements)
    (read : readExisting host project root relative disk = (.ok (original, target, stat), after))
    (decoded : decode original = .ok text) :
    patchUnlocked host project root relative replacements disk =
      match patchedContent host.limits original (.ofString text) replacements with
      | .ok updated => replaceBytes host project target stat original updated .patch after
      | .error e => (.error e, after) := by
  have number := within.number
  unfold patchUnlocked
  rw [if_neg (by omega), run_ok read]
  simp only [decoded]
  rw [patchedContent_eq]
  cases applied : applyReplacements host.limits (.ofString text) replacements with
  | error e => rfl
  | ok current =>
      dsimp only
      cases encoded : encodeInput host.limits current with
      | error e =>
          simp only [resume_ok_run, encoded]
          rfl
      | ok updated =>
          simp only [resume_ok_run, encoded]
          by_cases same : updated = original
          · simp only [if_pos same]
            rfl
          · simp only [if_neg same]

/-- A patch does what it is for exactly when it is unambiguous. -/
theorem patch_composes {replacements : List TextReplacement}
    (within : WithinLimits host.limits replacements)
    (read : readExisting host project root relative disk = (.ok (original, target, stat), after))
    (decoded : decode original = .ok text) :
    (patchUnlocked host project root relative replacements disk =
      match patchedContent host.limits original (.ofString text) replacements with
      | .ok updated => replaceBytes host project target stat original updated .patch after
      | .error e => (.error e, after)) ∧
    ((∀ updated, patchedContent host.limits original (.ofString text) replacements = .ok updated ↔
        Patches host.limits original (.ofString text) replacements updated) ↔
      Unambiguous host.limits original (.ofString text) replacements) := by
  refine ⟨patchUnlocked_run within read decoded, ?_⟩
  simp only [patchedContent_iff within, patches_iff within]
  constructor
  · rintro same counted ⟨updated, changes⟩
    exact ((same updated).mp ⟨counted, changes⟩).1.2
  · intro unambiguous updated
    constructor
    · rintro ⟨counted, changes⟩
      exact ⟨⟨counted, unambiguous counted ⟨updated, changes⟩⟩, changes⟩
    · rintro ⟨⟨counted, _⟩, changes⟩
      exact ⟨counted, changes⟩

end Run

def patchDisk (content : String) : Files :=
  { sampleDisk with inodes := fun _ => ⟨content.toUTF8, 0o644, 1⟩ }

theorem one_within {replacement : TextReplacement} (solid : replacement.oldText ≠ [])
    (old_fits : Fits sampleLimits replacement.oldText)
    (new_fits : Fits sampleLimits replacement.newText) :
    WithinLimits sampleLimits [replacement] := by
  have number : 1 ≤ [replacement].length ∧
      [replacement].length ≤ sampleLimits.maxPatchOperations := by
    rw [List.length_singleton]
    decide
  refine ⟨number, ?_, ?_, ?_⟩ <;> rwa [List.forall_mem_singleton]

def chainedReplacements : List TextReplacement :=
  [⟨.ofString "b", .ofString "xy"⟩, ⟨.ofString "y", .ofString "z"⟩]

theorem chained_within : WithinLimits sampleLimits chainedReplacements := by
  refine ⟨by decide, ?_, ?_, ?_⟩ <;> rw [chainedReplacements, List.forall_mem_cons,
    List.forall_mem_singleton]
  · exact ⟨by decide, by decide⟩
  · exact ⟨⟨_, rfl, by decide⟩, _, rfl, by decide⟩
  · exact ⟨⟨_, rfl, by decide⟩, _, rfl, by decide⟩

theorem chained_unambiguous :
    Unambiguous sampleLimits "abc".toUTF8 (.ofString "abc") chainedReplacements := by
  intro _ _ turn among
  rintro ⟨first, second, _, _, later, before⟩
  have short : turn.1.oldText.length = 1 := by
    rw [chainedReplacements, turns, turns, turns] at among
    rcases List.mem_pair.mp among with rfl | rfl
    · rfl
    · rfl
  omega

theorem patch_composes_sample :
    Patches sampleLimits "abc".toUTF8 (.ofString "abc") chainedReplacements
    "axzc".toUTF8 := by
  obtain ⟨target, stat, after, read⟩ : ∃ target stat after,
      readExisting (sampleHost .linked .read) 1 (.project 1) (.ofString "old") (patchDisk "abc") =
        (.ok ("abc".toUTF8, target, stat), after) := ⟨_, _, _, rfl⟩
  have patched_ : patchedContent sampleLimits "abc".toUTF8 (.ofString "abc") chainedReplacements =
      .ok "axzc".toUTF8 := rfl
  exact ((patch_composes chained_within read rfl).2.mpr chained_unambiguous "axzc".toUTF8).mp
    patched_

/-- A text that overlaps itself is counted once and replaced where it stands first. -/
theorem patch_ambiguous : ∃ output after,
    patchUnlocked (sampleHost .linked .read) 1 (.project 1) (.ofString "old")
        [⟨.ofString "aa", .ofString "b"⟩] (patchDisk "aaa") = (.ok output, after) ∧
      view after (below 1 [.ofString "old"]) = some (some ("ba".toUTF8, 0o644)) ∧
      WithinLimits sampleLimits [⟨.ofString "aa", .ofString "b"⟩] ∧
      ∀ updated, ¬ Patches sampleLimits "aaa".toUTF8 (.ofString "aaa")
      [⟨.ofString "aa", .ofString "b"⟩] updated := by
  have within : WithinLimits sampleLimits [⟨.ofString "aa", .ofString "b"⟩] :=
    one_within (by decide) ⟨_, rfl, by decide⟩ ⟨_, rfl, by decide⟩
  refine ⟨_, _, rfl, rfl, within, ?_⟩
  intro updated patches
  rw [patches_iff within] at patches
  have apart := patches.1.2 _ List.mem_cons_self
  apply apart
  refine ⟨0, 1, ?_, ?_, by decide, by decide⟩
  · rw [OccursAt]
    decide
  · rw [OccursAt]
    decide

end SynapseOS.Mutations
