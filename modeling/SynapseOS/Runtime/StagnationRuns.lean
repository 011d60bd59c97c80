import SynapseOS.Lib.Streaks
import SynapseOS.Runtime.Fingerprints

/-! What the stagnation detector reports over a whole run (`core/runtime/stagnation.py`). -/

namespace SynapseOS.Runtime

open Tools Execution

/-- What the detector observes; the arguments are a dictionary, and so are the dictionaries in
them. -/
structure Progress where
  decision : RuntimeDecision
  verification : Option RuntimeVerification
  toolErrorCode : Option ToolErrorCode
  distinct : Distinct (.dict decision.arguments)

/-- Two observations have the same action, tool, outcome and code, and arguments of the same
structure. -/
structure SameProgress (first second : Progress) : Prop where
  action : first.decision.action = second.decision.action
  toolName : first.decision.toolName = second.decision.toolName
  outcome : (first.verification.map fun v => v.outcome) = second.verification.map fun v => v.outcome
  toolErrorCode : first.toolErrorCode = second.toolErrorCode
  arguments : SameStructure (.dict first.decision.arguments) (.dict second.decision.arguments)

section Runs

def fingerprint (sha256 : PyStr → String) (canonical : Canonical) : String := sha256 canonical.text

variable (sha256 : PyStr → String)

def StagnationDetector.next (detector : StagnationDetector) (progress : Progress) :
    Bool × StagnationDetector :=
  detector.observe (fingerprint sha256) progress.decision progress.verification
    progress.toolErrorCode

def StagnationDetector.after (detector : StagnationDetector) (seen : List Progress) :
    StagnationDetector :=
  seen.foldl (fun detector progress => (detector.next sha256 progress).2) detector

def Progress.canonical (progress : Progress) : Canonical where
  action := progress.decision.action
  toolName := progress.decision.toolName
  argumentShape := shape (.dict progress.decision.arguments)
  verificationOutcome := progress.verification.map fun v => v.outcome
  toolErrorCode := progress.toolErrorCode

def Progress.digest (progress : Progress) : String := fingerprint sha256 progress.canonical

theorem canonical_iff (first second : Progress) :
    first.canonical = second.canonical ↔ SameProgress first second := by
  have shapes := shape_iff _ first.distinct _ second.distinct
  rw [Progress.canonical, Progress.canonical, Canonical.mk.injEq, shapes]
  constructor
  · rintro ⟨action, name, arguments, outcome, code⟩
    exact ⟨action, name, outcome, code, arguments⟩
  · rintro ⟨action, name, outcome, code, arguments⟩
    exact ⟨action, name, arguments, outcome, code⟩

theorem next_push (detector : StagnationDetector) (progress : Progress) :
    (detector.next sha256 progress).2.digests = push detector.window detector.digests
      (progress.digest sha256) := by
  have own : fingerprint sha256 ⟨progress.decision.action, progress.decision.toolName,
      shape (.dict progress.decision.arguments), progress.verification.map fun v => v.outcome,
      progress.toolErrorCode⟩ = progress.digest sha256 := rfl
  unfold StagnationDetector.next StagnationDetector.observe
  dsimp only
  rw [own, push]
  cases detector.digests.getLast? with
  | none => rfl
  | some last => by_cases same : last = progress.digest sha256 <;> simp [same]

theorem next_digests (detector : StagnationDetector) (progress : Progress) :
    (detector.next sha256 progress).2.digests = push detector.window detector.digests
      (progress.digest sha256) ∧
      (detector.next sha256 progress).2.window = detector.window ∧
      ((detector.next sha256 progress).1 = true ↔
        (push detector.window detector.digests (progress.digest sha256)).length =
          detector.window) := by
  refine ⟨next_push sha256 detector progress, rfl, ?_⟩
  rw [← next_push]
  exact decide_eq_true_iff

/-- The digests are those that the queue keeps of all. -/
theorem after_digests (detector : StagnationDetector) (seen : List Progress) :
    (detector.after sha256 seen).window = detector.window ∧ (detector.after sha256 seen).digests =
      (seen.map (Progress.digest sha256)).foldl (push detector.window) detector.digests := by
  induction seen generalizing detector with
  | nil => exact ⟨rfl, rfl⟩
  | cons progress rest ih =>
      obtain ⟨digests, window, _⟩ := next_digests sha256 detector progress
      obtain ⟨later, all⟩ := ih (detector.next sha256 progress).2
      rw [window] at later all
      rw [digests] at all
      exact ⟨later, all⟩

variable {sha256}

theorem digest_iff (secure : Function.Injective sha256) (first second : Progress) :
    first.digest sha256 = second.digest sha256 ↔ SameProgress first second := by
  rw [← canonical_iff]
  constructor
  · intro same
    exact Canonical.text_injective (shape_sorted _) (shape_sorted _) (secure same)
  · intro same
    rw [Progress.digest, Progress.digest, same]

theorem rtake_map {α β : Type} (f : α → β) (items : List α) (count : Nat) :
    (items.map f).rtake count = (items.rtake count).map f := by
  rw [List.rtake_eq_reverse_take_reverse,
    List.rtake_eq_reverse_take_reverse, ← List.map_reverse, ← List.map_take,
    List.map_reverse]

end Runs

/-- The detector reports stagnation exactly if its last observations are as many as its window and
all make the same progress, where arguments make the same shape exactly if they have the same
structure. -/
theorem observe_exact (sha256 : PyStr → String) (secure : Function.Injective sha256) :
    (∀ (window : Nat) (bounds : 2 ≤ window ∧ window ≤ 20) (seen : List Progress) (now : Progress),
      ((StagnationDetector.after sha256 ⟨window, [], bounds⟩ seen).next sha256 now).1 = true ↔
        window ≤ (seen ++ [now]).length ∧ ∀ earlier ∈ (seen ++ [now]).rtake window,
          SameProgress earlier now) ∧
    ∀ first second, Distinct first → Distinct second →
    (shape first = shape second ↔ SameStructure first second) := by
  refine ⟨?_, fun first second one other => shape_iff first one second other⟩
  intro window bounds seen now
  have room : 0 < window := by omega
  obtain ⟨kept, digests⟩ := after_digests sha256 ⟨window, [], bounds⟩ seen
  have report :=
    (next_digests sha256 (StagnationDetector.after sha256 ⟨window, [], bounds⟩ seen) now).2.2
  have queue := queue_run room (seen.map (Progress.digest sha256)) (now.digest sha256)
  rw [List.foldl_append, List.foldl_cons, List.foldl_nil] at queue
  rw [kept, digests] at report
  dsimp only at report
  rw [queue, List.length_replicate] at report
  have full : min window (streak (seen.map (Progress.digest sha256) ++ [now.digest sha256])) =
      window ↔
      window ≤ streak (seen.map (Progress.digest sha256) ++ [now.digest sha256]) := by omega
  have digests_ : seen.map (Progress.digest sha256) ++ [now.digest sha256] = (seen ++ [now]).map
      (Progress.digest sha256) := by
    rw [List.map_append]
    rfl
  rw [report, full, streak_window room, digests_, List.length_map, rtake_map, List.forall_mem_map]
  simp only [digest_iff secure]

section Sample

def unary (point : Nat) : List Char := List.replicate point 'a' ++ ['b']

def sampleHash (text : PyStr) : String := String.ofList (text.flatMap unary ++ ['c'])

theorem unary_delimits (point : Nat) : Delimits unary point := by
  intro other rest behind same
  induction point generalizing other with
  | zero =>
      cases other with
      | zero => exact ⟨rfl, (List.cons.inj same).2⟩
      | succ other => cases (List.cons.inj same).1
  | succ point ih =>
      cases other with
      | zero => cases (List.cons.inj same).1
      | succ other =>
          obtain ⟨points, done⟩ := ih other (List.cons.inj same).2
          exact ⟨congrArg Nat.succ points, done⟩

theorem sampleHash_injective : Function.Injective sampleHash := by
  intro first second same
  have apart : StartsApart unary 'c' := by
    intro point
    cases point with
    | zero => exact ⟨'b', [], rfl, by decide⟩
    | succ point => exact ⟨'a', _, rfl, by decide⟩
  have chars := congrArg String.toList same
  rw [sampleHash, sampleHash, String.toList_ofList, String.toList_ofList] at chars
  exact (flatMap_delimits apart (fun point _ => unary_delimits point) chars).1

theorem tool_lettered : identifierPattern "tool" = true := by decide

def sampleProgress : Progress where
  decision :=
    { action := .toolCall
      toolName := some ⟨"tool", tool_lettered⟩
      arguments := [("path", .string "x")]
      rationale := ⟨"x", by decide, by decide⟩
      confidence := 1
      arguments_bounds := by decide
      confidence_bounds := certain
      action_fields := by decide }
  verification := none
  toolErrorCode := none
  distinct := ⟨List.nodup_singleton _, trivial, trivial⟩

theorem observe_exact_sample :
    ((StagnationDetector.after sampleHash ⟨2, [], by decide⟩ [sampleProgress]).next sampleHash
      sampleProgress).1 = true ↔
      2 ≤ ([sampleProgress] ++ [sampleProgress]).length ∧
        ∀ earlier ∈ ([sampleProgress] ++ [sampleProgress]).rtake 2,
          SameProgress earlier sampleProgress :=
  (observe_exact sampleHash sampleHash_injective).1 2 (by decide) [sampleProgress] sampleProgress

end Sample

end SynapseOS.Runtime
