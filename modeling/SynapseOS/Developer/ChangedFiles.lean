import SynapseOS.Developer.Truthful
import SynapseOS.Mutations.Recovery
import SynapseOS.Mutations.Summaries

/-! Whether the changed paths of a developer run are the files that its tools have changed
(`core/developer/evidence.py`, `infrastructure/tools/write.py`). -/

namespace SynapseOS.Developer

open Execution Tools Mutations
open Workspaces (pathParts asPosix Files)

section Calls

def toolOf : Mutation → String
  | .replace _ _ => "write_file"
  | .create _ _ => "create_file"
  | .patch _ _ => "patch_file"
  | .delete _ => "delete_file"

def writeInputPath (path : PyStr) : Bool :=
  decide (1 ≤ path.length ∧ path.length ≤ 4096 ∧ 0 ∉ path ∧ path.head? ≠ some 0x2F ∧
    PyStr.ofString ".." ∉ pathParts path)

def Attempt.writes (attempt : Attempt) : Bool :=
  decide (attempt.toolName ∈ writeTools) && attempt.result.any fun result =>
    decide (result.toolName.text = attempt.toolName ∧ result.status = .succeeded)

/-- A call, with what the mutator returned for it if it has changed a file. -/
structure Call where
  attempt : Attempt
  written : Option TransactionalToolOutput

/-- The write tools did what they answered. -/
structure Call.Performed (call : Call) : Prop where
  writes : call.attempt.writes = call.written.isSome
  mutated : ∀ output, call.written = some output → ∃ path host project root mutation disk after,
    call.attempt.arguments.get "path" = some (.string path) ∧
    writeInputPath (.ofString path) = true ∧
      mutation.relative = .ofString path ∧ call.attempt.toolName = toolOf mutation ∧
      mutate host project root mutation disk = (.ok output, after)

def Call.file (call : Call) : Option PyStr := call.written.map fun output => output.output.path

def Call.Normal (call : Call) : Prop :=
  ∀ path, call.attempt.arguments.get "path" = some (.string path) →
    (PyStr.ofString path).length ≤ 1024 ∧ asPosix (pathParts (.ofString path)) = .ofString path

def files (calls : List Call) : List PyStr := (calls.filterMap Call.file).eraseDups

def observed (calls : List Call) : Evidence := collected (calls.map Call.attempt)

def Exact (calls : List Call) : Prop :=
  (observed calls).changedPaths.map PyStr.ofString = files calls

/-- Each file is first changed under a path that is short and in normal form. -/
def FirstNormal (calls : List Call) : Prop :=
  ∀ front call back file, calls = front ++ call :: back → call.file = some file →
    file ∉ front.filterMap Call.file → call.Normal

end Calls

section Paths

/-- Of the paths that the write tools take, the evidence takes those that are short and in normal
form. -/
theorem changedPath_normal {path : String} (taken : writeInputPath (.ofString path) = true) :
    changedPath path = true ↔
      (PyStr.ofString path).length ≤ 1024 ∧
      asPosix (pathParts (.ofString path)) = .ofString path := by
  obtain ⟨some_, _, _, relative, inside⟩ := of_decide_eq_true taken
  unfold changedPath
  rw [decide_eq_true_eq]
  constructor
  · rintro ⟨_, short, _, _, normal⟩
    exact ⟨short, normal⟩
  · rintro ⟨short, normal⟩
    exact ⟨some_, short, relative, inside, normal⟩

end Paths

section Steps

variable {call : Call} {evidence : Evidence}

theorem execute_reads (performed : call.Performed) (none_ : call.written = none) :
    (evidence.execute call.attempt).changedPaths = evidence.changedPaths := by
  have silent : call.attempt.writes = false := by rw [performed.writes, none_]; rfl
  unfold Attempt.writes at silent
  unfold Evidence.execute
  cases answer : call.attempt.result with
  | none => rfl
  | some result =>
      rw [answer, Option.any_some] at silent
      dsimp only
      unfold Evidence.observe
      split
      · rfl
      · split
        · rfl
        · next named =>
            split
            · split <;> rfl
            · next succeeded =>
                rw [not_not] at named succeeded
                split
                · next write =>
                    rw [decide_eq_true write, Bool.true_and, decide_eq_false_iff_not] at silent
                    exact absurd ⟨named, succeeded⟩ silent
                · split
                  · unfold Evidence.observeCommand
                    split <;> rfl
                  · rfl

theorem execute_writes (performed : call.Performed) {output : TransactionalToolOutput}
    (written : call.written = some output) (room : evidence.recordCount < maxEvidenceRecords) :
    ∃ path, call.attempt.arguments.get "path" = some (.string path) ∧
      output.output.path = asPosix (pathParts (.ofString path)) ∧
      (changedPath path = true ↔ call.Normal) ∧
      (evidence.execute call.attempt).changedPaths =
        if changedPath path = true ∧ path ∉ evidence.changedPaths
          then evidence.changedPaths ++ [path]
        else evidence.changedPaths := by
  obtain ⟨path, host, project, root, mutation, disk, after, argument, taken, relative, tool, run⟩ :=
    performed.mutated output written
  have named := (mutate_names run).1
  rw [relative] at named
  have normal : changedPath path = true ↔ call.Normal := by
    rw [changedPath_normal taken]
    constructor
    · intro fits other same
      rw [argument] at same
      cases same
      exact fits
    · intro fits
      exact fits path argument
  refine ⟨path, argument, named, normal, ?_⟩
  have loud : call.attempt.writes = true := by rw [performed.writes, written]; rfl
  unfold Attempt.writes at loud
  rw [Bool.and_eq_true, decide_eq_true_eq, Option.any_eq_true] at loud
  obtain ⟨write, result, answer, both⟩ := loud
  obtain ⟨own, succeeded⟩ := of_decide_eq_true both
  unfold Evidence.execute
  rw [answer]
  dsimp only
  unfold Evidence.observe
  rw [if_neg (Nat.not_le_of_lt room), if_neg (not_not_intro own), if_neg (not_not_intro succeeded),
    if_pos write]
  unfold Evidence.observeWrite
  rw [argument]
  dsimp only
  by_cases fits : changedPath path = true <;> by_cases known :
    path ∈ evidence.changedPaths <;> simp [fits, known]

end Steps

section Runs

variable {calls front : List Call} {call : Call}

theorem files_none (unchanged : call.file = none) : files (front ++ [call]) = files front := by
  unfold files
  rw [List.filterMap_append, List.filterMap_cons_none unchanged, List.filterMap_nil,
    List.append_nil]

theorem files_known {file : PyStr} (changed : call.file = some file)
    (known : file ∈ front.filterMap Call.file) : files (front ++ [call]) = files front := by
  unfold files
  rw [List.filterMap_append, List.filterMap_cons_some changed, List.filterMap_nil,
    List.eraseDups_append,
    List.removeAll,
    List.filter_cons_of_neg (by rw [List.elem_eq_mem, decide_eq_true known]; decide)]
  simp

theorem files_fresh {file : PyStr} (changed : call.file = some file)
    (fresh : file ∉ front.filterMap Call.file) :
    files (front ++ [call]) = files front ++ [file] := by
  unfold files
  rw [List.filterMap_append, List.filterMap_cons_some changed, List.filterMap_nil,
    List.eraseDups_append,
    List.removeAll, List.filter_cons_of_pos (by rw [List.elem_eq_mem, decide_eq_false fresh]; rfl)]
  rfl

theorem observed_concat (front : List Call) (call : Call) :
    observed (front ++ [call]) = (observed front).execute call.attempt := by
  unfold observed
  rw [List.map_append, List.map_singleton, collected_concat]

theorem observed_room (few : front.length < maxEvidenceRecords) :
    (observed front).recordCount < maxEvidenceRecords := by
  unfold observed
  rw [collected_count]
  have counted := List.countP_le_length (p := Attempt.leavesRecord) (l := front.map Call.attempt)
  rw [List.length_map] at counted
  omega

/-- A call keeps the evidence exact, but for a first change under another spelling. -/
theorem exact_step (performed : call.Performed) (few : front.length < maxEvidenceRecords)
    (exact_ : Exact front) :
    Exact (front ++ [call]) ↔ ∀ file, call.file = some file → file ∉ front.filterMap Call.file →
    call.Normal := by
  unfold Exact at exact_ ⊢
  rw [observed_concat]
  cases written : call.written with
  | none =>
      have unchanged : call.file = none := by rw [Call.file, written]; rfl
      rw [execute_reads performed written, files_none unchanged]
      refine iff_of_true exact_ fun file changed => ?_
      rw [unchanged] at changed
      cases changed
  | some output =>
      have changed : call.file = some output.output.path := by rw [Call.file, written]; rfl
      obtain ⟨path, _, named, normal, executed⟩ :=
        execute_writes performed written (observed_room few)
      have spelled : changedPath path = true → PyStr.ofString path = output.output.path := by
        intro fits
        obtain ⟨_, _, _, _, same⟩ := of_decide_eq_true fits
        rw [named, same]
      have recorded : changedPath path = true → (path ∈ (observed front).changedPaths ↔
          output.output.path ∈ front.filterMap Call.file) := by
        intro fits
        rw [← spelled fits, ← List.mem_map_of_injective PyStr.ofString_injective, exact_]
        exact List.mem_eraseDups
      rw [executed]
      by_cases known : output.output.path ∈ front.filterMap Call.file
      · have same : ¬ (changedPath path = true ∧ path ∉ (observed front).changedPaths) := by
          rintro ⟨fits, fresh⟩
          exact fresh ((recorded fits).mpr known)
        rw [if_neg same, files_known changed known]
        refine iff_of_true exact_ fun file changes fresh => ?_
        rw [changed] at changes
        cases changes
        exact absurd known fresh
      · have first :
          (∀ file, call.file = some file → file ∉ front.filterMap Call.file → call.Normal) ↔
            changedPath path = true := by
          rw [normal]
          exact ⟨fun all => all _ changed known, fun fits _ _ _ => fits⟩
        rw [first, files_fresh changed known]
        by_cases fits : changedPath path = true
        · have fresh : path ∉ (observed front).changedPaths := fun there =>
            known ((recorded fits).mp there)
          rw [if_pos ⟨fits, fresh⟩, List.map_append, exact_, List.map_singleton, spelled fits]
          exact iff_of_true rfl fits
        · rw [if_neg fun both => fits both.1, exact_]
          refine iff_of_false (fun same => ?_) fits
          have longer := congrArg List.length same
          rw [List.length_append, List.length_singleton] at longer
          omega

/-- The changed paths are the changed files after each of at most 128 calls exactly when each file
is first changed under a path that is short and in normal form. -/
theorem changed_paths_exact {calls : List Call} (few : calls.length ≤ maxEvidenceRecords)
    (performed : ∀ call ∈ calls, call.Performed) :
    (∀ front, front <+: calls → Exact front) ↔ FirstNormal calls := by
  induction calls using List.reverseRecOn with
  | nil =>
      refine iff_of_true (fun front starts => ?_) fun front call back file splits => ?_
      · rw [List.prefix_nil.mp starts]
        rfl
      · cases front <;> cases splits
  | append_singleton front call ih =>
      rw [List.length_append, List.length_singleton] at few
      have earlier := ih (by omega) fun other among =>
        performed other (List.mem_append_left _ among)
      have own := performed call (List.mem_append_right _ (List.mem_singleton_self call))
      constructor
      · intro exact_
        have before := earlier.mp fun start starts =>
          exact_ start (starts.trans (List.prefix_append _ _))
        have step := (exact_step own (by omega) (exact_ front (List.prefix_append _ _))).mp
          (exact_ _ List.prefix_rfl)
        intro start other back file splits changed fresh
        rcases List.eq_nil_or_concat back with rfl | ⟨back, last, rfl⟩
        · obtain ⟨rfl, same⟩ := List.append_inj' splits rfl
          obtain rfl := List.singleton_inj.mp same
          exact step file changed fresh
        · rw [List.concat_eq_append, ← List.cons_append, ← List.append_assoc] at splits
          obtain ⟨same, _⟩ := List.append_inj' splits rfl
          exact before start other back file same changed fresh
      · intro normal
        have before := earlier.mpr fun start other back file splits changed fresh =>
          normal start other (back ++ [call]) file
            (by rw [splits, List.append_assoc, List.cons_append]) changed fresh
        intro start starts
        rcases List.prefix_concat_iff.mp starts with rfl | inside
        · exact (exact_step own (by omega) (before front List.prefix_rfl)).mpr
            fun file changed fresh =>
            normal front call [] file rfl changed fresh
        · exact before start inside

end Runs

section Sample

def writtenResult : ToolResult :=
  ⟨⟨"write_file", by decide⟩, .succeeded, [], none, none, 0, false, 0, immediate,
    succeeded_consistent⟩

def sampleWrite (path : String) (output : TransactionalToolOutput) : Call :=
  ⟨⟨"write_file", [("path", .string path), ("content", .string "new")], some writtenResult⟩,
    some output⟩

theorem sampleWrite_performed {path : String} {output : TransactionalToolOutput} {after : Files}
    (taken : writeInputPath (.ofString path) = true)
    (run : mutate (sampleHost .linked .read) 1 (.project 1)
      (.replace (.ofString path) (.ofString "new")) sampleDisk =
      (.ok output, after)) : (sampleWrite path output).Performed := by
  refine ⟨rfl, fun returned written => ?_⟩
  cases written
  exact ⟨path, _, _, _, _, _, _, rfl, taken, rfl, rfl, run⟩

theorem sampleWrite_file {path : String} {output : TransactionalToolOutput} {after : Files}
    (run : mutate (sampleHost .linked .read) 1 (.project 1)
      (.replace (.ofString path) (.ofString "new")) sampleDisk =
      (.ok output, after)) : (sampleWrite path output).file =
        some (asPosix (pathParts (.ofString path))) :=
  congrArg some (mutate_names run).1

/-- A file that is written again, under another spelling, is one changed path. -/
theorem changed_paths_exact_sample : ∃ first second,
    files [sampleWrite "old" first, sampleWrite "./old" second] = [.ofString "old"] ∧
      ∀ front, front <+: [sampleWrite "old" first, sampleWrite "./old" second] → Exact front := by
  obtain ⟨first, after, run⟩ : ∃ output after, mutate (sampleHost .linked .read) 1 (.project 1)
      (.replace (.ofString "old") (.ofString "new")) sampleDisk = (.ok output, after) := ⟨_, _, rfl⟩
  obtain ⟨second, later, again⟩ : ∃ output after, mutate (sampleHost .linked .read) 1 (.project 1)
      (.replace (.ofString "./old") (.ofString "new")) sampleDisk = (.ok output, after) :=
        ⟨_, _, rfl⟩
  have one := sampleWrite_file run
  have other := sampleWrite_file again
  have same : asPosix (pathParts (.ofString "./old")) = asPosix (pathParts (.ofString "old")) := by
    decide
  have few : [sampleWrite "old" first, sampleWrite "./old" second].length ≤ maxEvidenceRecords := by
    show 2 ≤ maxEvidenceRecords
    decide
  refine ⟨first, second, ?_, (changed_paths_exact few fun call among => ?_).mpr ?_⟩
  · unfold files
    rw [List.filterMap_cons_some one, List.filterMap_cons_some other, same]
    decide
  · rcases List.mem_pair.mp among with rfl | rfl
    · exact sampleWrite_performed (by decide) run
    · exact sampleWrite_performed (by decide) again
  · intro front call back file splits changed fresh
    cases front with
    | nil =>
        obtain ⟨rfl, _⟩ := List.cons.inj splits
        intro path named
        cases named
        decide
    | cons head rest =>
        obtain ⟨rfl, tail⟩ := List.cons.inj splits
        cases rest with
        | nil =>
            obtain ⟨rfl, _⟩ := List.cons.inj tail
            rw [other, same] at changed
            rw [List.filterMap_cons_some one] at fresh
            exact absurd (Option.some.inj changed ▸ List.mem_cons_self) fresh
        | cons next more => simp at tail

/-- A file that is written under another spelling is no changed path. -/
theorem spelling_dropped : ∃ output,
    (sampleWrite "./old" output).Performed ∧
    files [sampleWrite "./old" output] = [.ofString "old"] ∧
      (observed [sampleWrite "./old" output]).changedPaths = [] ∧
      ¬ Exact [sampleWrite "./old" output] := by
  obtain ⟨output, after, run⟩ : ∃ output after, mutate (sampleHost .linked .read) 1 (.project 1)
      (.replace (.ofString "./old") (.ofString "new")) sampleDisk = (.ok output, after) :=
        ⟨_, _, rfl⟩
  have named : files [sampleWrite "./old" output] = [.ofString "old"] := by
    have path := (mutate_names run).1
    change [output.output.path].eraseDups = _
    rw [path]
    decide
  have unseen : (observed [sampleWrite "./old" output]).changedPaths = [] := by
    change ((({} : Evidence).observeWrite [("path", .string "./old"),
      ("content", .string "new")])).changedPaths = []
    decide
  refine ⟨output, sampleWrite_performed (by decide) run, named, unseen, fun exact_ => ?_⟩
  unfold Exact at exact_
  rw [named, unseen] at exact_
  cases exact_

end Sample

end SynapseOS.Developer
