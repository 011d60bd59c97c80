import SynapseOS.Mutations.Reading

/-! What a mutation that returns says of its target. -/

namespace SynapseOS.Mutations

open Tools Execution Workspaces Program

variable {host : Host} {project : UUID} {root : RootPath} {disk last : Files} {target : List PyStr}

theorem summary_path {before after : ByteArray} {operation : MutationOperation}
    {output : MutationSummary}
    (run : summary host project target before after operation disk = (.ok output, last)) :
    output.path = asPosix target := by
  obtain ⟨_, _, _, oldPassed⟩ := run_returned run
  obtain ⟨_, _, _, newPassed⟩ := run_returned oldPassed
  obtain ⟨path, _, resolved, made⟩ := run_returned newPassed
  obtain ⟨_, _, _, rootPassed⟩ := run_returned resolved
  obtain ⟨_, _, _, named⟩ := run_returned rootPassed
  cases named
  cases made
  rfl

def Names (project : UUID) (target : List PyStr) (output : TransactionalToolOutput) : Prop :=
  output.output.path = asPosix target ∧ output.transaction.target = below project target

theorem replaceBytes_names {stat : StatResult} {original replacement : ByteArray}
    {operation : MutationOperation} {output : TransactionalToolOutput}
    (run : replaceBytes host project target stat original replacement operation disk =
      (.ok output, last)) :
    Names project target output := by
  obtain ⟨_, _, _, areaPassed⟩ := run_returned run
  obtain ⟨_, _, _, backupPassed⟩ := run_returned areaPassed
  obtain ⟨_, _, _, temporaryPassed⟩ := run_returned backupPassed
  obtain ⟨changed, _, _, changePassed⟩ := run_returned temporaryPassed
  cases changed with
  | error e =>
      dsimp only at changePassed
      split at changePassed
      · obtain ⟨_, _, _, discarded⟩ := run_returned changePassed
        obtain ⟨_, _, _, discarded⟩ := run_returned discarded
        obtain ⟨_, _, _, raised⟩ := run_returned discarded
        cases raised
      · cases changePassed
  | ok _ =>
      obtain ⟨_, _, summarized, made⟩ := run_returned changePassed
      cases made
      exact ⟨summary_path summarized, rfl⟩

theorem createFile_names {replacement : ByteArray} {output : TransactionalToolOutput}
    (run : createFile host project target replacement disk = (.ok output, last)) :
    Names project target output := by
  obtain ⟨_, _, _, areaPassed⟩ := run_returned run
  obtain ⟨_, _, _, temporaryPassed⟩ := run_returned areaPassed
  obtain ⟨linked, _, _, linkPassed⟩ := run_returned temporaryPassed
  cases linked with
  | error e =>
      cases e with
      | os error =>
          obtain ⟨_, _, _, discarded⟩ := run_returned linkPassed
          obtain ⟨_, _, _, raised⟩ := run_returned discarded
          cases raised
      | _ => cases linkPassed
  | ok _ =>
      obtain ⟨_, _, summarized, made⟩ := run_returned linkPassed
      cases made
      exact ⟨summary_path summarized, rfl⟩

theorem deleteFile_names {stat : StatResult} {original : ByteArray}
    {output : TransactionalToolOutput}
    (run : deleteFile host project target stat original disk = (.ok output, last)) :
    Names project target output := by
  obtain ⟨_, _, _, areaPassed⟩ := run_returned run
  obtain ⟨_, _, _, backupPassed⟩ := run_returned areaPassed
  obtain ⟨changed, _, _, changePassed⟩ := run_returned backupPassed
  cases changed with
  | error e =>
      dsimp only at changePassed
      split at changePassed
      · obtain ⟨_, _, _, discarded⟩ := run_returned changePassed
        obtain ⟨_, _, _, raised⟩ := run_returned discarded
        cases raised
      · cases changePassed
  | ok _ =>
      obtain ⟨_, _, summarized, made⟩ := run_returned changePassed
      cases made
      exact ⟨summary_path summarized, rfl⟩

theorem readExisting_target {relative : PyStr} {original : ByteArray} {stat : StatResult}
    (run : readExisting host project root relative disk = (.ok (original, target, stat), last)) :
    target = pathParts relative :=
  (readExisting_returned (congrArg Prod.fst run)).1

theorem unlocked_names {mutation : Mutation} {output : TransactionalToolOutput}
    (run : unlocked host project root mutation disk = (.ok output, last)) :
    Names project (pathParts mutation.relative) output := by
  cases mutation with
  | replace relative content =>
      obtain ⟨⟨original, target, stat⟩, _, read, found⟩ := run_returned run
      obtain ⟨_, _, _, replaced⟩ := run_returned found
      rw [Mutation.relative, ← readExisting_target read]
      exact replaceBytes_names replaced
  | create relative content =>
      obtain ⟨⟨target, replacement⟩, _, resolved, created⟩ := run_returned run
      have requested := (resolveNew_returned (congrArg Prod.fst resolved)).1
      rw [Mutation.relative, ← requested]
      exact createFile_names created
  | patch relative replacements =>
      change patchUnlocked host project root relative replacements disk = _ at run
      unfold patchUnlocked at run
      split at run
      · cases run
      · obtain ⟨⟨original, target, stat⟩, _, read, found⟩ := run_returned run
        dsimp only at found
        cases decoded : decode original with
        | error _ =>
            rw [decoded] at found
            cases found
        | ok text =>
            rw [decoded] at found
            obtain ⟨_, _, _, edited⟩ := run_returned found
            obtain ⟨_, _, _, encoded⟩ := run_returned edited
            split at encoded
            · cases encoded
            · rw [Mutation.relative, ← readExisting_target read]
              exact replaceBytes_names encoded
  | delete relative =>
      obtain ⟨⟨original, target, stat⟩, _, read, found⟩ := run_returned run
      rw [Mutation.relative, ← readExisting_target read]
      exact deleteFile_names found

theorem mutate_names {mutation : Mutation} {output : TransactionalToolOutput}
    (run : mutate host project root mutation disk = (.ok output, last)) :
    Names project (pathParts mutation.relative) output := by
  obtain ⟨_, held, _, lockPassed⟩ := run_returned run
  rw [attempt_run] at lockPassed
  rcases ran : unlocked host project root mutation held with ⟨_ | returned, after⟩
  · rw [ran] at lockPassed
    obtain ⟨_, _, _, raised⟩ := run_returned lockPassed
    cases raised
  · rw [ran] at lockPassed
    cases lockPassed
    exact unlocked_names ran

end SynapseOS.Mutations
