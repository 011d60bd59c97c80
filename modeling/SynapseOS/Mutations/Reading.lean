import SynapseOS.Mutations.Staging

/-! The checks before a mutation read the disk and leave it as it is. -/

namespace SynapseOS.Mutations

open Tools Execution Workspaces Program

theorem still_orWorkspace {α : Type} {body : Program Files Raised α} (still : Still body)
    (e : Raised) : Still (orWorkspace body e) := by
  apply still_bind (still_attempt still)
  intro outcome
  rcases outcome with raised | a
  · cases raised <;> exact still_raise _
  · exact still_pure a

theorem orWorkspace_returned {α : Type} {body : Program Files Raised α} {e : Raised} {a : α}
    {disk after : Files} (run : orWorkspace body e disk = (.ok a, after)) :
    body disk = (.ok a, after) := by
  unfold orWorkspace at run
  rw [attempt_run] at run
  rcases parts : body disk with ⟨raised | b, moved⟩
  · rw [parts] at run
    cases raised <;> cases run
  · rw [parts] at run
    exact run

theorem orWorkspace_ok {α : Type} {body : Program Files Raised α} {e : Raised} {a : α}
    {disk after : Files} (run : body disk = (.ok a, after)) :
    orWorkspace body e disk = (.ok a, after) := by
  unfold orWorkspace
  rw [run_attempt run]
  rfl

theorem orWorkspace_error {α : Type} {body : Program Files Raised α} {e : Raised}
    {code : WorkspaceErrorCode} {message : String} {disk after : Files}
    (run : body disk = (.error (.workspace code message), after)) :
    orWorkspace body e disk = (.error e, after) := by
  unfold orWorkspace
  rw [run_attempt run]
  rfl

section Paths

variable (faults : PathFaults) (project : UUID)

theorem still_canonicalRoot (faults : Faults) : Still (canonicalRoot faults project) := by
  apply still_orRaise
  apply still_bind (still_ask _ _)
  intro _
  apply still_bind (still_ask _ _)
  intro node
  cases node with
  | directory entries => exact still_pure _
  | file inode => exact still_raise _
  | link => exact still_raise _
  | special => exact still_raise _

theorem still_rejectSymlinkComponents (passed parts : List PyStr) :
    Still (rejectSymlinkComponents faults project passed parts) := by
  induction parts generalizing passed with
  | nil => exact still_pure _
  | cons component rest ih =>
      apply still_bind (still_attempt (still_ask _ _))
      intro outcome
      split
      · exact still_pure _
      · exact still_raise _
      · exact still_raise _
      · exact ih _

theorem still_resolveWorkspacePath (text : PyStr) (mustExist : Bool) (kind : ExpectedPathKind) :
    Still (resolveWorkspacePath faults project text mustExist kind) := by
  unfold resolveWorkspacePath
  apply still_ite (still_raise _)
  apply still_ite (still_raise _)
  apply still_bind (still_canonicalRoot project _)
  intro _
  apply still_ite (still_raise _)
  apply still_bind (still_rejectSymlinkComponents _ _ _ _)
  intro _
  apply still_orRaise
  apply still_bind (still_ask _ _)
  intro _
  apply still_bind (still_ask _ _)
  intro found
  cases found with
  | none => exact still_ite (still_raise _) (still_pure _)
  | some node =>
      apply still_bind (still_ask _ _)
      intro _
      exact still_ite (still_pure _) (still_raise _)

theorem still_relativeWorkspacePath (faults : Faults) (parts : List PyStr) :
    Still (relativeWorkspacePath faults project parts) := by
  apply still_bind (still_canonicalRoot project _)
  intro _
  apply still_bind (still_orRaise (still_ask _ _) _)
  intro _
  exact still_pure _

end Paths

section Checks

variable (host : Host) (project : UUID) (root : RootPath) (relative : PyStr)

theorem still_requireSameTarget (faults : Faults) (target : Place Slot Name)
    (expected : StatResult) : Still (requireSameTarget faults target expected) := by
  apply still_bind (still_orRaise (still_ask _ _) _)
  intro current
  exact still_ite (still_raise _) (still_pure _)

theorem still_managedRoot : Still (managedRoot host project root) := by
  have validated : Still (validateProjectRoot (host.faults .projectRoot) project root) :=
    still_ite (still_raise _) (still_requireDirectDirectory _ _ _)
  apply still_bind (still_orWorkspace validated _)
  intro _
  exact still_pure _

theorem still_readTarget : Still (readTarget host project relative) := by
  apply still_bind (still_resolveWorkspacePath _ _ _ _ _)
  intro target
  apply still_bind (still_ask _ _)
  intro found
  apply still_ite (still_raise _)
  apply still_bind (still_ask _ _)
  intro stat
  apply still_ite (still_raise _)
  apply still_bind (still_ask _ _)
  intro original
  apply still_ite (still_raise _)
  apply still_bind (still_resume _)
  intro _
  apply still_bind (still_requireSameTarget _ _ _)
  intro _
  exact still_pure _

theorem still_readExisting : Still (readExisting host project root relative) := by
  apply still_bind (still_managedRoot host project root)
  intro _
  apply still_bind (still_attempt (still_readTarget host project relative))
  intro outcome
  cases outcome with
  | error e => exact still_raise _
  | ok found => exact still_pure _

theorem still_resolveNew (content : PyStr) :
    Still (resolveNew host project root relative content) := by
  apply still_bind (still_managedRoot host project root)
  intro _
  apply still_bind (still_resolveWorkspacePath _ _ _ _ _)
  intro target
  apply still_bind (still_resolveWorkspacePath _ _ _ _ _)
  intro parent
  apply still_ite (still_raise _)
  apply still_bind (still_ask _ _)
  intro found
  apply still_ite (still_raise _)
  apply still_bind (still_resume _)
  intro replacement
  exact still_pure _

end Checks

structure Readable (disk : Files) (project : UUID) (target : List PyStr) (stat : StatResult)
    (original : ByteArray) (inode : Nat) : Prop where
  root : ∃ entries, disk.find (projectChild .projects project) = .ok (.directory entries)
  found : disk.find (below project target) = .ok (.file inode)
  content : (disk.inodes inode).content = original
  links : (disk.inodes inode).links = 1
  stat : stat = ⟨true, inode, (disk.inodes inode).mode, 1, original.size⟩
  text : ∃ text, decode original = .ok text

theorem resolveWorkspacePath_returned {faults : PathFaults} {project : UUID} {text : PyStr}
    {mustExist : Bool} {kind : ExpectedPathKind} {parts : List PyStr} {disk after : Files}
    (run : resolveWorkspacePath faults project text mustExist kind disk = (.ok parts, after)) :
    disk = after ∧ parts = pathParts text := by
  have same := still_resolveWorkspacePath faults project text mustExist kind disk
  rw [run] at same
  refine ⟨same.symm, ?_⟩
  unfold resolveWorkspacePath at run
  dsimp only at run
  split at run
  · cases run
  · split at run
    · cases run
    · obtain ⟨_, _, _, rootPassed⟩ := run_returned run
      split at rootPassed
      · cases rootPassed
      · obtain ⟨_, _, _, linksPassed⟩ := run_returned rootPassed
        obtain ⟨_, _, _, seenPassed⟩ := run_returned (orRaise_returned linksPassed)
        obtain ⟨found, _, _, foundPassed⟩ := run_returned seenPassed
        cases found with
        | none =>
            dsimp only at foundPassed
            split at foundPassed
            · cases foundPassed
            · cases foundPassed
              rfl
        | some node =>
            obtain ⟨_, _, _, last⟩ := run_returned foundPassed
            split at last
            · cases last
              rfl
            · cases last

section Returned

variable {host : Host} {project : UUID} {root : RootPath} {relative : PyStr} {disk after : Files}

theorem managedRoot_returned (run : managedRoot host project root disk = (.ok (), after)) :
    disk = after ∧ ∃ entries, disk.find (projectChild .projects project) =
      .ok (.directory entries) := by
  obtain ⟨found, middle, validated, last⟩ := run_returned run
  cases last
  have checked := orWorkspace_returned validated
  unfold validateProjectRoot at checked
  split at checked
  · cases checked
  · obtain ⟨rfl, _, _, _, held⟩ := requireDirectDirectory_returned checked
    exact ⟨rfl, held⟩

theorem lstat_regular {place : Place Slot Name} {stat : StatResult}
    (seen : lstat place disk = .ok stat) (regular : stat.regular ≠ false) :
    ∃ inode, disk.find place = .ok (.file inode) ∧
      stat = ⟨true, inode, (disk.inodes inode).mode, (disk.inodes inode).links,
        (disk.inodes inode).content.size⟩ := by
  unfold lstat at seen
  rcases held : disk.find place with error | node
  · rw [held] at seen
    cases seen
  · rw [held] at seen
    cases node with
    | file inode =>
        cases seen
        exact ⟨inode, rfl, rfl⟩
    | link =>
        cases seen
        exact absurd rfl regular
    | special =>
        cases seen
        exact absurd rfl regular
    | directory entries =>
        cases seen
        exact absurd rfl regular

theorem readTarget_returned {original : ByteArray} {target : List PyStr} {stat : StatResult}
    (run : readTarget host project relative disk = (.ok (original, target, stat), after))
    (root : ∃ entries, disk.find (projectChild .projects project) = .ok (.directory entries)) :
    target = pathParts relative ∧ ∃ inode, Readable disk project target stat original inode := by
  obtain ⟨parts, resolved, resolves, pathPassed⟩ := run_returned run
  obtain ⟨rfl, asked⟩ := resolveWorkspacePath_returned resolves
  obtain ⟨found, _, asks, presencePassed⟩ := run_returned pathPassed
  obtain ⟨_, _, rfl⟩ := ask_returned asks
  split at presencePassed
  · cases presencePassed
  · obtain ⟨seen, _, stats, statPassed⟩ := run_returned presencePassed
    obtain ⟨_, seen_eq, rfl⟩ := ask_returned stats
    split at statPassed
    · cases statPassed
    · next allowed =>
        simp only [not_or, Bool.not_eq_false, not_not] at allowed
        obtain ⟨data, _, reads, readPassed⟩ := run_returned statPassed
        obtain ⟨_, read_eq, rfl⟩ := ask_returned reads
        split at readPassed
        · cases readPassed
        · next sized =>
            rw [not_not] at sized
            obtain ⟨text, _, decodes, decodePassed⟩ := run_returned readPassed
            obtain ⟨_, _, _, last⟩ := run_returned decodePassed
            cases last
            obtain ⟨inode, held, rfl⟩ := lstat_regular seen_eq (by simp [allowed.1])
            have content : original = (disk.inodes inode).content := by
              unfold readBytes at read_eq
              rw [held] at read_eq
              cases read_eq
              rfl
            have decoded : decode original = .ok text := by
              cases outcome : decode original with
              | error e =>
                  rw [outcome] at decodes
                  cases decodes
              | ok other =>
                  rw [outcome] at decodes
                  cases decodes
                  rfl
            have single : (disk.inodes inode).links = 1 := allowed.2.1
            refine ⟨asked, inode, root, held, content.symm, single, ?_, text, decoded⟩
            rw [sized, single]

theorem readExisting_returned {original : ByteArray} {target : List PyStr} {stat : StatResult}
    (run : (readExisting host project root relative disk).1 = .ok (original, target, stat)) :
    target = pathParts relative ∧ ∃ inode, Readable disk project target stat original inode := by
  have whole := still_run (still_readExisting host project root relative) disk
  rw [run] at whole
  obtain ⟨_, _, managed, rest⟩ := run_returned whole
  obtain ⟨rfl, root⟩ := managedRoot_returned managed
  rw [attempt_run] at rest
  rcases reads : readTarget host project relative disk with ⟨e | found, read⟩
  · rw [reads] at rest
    cases rest
  · rw [reads] at rest
    cases rest
    exact readTarget_returned reads root

theorem decode_encoded {text : PyStr} {data : ByteArray} (encoded : encode text = .ok data) :
    ∃ decoded, decode data = .ok decoded := by
  unfold encode at encoded
  split at encoded
  · cases encoded
  · cases encoded
    have valid : (String.ofList (text.map Char.ofNat)).toUTF8.IsValidUTF8 :=
      (String.ofList (text.map Char.ofNat)).isValidUTF8
    unfold decode String.fromUTF8?
    rw [dif_pos valid]
    exact ⟨_, rfl⟩

theorem decode_input {limits : MutationLimits} {content : PyStr} {data : ByteArray}
    (encoded : encodeInput limits content = .ok data) : ∃ decoded, decode data = .ok decoded := by
  unfold encodeInput at encoded
  cases outcome : encode content with
  | error e =>
      rw [outcome] at encoded
      cases encoded
  | ok bytes =>
      rw [outcome] at encoded
      simp only [bind, Except.bind] at encoded
      split at encoded
      · cases encoded
      · cases encoded
        exact decode_encoded outcome

theorem resume_returned {α : Type} {outcome : Except Raised α} {a : α}
    (run : (resume outcome : Program Files Raised α) disk = (.ok a, after)) :
    outcome = .ok a ∧ disk = after := by
  cases outcome with
  | error e => cases run
  | ok b =>
      cases run
      exact ⟨rfl, rfl⟩

/-- What `create` knows of the place of its new file. -/
structure Creatable (disk : Files) (project : UUID) (target : List PyStr)
    (replacement : ByteArray) : Prop where
  root : ∃ entries, disk.find (projectChild .projects project) = .ok (.directory entries)
  absent : ∀ node, disk.find (below project target) ≠ .ok node
  text : ∃ text, decode replacement = .ok text

theorem resolveNew_returned {content : PyStr} {target : List PyStr} {replacement : ByteArray}
    (run : (resolveNew host project root relative content disk).1 = .ok (target, replacement)) :
    target = pathParts relative ∧ Creatable disk project target replacement ∧
      encodeInput host.limits content = .ok replacement := by
  have whole := still_run (still_resolveNew host project root relative content) disk
  rw [run] at whole
  obtain ⟨_, _, managed, rootPassed⟩ := run_returned whole
  obtain ⟨rfl, held⟩ := managedRoot_returned managed
  obtain ⟨parts, seen, resolves, targetPassed⟩ := run_returned rootPassed
  obtain ⟨rfl, requested⟩ := resolveWorkspacePath_returned resolves
  obtain ⟨parent, seen, resolved, parentPassed⟩ := run_returned targetPassed
  obtain ⟨rfl, _⟩ := resolveWorkspacePath_returned resolved
  split at parentPassed
  · cases parentPassed
  · obtain ⟨found, _, asks, presencePassed⟩ := run_returned parentPassed
    obtain ⟨_, asked, rfl⟩ := ask_returned asks
    split at presencePassed
    · cases presencePassed
    · next free =>
        obtain ⟨data, _, encodes, last⟩ := run_returned presencePassed
        obtain ⟨encoded, rfl⟩ := resume_returned encodes
        cases last
        refine ⟨requested, ⟨held, ?_, decode_input encoded⟩, encoded⟩
        intro node there
        unfold present at asked
        rw [there] at asked
        cases asked
        exact free rfl

end Returned

section Summary

variable {host : Host} {project : UUID} {disk : Files} {target : List PyStr}
  {before after : ByteArray} {operation : MutationOperation}

def Summarizes (faults : Faults) : Prop :=
  faults .resolve = false ∧ faults .isDir = false ∧ faults .lstat = false

theorem summary_ok
    (root : ∃ entries, disk.find (projectChild .projects project) = .ok (.directory entries))
    (first : ∃ text, decode before = .ok text) (second : ∃ text, decode after = .ok text)
    (working : Summarizes (host.faults .summary)) :
    ∃ output, summary host project target before after operation disk = (.ok output, disk) := by
  obtain ⟨entries, held⟩ := root
  obtain ⟨old, first⟩ := first
  obtain ⟨new, second⟩ := second
  obtain ⟨resolved, directory, seen⟩ := working
  have strict : strictly (projectChild .projects project) disk = .ok () := by
    unfold strictly
    rw [held]
    rfl
  have canonical : canonicalRoot (host.faults .summary) project disk = (.ok (), disk) := by
    apply orRaise_ok
    rw [resolved, directory, run_ok (ask_ok strict), run_ok (ask_ok held)]
    rfl
  have path : relativeWorkspacePath (host.faults .summary) project target disk =
      (.ok (asPosix target), disk) := by
    unfold relativeWorkspacePath
    rw [run_ok canonical, seen, run_ok (orRaise_ok quiet_ok)]
    rfl
  unfold summary
  rw [first, second, resume_ok_run, resume_ok_run, run_ok path]
  exact ⟨_, rfl⟩

theorem still_summary : Still (summary host project target before after operation) := by
  apply still_bind (still_resume _)
  intro _
  apply still_bind (still_resume _)
  intro _
  apply still_bind (still_relativeWorkspacePath project _ _)
  intro _
  exact still_pure _

theorem summary_returned {output : MutationSummary} {last : Files}
    (run : summary host project target before after operation disk = (.ok output, last)) :
    Summarizes (host.faults .summary) := by
  obtain ⟨_, _, _, oldPassed⟩ := run_returned run
  obtain ⟨_, _, _, newPassed⟩ := run_returned oldPassed
  obtain ⟨_, _, path, _⟩ := run_returned newPassed
  obtain ⟨_, _, canonical, rootPassed⟩ := run_returned path
  obtain ⟨_, _, resolves, resolvePassed⟩ := run_returned (orRaise_returned canonical)
  obtain ⟨_, _, checks, _⟩ := run_returned resolvePassed
  obtain ⟨_, _, quiets, _⟩ := run_returned rootPassed
  exact ⟨(ask_returned resolves).1, (ask_returned checks).1,
    (ask_returned (orRaise_returned quiets)).1⟩

theorem summary_fault (failing : ¬ Summarizes (host.faults .summary)) :
    ∃ e, summary host project target before after operation disk = (.error e, disk) := by
  have still : Still (summary host project target before after operation) := still_summary
  have whole := still_run still disk
  rcases outcome : (summary host project target before after operation disk).1 with e | output
  · rw [outcome] at whole
    exact ⟨e, whole⟩
  · rw [outcome] at whole
    exact absurd (summary_returned whole) failing

end Summary

end SynapseOS.Mutations
