import SynapseOS.Commands.Types
import SynapseOS.Lib.Trace
import SynapseOS.Workspaces.Separation

/-! The command policy and the repository check of the git provider over one managed base
(`infrastructure/commands/policy.py`, `infrastructure/git/local.py`). -/

namespace SynapseOS.Commands

open Execution Program Tools Workspaces

inductive CommandErrorCode
  | unknownProfile
  | profileUnavailable
  | workspaceInvalid
  | markerInvalid
  | executableUnavailable
  | spawnFailed
  | timedOut
  | terminationFailed
  | resultInvalid
  deriving DecidableEq, Repr

/-- What `resolve` raises: a `CommandError`, or what no handler of it names. -/
inductive PolicyRaised
  | command (code : CommandErrorCode)
  | raw (raised : Workspaces.Raised)
  deriving DecidableEq, Repr

structure CommandSpec where
  profileId : CommandProfileId
  category : CommandCategory
  executable : PyStr
  gitDirectory : Option (Place Slot Name)
  workspaceRoot : Place Slot Name

/-- `except WorkspaceError: raise CommandError(code)`. -/
def orCommand {α : Type} (body : Program Files Workspaces.Raised α) (code : CommandErrorCode) :
    Program Files PolicyRaised α := fun disk =>
  match body disk with
  | (.ok a, after) => (.ok a, after)
  | (.error (.workspace _ _), after) => (.error (.command code), after)
  | (.error raised, after) => (.error (.raw raised), after)

/-- What a policy is composed over: the markers of the profiles that are no git profiles, and the
executables. -/
structure PolicyHost where
  evidence : CommandProfileId → Files → Except CommandErrorCode Unit
  executable : CommandProfileId → Except CommandErrorCode PyStr

section Policy

variable (paths : ManagedPaths) (host : PolicyHost) (faults : GitCalls) (project : UUID)
    (token : PyStr)

def requireGitMarker (root : RootPath) : Program Files PolicyRaised (Place Slot Name) := do
  let seen ← attempt (orCommand (ask (faults .marked .lstat) fun disk =>
    disk.find (gitMarker project)) .markerInvalid)
  match seen with
  | .error (.raw (.os .missing)) => raise (.command .profileUnavailable)
  | .error _ => raise (.command .markerInvalid)
  | .ok _ => orCommand (ensureManagedGitDirectory paths faults project token root) .markerInvalid

def requireProfileEvidence (profile : CommandProfileId) (root : RootPath) :
    Program Files PolicyRaised (Option (Place Slot Name)) := fun disk =>
  if profile.category = .gitRead then
    match requireGitMarker paths faults project token root disk with
    | (.ok managed, after) => (.ok (some managed), after)
    | (.error raised, after) => (.error raised, after)
  else
    match host.evidence profile disk with
    | .ok _ => (.ok none, disk)
    | .error code => (.error (.command code), disk)

def resolve (profile : CommandProfileId)
    (root : RootPath) : Program Files PolicyRaised CommandSpec := do
  let workspace ← orCommand (validateProjectRoot (faults .managed) project root) .workspaceInvalid
  let managed ← requireProfileEvidence paths host faults project token profile root
  let executable ← resume ((host.executable profile).mapError .command)
  pure ⟨profile, profile.category, executable, managed, workspace⟩

end Policy

/-- `LocalGitProvider._require_repository` of a managed root; none is `INVALID_REPOSITORY`. -/
def requireRepository (faults : Faults) (project : UUID) (disk : Files) :
    Option (Place Slot Name) :=
  let root := projectChild .projects project
  if faults .resolve = true ∨ faults .lstat = true ∨ faults .isDir = true then none
  else
    match disk.find root, disk.find (gitMarker project) with
    | .ok (.directory _), .ok (.directory _) => some root
    | _, _ => none

section Calls

inductive BoundaryCall
  | resolve (host : PolicyHost) (project : UUID) (profile : CommandProfileId) (root : RootPath)
      (faults : GitCalls) (token : PyStr)
  | repository (project : UUID) (faults : Faults)

def BoundaryCall.Resolves (project : UUID) (call : BoundaryCall) : Prop :=
  ∃ host profile root faults token,
    call = .resolve host project profile root faults token ∧ profile.category = .gitRead

def BoundaryCall.Checks (project : UUID) (call : BoundaryCall) : Prop :=
  ∃ faults, call = .repository project faults

structure BoundaryEntry where
  call : BoundaryCall
  returned : Bool

variable (paths : ManagedPaths)

def BoundaryCall.perform (disk : Files) : BoundaryCall → Bool × Files
  | .resolve host project profile root faults token =>
      let ended := Commands.resolve paths host faults project token profile root disk
      (ended.1.isOk, ended.2)
  | .repository project faults => ((requireRepository faults project disk).isSome, disk)

def performAll (disk : Files) : List BoundaryCall → List BoundaryEntry
  | [] => []
  | call :: rest =>
      let ended := call.perform paths disk
      ⟨call, ended.1⟩ :: performAll ended.2 rest

/-- A workspace of which a git profile was resolved is accepted, and one that was accepted is
resolved. -/
structure Agrees (earlier : List BoundaryEntry) (entry : BoundaryEntry) : Prop where
  accepted : ∀ project, entry.call.Checks project →
    (∃ before ∈ earlier, before.call.Resolves project ∧ before.returned = true) →
    entry.returned = true
  resolved : ∀ project, entry.call.Resolves project →
    (∃ before ∈ earlier, before.call.Checks project ∧ before.returned = true) →
    entry.returned = true

/-- What a call asks of the disk it finds: a repository is checked while its marker is no pointer,
and a git profile is resolved by calls that work, of a worktree that is separated or can be. -/
def BoundaryCall.Compatible (disk : Files) : BoundaryCall → Prop
  | .repository project _ => ¬ Marked disk project
  | .resolve host project profile root faults token => profile.category = .gitRead →
      root = .project project ∧ Calm faults ∧ (∃ path, host.executable profile = .ok path) ∧
        Separable paths disk project token

def AllCompatible (disk : Files) : List BoundaryCall → Prop
  | [] => True
  | call :: rest => call.Compatible paths disk ∧ AllCompatible (call.perform paths disk).2 rest

end Calls

section Steps

variable {paths : ManagedPaths} {host : PolicyHost} {faults : GitCalls} {disk after : Files}
  {project : UUID} {token : PyStr} {profile : CommandProfileId} {root : RootPath}

theorem orCommand_ok {α : Type} {body : Program Files Workspaces.Raised α}
    {code : CommandErrorCode} {a : α} :
    orCommand body code disk = (.ok a, after) ↔ body disk = (.ok a, after) := by
  unfold orCommand
  rcases body disk with ⟨raised | b, moved⟩
  · cases raised <;> simp
  · simp

theorem orCommand_disk {α : Type} (body : Program Files Workspaces.Raised α)
    (code : CommandErrorCode) : (orCommand body code disk).2 = (body disk).2 := by
  unfold orCommand
  rcases body disk with ⟨raised | b, moved⟩
  · cases raised <;> rfl
  · rfl

theorem still_orCommand {α : Type} {body : Program Files Workspaces.Raised α} (still : Still body)
    (code : CommandErrorCode) : Still (orCommand body code) :=
  fun disk => (orCommand_disk body code).trans (still disk)

theorem resolve_keeps {related : Files → Files → Prop} (reflexive : ∀ disk, related disk disk)
    (transitive : ∀ s t u, related s t → related t u → related s u)
    (ensures : Keeps related (ensureManagedGitDirectory paths faults project token root)) :
    Keeps related (resolve paths host faults project token profile root) := by
  apply keeps_bind transitive
    (keeps_still reflexive (still_orCommand (still_validateProjectRoot _) _))
  intro workspace
  apply keeps_bind transitive
  · have marker : Keeps related (requireGitMarker paths faults project token root) := by
      apply keeps_bind transitive
        (keeps_still reflexive (still_attempt (still_orCommand (still_ask _ _) _)))
      intro seen
      split
      · exact keeps_still reflexive (still_raise _)
      · exact keeps_still reflexive (still_raise _)
      · intro disk
        rw [orCommand_disk]
        exact ensures disk
    intro disk
    have moved := marker disk
    unfold requireProfileEvidence
    split
    · split
      · next ended =>
          rw [ended] at moved
          exact moved
      · next ended =>
          rw [ended] at moved
          exact moved
    · split
      · exact reflexive disk
      · exact reflexive disk
  · intro managed
    apply keeps_bind transitive (keeps_still reflexive (still_resume _))
    exact fun _ => keeps_still reflexive (still_pure _)

theorem marked_elsewhere {other : UUID} (moves : Elsewhere project disk after)
    (apart : other ≠ project) (marked : Marked disk other) : Marked after other := by
  obtain ⟨inode, found⟩ := marked
  obtain ⟨inner, entered, held⟩ := (Disk.find_eq _ _ _).mp found
  have tree : Worktree after other inner := (moves other apart).trans (worktree_entered entered)
  exact ⟨inode, (worktree_find tree _ _).mpr held⟩

theorem perform_marked (call : BoundaryCall) {other : UUID} (marked : Marked disk other) :
    Marked (call.perform paths disk).2 other := by
  cases call with
  | repository project faults => exact marked
  | resolve host project profile root faults token =>
      by_cases own : other = project
      · subst own
        have stays : Keeps (fun before after => Marked before other → after = before)
            (resolve paths host faults other token profile root) := by
          apply resolve_keeps
          · exact fun disk _ => rfl
          · intro first second third before after marked
            have same := before marked
            subst same
            exact after marked
          · exact fun disk marked => ensure_marked marked
        have same := stays disk marked
        unfold BoundaryCall.perform
        dsimp only
        rw [same]
        exact marked
      · exact marked_elsewhere (resolve_keeps elsewhere_refl elsewhere_trans
          elsewhere_ensure disk) own marked

theorem perform_resolves {call : BoundaryCall} (resolves : call.Resolves project)
    (returned : (call.perform paths disk).1 = true) : Marked
      (call.perform paths disk).2 project := by
  obtain ⟨host, profile, root, faults, token, rfl, git⟩ := resolves
  unfold BoundaryCall.perform at returned ⊢
  dsimp only at returned ⊢
  rcases run : resolve paths host faults project token profile root disk with ⟨raised | spec, moved⟩
  · rw [run] at returned
    cases returned
  obtain ⟨workspace, first, valid, rest⟩ := run_returned run
  obtain rfl := still_end (still_orCommand (still_validateProjectRoot _) _) valid
  obtain ⟨managed, second, evidence, last⟩ := run_returned rest
  obtain rfl := still_end (still_bind (still_resume _) fun _ => still_pure _) last
  unfold requireProfileEvidence at evidence
  rw [if_pos git] at evidence
  split at evidence
  · next place found ended =>
      cases evidence
      obtain ⟨seen, fourth, attempted, answer⟩ := run_returned ended
      obtain rfl := still_end (still_attempt (still_orCommand (still_ask _ _) _)) attempted
      split at answer
      · cases answer
      · cases answer
      · exact (ensure_marks (orCommand_ok.mp answer)).2
  · cases evidence

/-- Once a git profile of its workspace was resolved, a repository is refused. -/
theorem repository_refused (marked : Marked disk project) (faults : Faults) :
    requireRepository faults project disk = none := by
  obtain ⟨inode, found⟩ := marked
  unfold requireRepository
  dsimp only
  rw [found]
  split
  · rfl
  · cases disk.find (projectChild .projects project) with
    | error error => rfl
    | ok node => cases node <;> rfl

theorem resolve_works (git : profile.category = .gitRead) (calm : Calm faults) {path : PyStr}
    (available : host.executable profile = .ok path)
    (separable : Separable paths disk project token) :
    ∃ spec after, resolve paths host faults project token profile (.project project) disk =
      (.ok spec, after) := by
  obtain ⟨managed, after, ensured⟩ := ensure_works calm separable
  obtain ⟨_, _, valid, _⟩ := run_returned ensured
  obtain ⟨rfl, _, inner, tree⟩ := validateProjectRoot_returned valid
  have root : validateProjectRoot (faults .managed) project (.project project) disk =
      (.ok (projectChild .projects project), disk) := by
    unfold validateProjectRoot
    rw [if_neg (not_not.mpr rfl)]
    exact direct_passes ⟨calm _ _, calm _ _⟩ tree
  have marker : ∃ node, disk.find (gitMarker project) = .ok node := by
    cases separable with
    | whole inner entries tree held fresh free => exact ⟨_, (worktree_find tree _ _).mpr held⟩
    | separated inner entries inode tree held points stored =>
        exact ⟨_, (worktree_find tree _ _).mpr held⟩
  obtain ⟨node, found⟩ := marker
  have marked : requireGitMarker paths faults project token (.project project) disk =
      (.ok managed, after) := by
    unfold requireGitMarker
    rw [calm, run_attempt (orCommand_ok.mpr (ask_ok found))]
    exact orCommand_ok.mpr ensured
  have evidence : requireProfileEvidence paths host faults project token profile
      (.project project) disk = (.ok (some managed), after) := by
    unfold requireProfileEvidence
    rw [if_pos git, marked]
  refine ⟨⟨profile, profile.category, path, some managed, projectChild .projects project⟩, after,
    ?_⟩
  unfold resolve
  rw [run_ok (orCommand_ok.mpr root), run_ok evidence, available]
  rfl

end Steps

section Runs

variable {paths : ManagedPaths}

def Pointed (past : List BoundaryEntry) (disk : Files) : Prop :=
  ∀ project, (∃ before ∈ past, before.call.Resolves project ∧ before.returned = true) →
    Marked disk project

theorem pointed_perform {past : List BoundaryEntry} {disk : Files} (pointed : Pointed past disk)
    (call : BoundaryCall) :
    Pointed (past ++ [⟨call, (call.perform paths disk).1⟩]) (call.perform paths disk).2 := by
  rintro project ⟨before, among, resolves, returned⟩
  rcases List.mem_append.mp among with earlier | now
  · exact perform_marked call (pointed project ⟨before, earlier, resolves, returned⟩)
  · rw [List.mem_singleton.mp now] at resolves returned
    exact perform_resolves resolves returned

theorem agrees_step {past : List BoundaryEntry} {disk : Files} (pointed : Pointed past disk)
    {call : BoundaryCall} (compatible : call.Compatible paths disk) :
    Agrees past ⟨call, (call.perform paths disk).1⟩ := by
  constructor
  · rintro project ⟨faults, same⟩ before
    dsimp only at same
    subst same
    exact absurd (pointed project before) compatible
  · rintro project ⟨host, profile, root, faults, token, same, git⟩ _
    dsimp only at same
    subst same
    obtain ⟨rfl, calm, ⟨path, available⟩, separable⟩ := compatible git
    obtain ⟨spec, after, run⟩ := resolve_works git calm available separable
    unfold BoundaryCall.perform
    dsimp only
    rw [run]
    rfl

theorem agrees_from {calls : List BoundaryCall} {past : List BoundaryEntry} {disk : Files}
    (pointed : Pointed past disk) (compatible : AllCompatible paths disk calls)
    (before after : List BoundaryEntry) (entry : BoundaryEntry)
    (split : performAll paths disk calls = before ++ entry :: after) : Agrees
      (past ++ before) entry := by
  induction calls generalizing disk past before with
  | nil =>
      unfold performAll at split
      simp at split
  | cons call rest ih =>
      unfold performAll at split
      dsimp only at split
      cases before with
      | nil =>
          obtain ⟨rfl, _⟩ := List.cons.inj split
          rw [List.append_nil]
          exact agrees_step pointed compatible.1
      | cons first others =>
          obtain ⟨rfl, tail⟩ := List.cons.inj split
          have later := ih (pointed_perform pointed call) compatible.2 others tail
          rw [List.append_assoc] at later
          exact later

/-- In a run of calls that are compatible with the disk they find, the boundaries agree. -/
theorem boundaries_agree (paths : ManagedPaths) (disk : Files) (calls : List BoundaryCall)
    (compatible : AllCompatible paths disk calls) : Always Agrees
      (performAll paths disk calls) := by
  intro before entry after split
  have pointed : Pointed [] disk := by
    rintro project ⟨_, among, _⟩
    cases among
  exact agrees_from pointed compatible before after entry split

end Runs

section Sample

def samplePaths : ManagedPaths where
  location := fun _ => "/base/.git-metadata/1"
  solid := fun _ => ⟨PyStr.ofString "/base/.git-metadata/", 0x31, by decide, by decide⟩

def sampleDisk : Files where
  top := fun slot =>
    if slot = .projects then
      [(.project 1, .directory [(.entry (.ofString ".git"), .directory [])])]
    else []
  inodes := fun _ => ⟨.empty, 0, 0⟩

def sampleHost : PolicyHost where
  evidence := fun _ _ => .error .profileUnavailable
  executable := fun _ => .ok (.ofString "/usr/bin/git")

def calmFaults : GitCalls := fun _ _ => false

def gitStatus : BoundaryCall := .resolve sampleHost 1 .gitStatus (.project 1) calmFaults []

def checkRepository : BoundaryCall := .repository 1 fun _ => false

theorem sample_separable : Separable samplePaths sampleDisk 1 [] := by
  refine .whole [(.entry (.ofString ".git"), .directory [])] [] rfl rfl ?_ rfl
  exact if_neg pointer_apart.symm

theorem sample_compatible : gitStatus.Compatible samplePaths sampleDisk :=
  fun _ => ⟨rfl, fun _ _ => rfl, ⟨_, rfl⟩, sample_separable⟩

theorem sample_resolved : (gitStatus.perform samplePaths sampleDisk).1 = true := by
  obtain ⟨spec, after, run⟩ :
    ∃ spec after, resolve samplePaths sampleHost calmFaults 1 [] .gitStatus
      (.project 1) sampleDisk = (.ok spec, after) :=
    resolve_works rfl (fun _ _ => rfl) rfl sample_separable
  unfold gitStatus BoundaryCall.perform
  dsimp only
  rw [run]
  rfl

/-- A check, and then a resolution. -/
theorem boundaries_agree_sample :
    Always Agrees (performAll samplePaths sampleDisk [checkRepository, gitStatus]) := by
  refine boundaries_agree samplePaths sampleDisk [checkRepository, gitStatus] ⟨?_,
    sample_compatible, trivial⟩
  rintro ⟨inode, found⟩
  cases found

/-- After a resolution of git status the repository of the workspace is refused. -/
theorem status_locks_out : ¬ ∀ (paths : ManagedPaths) (disk : Files) (calls : List BoundaryCall),
    (∀ call ∈ calls, ∀ host project profile root faults token,
      call = .resolve host project profile root faults token → Calm faults) →
      Always Agrees (performAll paths disk calls) := by
  intro claimed
  have calm : ∀ call ∈ [gitStatus, checkRepository], ∀ host project profile root faults token,
      call = .resolve host project profile root faults token → Calm faults := by
    intro call among host project profile root faults token same
    rcases List.mem_pair.mp among with rfl | rfl
    · cases same
      exact fun _ _ => rfl
    · cases same
  have agrees := claimed samplePaths sampleDisk [gitStatus, checkRepository] calm
    [⟨gitStatus, true⟩] ⟨checkRepository, false⟩ []
  have marked : Marked (gitStatus.perform samplePaths sampleDisk).2 1 :=
    perform_resolves ⟨sampleHost, .gitStatus, .project 1, calmFaults, [], rfl, rfl⟩ sample_resolved
  have refused :
    (checkRepository.perform samplePaths (gitStatus.perform samplePaths sampleDisk).2).1 =
      false := congrArg Option.isSome (repository_refused marked fun _ => false)
  have log : performAll samplePaths sampleDisk [gitStatus, checkRepository] =
      [⟨gitStatus, true⟩] ++ ⟨checkRepository, false⟩ :: [] := by
    unfold performAll performAll performAll
    dsimp only
    rw [sample_resolved, refused]
    rfl
  have returned := (agrees log).accepted 1 ⟨_, rfl⟩
    ⟨_, List.mem_cons_self, ⟨sampleHost, .gitStatus, .project 1, calmFaults, [], rfl, rfl⟩, rfl⟩
  cases returned

end Sample

end SynapseOS.Commands
