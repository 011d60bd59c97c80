import SynapseOS.Core.Fields
import SynapseOS.Lib.LinkedTree
import SynapseOS.Workspaces.Paths

/-! Containment of the paths of a workspace in a host tree that has symbolic links
(`infrastructure/workspaces/paths.py`). -/

namespace SynapseOS.Containment

open Execution LinkedTree Workspaces

abbrev HostTree := LinkedTree PyStr

abbrev HostPath := List PyStr

/-- What `pathlib` raises: an `OSError`, or a `RuntimeError`. -/
inductive PathError
  | os (fault : Fault)
  | runtime
  deriving DecidableEq, Repr

/-- The links that `_joinrealpath` has seen, with what they lead to once that is known. -/
abbrev Seen := List (HostPath × Option HostPath)

structure Joined where
  path : HostPath
  whole : Bool
  seen : Seen

/-- `os.path.abspath` of a path and the text behind it. -/
def collapse : HostPath → List (Step PyStr) → HostPath
  | path, [] => path
  | path, .here :: rest => collapse path rest
  | path, .up :: rest => collapse path.dropLast rest
  | path, .into name :: rest => collapse (path ++ [name]) rest

section Resolution

variable (tree : HostTree) (depth : Nat)

/-- The loop of `_joinrealpath`; its call of itself is left open. -/
def joinRealPathWith (strict : Bool)
    (again : HostPath → Target PyStr → Seen → Except PathError Joined) :
    HostPath → List (Step PyStr) → Seen → Except PathError Joined
  | path, [], seen => .ok ⟨path, true, seen⟩
  | path, .here :: rest, seen => joinRealPathWith strict again path rest seen
  | path, .up :: rest, seen => joinRealPathWith strict again path.dropLast rest seen
  | path, .into name :: rest, seen =>
      let newPath := path ++ [name]
      match tree.lstat newPath with
      | .error fault =>
          if strict = true then .error (.os fault)
          else joinRealPathWith strict again newPath rest seen
      | .ok (.link target) =>
          let resolved : Except PathError Joined :=
            match again path target (Assoc.set newPath none seen) with
            | .error error => .error error
            | .ok joined =>
                if joined.whole = true then
                  joinRealPathWith strict again joined.path rest
                    (Assoc.set newPath (some joined.path) joined.seen)
                else .ok ⟨collapse joined.path rest, false, joined.seen⟩
          match Assoc.get newPath seen with
          | some (some known) => joinRealPathWith strict again known rest seen
          -- The link is being resolved already.
          | some none =>
              if strict = true then
                match tree.stat newPath with
                | .error fault => .error (.os fault)
                | .ok _ => resolved
              else .ok ⟨collapse newPath rest, false, seen⟩
          | none => resolved
      | .ok _ => joinRealPathWith strict again newPath rest seen

/-- `_joinrealpath` within a recursion limit. -/
def joinRealPath (strict : Bool) : Nat → HostPath → List (Step PyStr) → Seen →
    Except PathError Joined
  | 0 => joinRealPathWith tree strict fun _ _ _ => .error .runtime
  | limit + 1 => joinRealPathWith tree strict fun path target seen =>
      joinRealPath strict limit (if target.absolute = true then [] else path) target.steps seen

def realPath (strict : Bool) (steps : List (Step PyStr)) : Except PathError HostPath :=
  (joinRealPath tree strict depth [] steps []).map Joined.path

def resolve (strict : Bool) (steps : List (Step PyStr)) : Except PathError HostPath :=
  match realPath tree depth strict steps with
  | .error (.os .loop) => .error .runtime
  | .error error => .error error
  | .ok path =>
      if strict = true then .ok path
      else
        match tree.stat path with
        | .error .loop => .error .runtime
        | _ => .ok path

/-- `Path.exists`, `Path.is_file` and `Path.is_dir`. -/
def statIs (test : Item PyStr → Bool) (path : HostPath) : Except PathError Bool :=
  match tree.stat path with
  | .ok item => .ok (test item)
  | .error .refused => .error (.os .refused)
  | .error _ => .ok false

def regular : Item PyStr → Bool
  | .file => true
  | _ => false

def directory : Item PyStr → Bool
  | .directory _ => true
  | _ => false

/-- `except (OSError, RuntimeError, ValueError)`. -/
def orViolation {α : Type} : Except PathError α → Except Raised α
  | .ok a => .ok a
  | .error _ => .error violation

/-- `_canonical_root`; a relative root stands behind the current directory. -/
def canonicalRoot (workspaceRoot : List (Step PyStr)) : Except Raised HostPath := do
  let root ← orViolation (resolve tree depth true workspaceRoot)
  if (← orViolation (statIs tree directory root)) = true then .ok root else .error violation

def rejectSymlinkComponents : HostPath → List PyStr → Except Raised Unit
  | _, [] => .ok ()
  | current, component :: rest =>
      if component = [0x2E] then rejectSymlinkComponents current rest
      else
        match tree.lstat (current ++ [component]) with
        | .error .missing => .ok ()
        | .error _ => .error violation
        | .ok (.link _) => .error violation
        | .ok _ => rejectSymlinkComponents (current ++ [component]) rest

def expected (path : HostPath) : ExpectedPathKind → Except PathError Bool
  | .file => statIs tree regular path
  | .directory => statIs tree directory path
  | .any => do
      if (← statIs tree regular path) = true then .ok true else statIs tree directory path

variable (workspaceRoot : List (Step PyStr))

def resolveParts (mustExist : Bool) (kind : ExpectedPathKind) (relative : List PyStr) :
    Except Raised HostPath := do
  let root ← canonicalRoot tree depth workspaceRoot
  -- A text that names no file is a `ValueError` of the first call that takes it.
  if relative.all fsEncodable = false then .error violation
  else
    rejectSymlinkComponents tree root relative
    let resolved ← orViolation (resolve tree depth mustExist ((root ++ relative).map .into))
    if root.isPrefixOf resolved = false then .error violation
    else if (← orViolation (statIs tree (fun _ => true) resolved)) = true then
      if (← orViolation (expected tree resolved kind)) = true then .ok resolved
      else .error violation
    else if mustExist = true then .error violation
    else .ok resolved

def resolveWorkspacePath (relativePath : PyStr) (mustExist : Bool) (kind : ExpectedPathKind) :
    Except Raised HostPath :=
  if relativePath.all space = true ∨ 0 ∈ relativePath then .error violation
  else if relativePath.head? = some 0x2F ∨ [0x2E, 0x2E] ∈ pathParts relativePath
    then .error violation
  else resolveParts tree depth workspaceRoot mustExist kind (pathParts relativePath)

def relativeWorkspacePath (resolvedPath : HostPath) : Except Raised PyStr := do
  let root ← canonicalRoot tree depth workspaceRoot
  let target ← orViolation (resolve tree depth false (resolvedPath.map .into))
  if root.isPrefixOf target = true then .ok (asPosix (target.drop root.length))
  else .error violation

end Resolution

section Joining

variable {tree : HostTree} {strict : Bool} {path : HostPath} {name : PyStr}
    {item : Item PyStr} {seen : Seen}
  {again : HostPath → Target PyStr → Seen → Except PathError Joined}

theorem join_nil :
    joinRealPathWith tree strict again path [] seen = .ok ⟨path, true, seen⟩ := rfl

/-- A name that is no link is missed or entered. -/
theorem join_name (rest : List (Step PyStr)) :
    joinRealPathWith tree strict again path (.into name :: rest) seen =
      match tree.lstat (path ++ [name]) with
      | .error fault =>
          if strict = true then .error (.os fault)
          else joinRealPathWith tree strict again (path ++ [name]) rest seen
      | .ok (.link _) => joinRealPathWith tree strict again path (.into name :: rest) seen
      | .ok _ => joinRealPathWith tree strict again (path ++ [name]) rest seen := by
  cases held : tree.lstat (path ++ [name]) with
  | error fault => rw [joinRealPathWith, held]
  | ok item =>
      cases item with
      | link target => rfl
      | file | special | directory => rw [joinRealPathWith, held]

theorem join_fault {fault : Fault} (rest : List (Step PyStr))
    (lost : tree.lstat (path ++ [name]) = .error fault) :
    joinRealPathWith tree strict again path (.into name :: rest) seen =
      if strict = true then .error (.os fault)
      else joinRealPathWith tree strict again (path ++ [name]) rest seen := by
  rw [join_name, lost]

theorem join_into (rest : List (Step PyStr)) (held : tree.lstat (path ++ [name]) = .ok item)
    (solid : ∀ target, item ≠ .link target) :
    joinRealPathWith tree strict again path (.into name :: rest) seen =
      joinRealPathWith tree strict again (path ++ [name]) rest seen := by
  rw [join_name, held]
  cases item with
  | link target => exact absurd rfl (solid target)
  | file | special | directory => rfl

theorem join_direct (direct : tree.Direct path) (rest : List (Step PyStr)) :
    joinRealPathWith tree strict again [] (path.map .into ++ rest) seen =
      joinRealPathWith tree strict again path rest seen := by
  induction direct generalizing rest with
  | top => rfl
  | down above held solid ih =>
      rw [List.map_append, List.append_assoc, ih]
      exact join_into rest ((lstat_direct above _).trans held) solid

theorem join_missing {fault : Fault} (direct : tree.Direct path)
    (lost : tree.entry path name = .error fault)
    (done rest : List PyStr) : joinRealPathWith tree false again (path ++ name :: done)
    (rest.map .into) seen =
      .ok ⟨path ++ name :: (done ++ rest), true, seen⟩ := by
  induction rest generalizing done with
  | nil => rw [List.map_nil, join_nil, List.append_nil]
  | cons next rest ih =>
      have absent : tree.lstat (path ++ name :: done ++ [next]) = .error fault := by
        have below := walk_lost false 40 direct lost (done ++ [next])
        rwa [← List.cons_append, ← List.append_assoc] at below
      rw [List.map_cons, join_fault _ absent, if_neg Bool.false_ne_true]
      have onward := ih (done ++ [next])
      rw [List.append_assoc] at onward
      simpa using onward

def Clear (tree : HostTree) (seen : Seen) : Prop :=
  ∀ link known, Assoc.get link seen = some (some known) → tree.Direct known

theorem clear_nil : Clear tree [] := by
  intro _ _ held
  cases held

theorem clear_set {known : Option HostPath} (link : HostPath) (clear : Clear tree seen)
    (direct : ∀ path, known = some path → tree.Direct path) : Clear tree
      (Assoc.set link known seen) := by
  intro other path held
  rw [Assoc.get_set] at held
  split at held
  · cases held
    exact direct path rfl
  · exact clear other path held

def Real (tree : HostTree) (joined : Joined) : Prop :=
  joined.whole = true ∧ tree.Direct joined.path ∧ Clear tree joined.seen

theorem joinWith_real (steps : List (Step PyStr)) {joined : Joined}
    (calls : ∀ path target seen joined, tree.Direct path → Clear tree seen →
      again path target seen = .ok joined → Real tree joined)
    (direct : tree.Direct path) (clear : Clear tree seen)
    (run : joinRealPathWith tree true again path steps seen = .ok joined) : Real tree joined := by
  induction steps generalizing path seen with
  | nil =>
      cases run
      exact ⟨rfl, direct, clear⟩
  | cons step rest ih =>
      cases step with
      | here => exact ih direct clear run
      | up => exact ih (direct_parent direct) clear run
      | into name =>
          rw [joinRealPathWith] at run
          dsimp only at run
          have there := lstat_direct direct name
          cases found : tree.lstat (path ++ [name]) with
          | error fault =>
              rw [found] at run
              cases run
          | ok item =>
              rw [found] at run there
              cases item with
              | file | special | directory => exact ih (.down direct there.symm nofun) clear run
              | link target =>
                  have follows (outcome : (match again path target
                      (Assoc.set (path ++ [name]) none seen) with
                    | .error error => .error error
                    | .ok reached =>
                        if reached.whole = true then
                          joinRealPathWith tree true again reached.path rest
                            (Assoc.set (path ++ [name]) (some reached.path) reached.seen)
                        else .ok ⟨collapse reached.path rest, false, reached.seen⟩ :
                          Except PathError Joined) =
                      .ok joined) : Real tree joined := by
                    cases called : again path target (Assoc.set (path ++ [name]) none seen) with
                    | error error =>
                        rw [called] at outcome
                        cases outcome
                    | ok reached =>
                        rw [called] at outcome
                        have unknown : ∀ path, (none : Option HostPath) = some path →
                            tree.Direct path := by
                          intro _ impossible
                          cases impossible
                        rcases calls _ _ _ _ direct (clear_set _ clear unknown) called
                          with ⟨whole, real, kept⟩
                        dsimp only at outcome
                        rw [if_pos whole] at outcome
                        refine ih real (clear_set _ kept ?_) outcome
                        intro _ same
                        cases same
                        exact real
                  dsimp only at run
                  split at run
                  · next known held => exact ih (clear _ _ held) clear run
                  · rw [if_pos rfl] at run
                    split at run
                    · cases run
                    · exact follows run
                  · exact follows run

theorem joinRealPath_real (limit : Nat) {steps : List (Step PyStr)} {joined : Joined}
    (direct : tree.Direct path)
    (clear : Clear tree seen) (run : joinRealPath tree true limit path steps seen = .ok joined) :
    Real tree joined := by
  induction limit generalizing path steps seen joined with
  | zero => exact joinWith_real steps (by
      intro _ _ _ _ _ _ impossible
      cases impossible) direct clear run
  | succ limit ih =>
      refine joinWith_real steps ?_ direct clear run
      intro base target known last reached kept called
      refine ih ?_ kept called
      split
      · exact .top
      · exact reached

theorem realPath_direct {depth : Nat} {steps : List (Step PyStr)}
    (run : realPath tree depth true steps = .ok path) : tree.Direct path := by
  unfold realPath at run
  cases joins : joinRealPath tree true depth [] steps [] with
  | error error =>
      rw [joins] at run
      cases run
  | ok joined =>
      rw [joins] at run
      cases run
      exact (joinRealPath_real depth .top clear_nil joins).2.1

end Joining

inductive Reached (tree : HostTree) : HostPath → List PyStr → Prop
  | all {path : HostPath} (direct : tree.Direct path) : Reached tree path []
  | lost {path : HostPath} {name : PyStr} {rest : List PyStr} (direct : tree.Direct path)
      (missing : tree.entry path name = .error .missing) : Reached tree path (name :: rest)
  | next {path : HostPath} {name : PyStr} {rest : List PyStr} {item : Item PyStr}
      (direct : tree.Direct path)
      (held : tree.entry path name = .ok item) (solid : ∀ target, item ≠ .link target)
      (further : Reached tree (path ++ [name]) rest) : Reached tree path (name :: rest)

section Walks

variable {tree : HostTree} {depth : Nat} {root : HostPath} {parts : List PyStr}

theorem Reached.direct (reached : Reached tree root parts) : tree.Direct root := by
  cases reached with
  | all direct | lost direct | next direct => exact direct

/-- What the walk over the components lets pass. -/
theorem reject_reached (direct : tree.Direct root) (plain : [0x2E] ∉ parts)
    (run : rejectSymlinkComponents tree root parts = .ok ()) : Reached tree root parts := by
  induction parts generalizing root with
  | nil => exact .all direct
  | cons component rest ih =>
      have other : component ≠ [0x2E] := fun same => plain (by simp [same])
      have below : [0x2E] ∉ rest := fun among => plain (List.mem_cons_of_mem _ among)
      rw [rejectSymlinkComponents, if_neg other, lstat_direct direct] at run
      cases held : tree.entry root component with
      | error fault =>
          rw [held] at run
          cases fault with
          | missing => exact .lost direct held
          | notDirectory | loop | refused => cases run
      | ok item =>
          rw [held] at run
          cases item with
          | link target => cases run
          | file | special | directory =>
              exact .next direct held nofun (ih (.down direct held nofun) below run)

theorem Reached.stat_cases (reached : Reached tree root parts) :
    tree.Direct (root ++ parts) ∨ tree.stat (root ++ parts) = .error .missing := by
  induction reached with
  | all direct =>
      rw [List.append_nil]
      exact .inl direct
  | lost direct missing => exact .inr (walk_lost true 40 direct missing _)
  | next direct held solid further ih =>
      rw [List.append_assoc] at ih
      exact ih

theorem Reached.no_link (reached : Reached tree root parts) (front back : List PyStr)
    (split : parts = front ++ back) (some_ : front ≠ []) (target : Target PyStr) :
    tree.lstat (root ++ front) ≠ .ok (.link target) := by
  induction reached generalizing front with
  | all direct => exact absurd (List.append_eq_nil_iff.mp split.symm).1 some_
  | lost direct missing =>
      cases front with
      | nil => exact absurd rfl some_
      | cons first more =>
          cases split
          intro linked
          have absent := walk_lost false 40 direct missing more
          cases absent.symm.trans linked
  | next direct held solid further ih =>
      cases front with
      | nil => exact absurd rfl some_
      | cons first more =>
          cases split
          by_cases last : more = []
          · rw [last, lstat_direct direct, held]
            intro same
            exact solid target (Except.ok.inj same)
          · have onward := ih more rfl last
            rw [List.append_assoc] at onward
            exact onward

theorem joinRealPath_eq (tree : HostTree) (strict : Bool) (limit : Nat) :
    ∃ again, joinRealPath tree strict limit = joinRealPathWith tree strict again := by
  cases limit with
  | zero => exact ⟨_, rfl⟩
  | succ limit => exact ⟨_, rfl⟩

variable {again : HostPath → Target PyStr → Seen → Except PathError Joined} {seen : Seen}
    {joined : Joined}

theorem Reached.joins (reached : Reached tree root parts) :
    joinRealPathWith tree false again root (parts.map .into) seen = .ok ⟨root ++ parts,
      true, seen⟩ := by
  induction reached with
  | all direct => rw [List.map_nil, join_nil, List.append_nil]
  | lost direct missing =>
      rw [List.map_cons, join_fault _ ((lstat_direct direct _).trans missing),
        if_neg Bool.false_ne_true]
      exact join_missing direct missing [] _
  | next direct held solid further ih =>
      rw [List.map_cons, join_into _ ((lstat_direct direct _).trans held) solid, ih,
        List.append_assoc]
      rfl

theorem Reached.joins_strict (reached : Reached tree root parts)
    (run : joinRealPathWith tree true again root (parts.map .into) seen = .ok joined) :
    joined.path = root ++ parts := by
  induction reached with
  | all direct =>
      cases run
      exact (List.append_nil _).symm
  | lost direct missing =>
      rw [List.map_cons, join_fault _ ((lstat_direct direct _).trans missing), if_pos rfl] at run
      cases run
  | next direct held solid further ih =>
      rw [List.map_cons, join_into _ ((lstat_direct direct _).trans held) solid] at run
      rw [ih run, List.append_assoc]
      rfl

/-- A path that is reached resolves to itself. -/
theorem Reached.resolves (reached : Reached tree root parts) :
    resolve tree depth false ((root ++ parts).map .into) = .ok (root ++ parts) := by
  have path : realPath tree depth false ((root ++ parts).map .into) = .ok (root ++ parts) := by
    rcases joinRealPath_eq tree false depth with ⟨again, same⟩
    rw [realPath, same, List.map_append, join_direct reached.direct, reached.joins]
    rfl
  rw [resolve, path]
  rcases reached.stat_cases with direct | missing
  · rcases direct_stands direct with ⟨item, stands⟩
    simp only [stat_direct direct, stands, Bool.false_eq_true, if_false]
  · simp only [missing, Bool.false_eq_true, if_false]

theorem Reached.resolved (reached : Reached tree root parts) {mustExist : Bool} {path : HostPath}
    (run : resolve tree depth mustExist ((root ++ parts).map .into) = .ok path) : path =
      root ++ parts := by
  cases mustExist with
  | false =>
      rw [reached.resolves] at run
      cases run
      rfl
  | true =>
      rcases joinRealPath_eq tree true depth with ⟨again, same⟩
      rw [resolve, realPath, same, List.map_append, join_direct reached.direct] at run
      cases joins : joinRealPathWith tree true again root (parts.map .into) [] with
      | error error =>
          rw [joins] at run
          rcases error with fault | _
          · cases fault <;> cases run
          · cases run
      | ok joined =>
          rw [joins] at run
          cases run
          exact reached.joins_strict joins

end Walks

section Texts

variable {text : PyStr} {parts : List PyStr}

theorem piece_of_split {separator : Nat} {piece : PyStr} (among : piece ∈ text.splitOn separator) :
    separator ∉ piece ∧ piece ⊆ text := by
  induction text generalizing piece with
  | nil =>
      rw [List.splitOn_nil, List.mem_singleton] at among
      rw [among]
      exact ⟨List.not_mem_nil, List.nil_subset _⟩
  | cons point rest ih =>
      rw [List.splitOn_cons_eq_if_modifyHead] at among
      by_cases same : point = separator
      · rw [if_pos (beq_iff_eq.mpr same)] at among
        rcases List.mem_cons.mp among with rfl | later
        · exact ⟨List.not_mem_nil, List.nil_subset _⟩
        · exact ⟨(ih later).1, fun _ inside => List.mem_cons_of_mem _ ((ih later).2 inside)⟩
      · rw [if_neg (by simp [same])] at among
        cases pieces : rest.splitOn separator with
        | nil => exact absurd pieces (List.splitOn_ne_nil _ _)
        | cons first others =>
            rw [pieces] at ih among
            rcases List.mem_cons.mp among with rfl | later
            · rcases ih List.mem_cons_self with ⟨free, inside⟩
              refine ⟨?_, List.cons_subset_cons _ inside⟩
              intro held
              rcases List.mem_cons.mp held with equal | below
              · exact same equal.symm
              · exact free below
            · rcases ih (List.mem_cons_of_mem _ later) with ⟨free, inside⟩
              exact ⟨free, fun _ held => List.mem_cons_of_mem _ (inside held)⟩

def Plain (parts : List PyStr) : Prop := ∀ part ∈ parts, part ≠ [] ∧ part ≠ [0x2E] ∧ 0x2F ∉ part

theorem plain_parts (text : PyStr) : Plain (pathParts text) := by
  intro part among
  rcases List.mem_filter.mp among with ⟨piece, kept⟩
  simp only [Bool.and_eq_true, Bool.not_eq_true', List.isEmpty_eq_false_iff, decide_eq_true_eq]
    at kept
  exact ⟨kept.1, kept.2, (piece_of_split piece).1⟩

theorem parts_asPosix (plain : Plain parts) : pathParts (asPosix parts) = parts := by
  unfold asPosix
  cases parts with
  | nil => rfl
  | cons first rest =>
      rw [List.isEmpty_cons, if_neg Bool.false_ne_true, pathParts,
        List.splitOn_intercalate _ (fun part among => (plain part among).2.2)
        (List.cons_ne_nil _ _)]
      apply List.filter_eq_self.mpr
      intro part among
      simp [(plain part among).1, (plain part among).2.1]

theorem mem_intercalate {separator point : Nat} (among : point ∈ [separator].intercalate parts) :
    point = separator ∨ ∃ part ∈ parts, point ∈ part := by
  induction parts with
  | nil => cases among
  | cons first rest ih =>
      cases rest with
      | nil =>
          rw [List.intercalate_singleton] at among
          exact .inr ⟨first, List.mem_cons_self, among⟩
      | cons second others =>
          rw [List.intercalate_cons_cons] at among
          rcases List.mem_append.mp among with front | back
          · rcases List.mem_append.mp front with inside | between
            · exact .inr ⟨first, List.mem_cons_self, inside⟩
            · exact .inl (List.mem_singleton.mp between)
          · rcases ih back with same | ⟨part, held, inside⟩
            · exact .inl same
            · exact .inr ⟨part, List.mem_cons_of_mem _ held, inside⟩

theorem asPosix_blank (parts : List PyStr) :
    (asPosix parts).all space = true ↔ ∃ name, parts = [name] ∧ name.all space = true := by
  cases parts with
  | nil => simp [asPosix, space]
  | cons first rest =>
      cases rest with
      | nil => simp [asPosix]
      | cons second others =>
          have slash : space 0x2F = false := rfl
          simp [asPosix, List.intercalate_cons_cons, slash]

theorem asPosix_points {point : Nat} (among : point ∈ asPosix (pathParts text)) :
    point = 0x2E ∨ point = 0x2F ∨ point ∈ text := by
  unfold asPosix at among
  split at among
  · exact .inl (List.mem_singleton.mp among)
  · rcases mem_intercalate among with slash | ⟨part, held, inside⟩
    · exact .inr (.inl slash)
    · exact .inr (.inr ((piece_of_split (List.mem_filter.mp held).1).2 inside))

theorem asPosix_zero (free : 0 ∉ text) : 0 ∉ asPosix (pathParts text) := by
  intro among
  rcases asPosix_points among with impossible | impossible | inside
  · cases impossible
  · cases impossible
  · exact free inside

theorem asPosix_relative (plain : Plain parts) : (asPosix parts).head? ≠ some 0x2F := by
  cases parts with
  | nil => decide
  | cons first rest =>
      rcases plain first List.mem_cons_self with ⟨filled, _, free⟩
      cases first with
      | nil => exact absurd rfl filled
      | cons point others =>
          intro opens
          have same : point = 0x2F := by
            cases rest with
            | nil => simpa [asPosix] using opens
            | cons second last => simpa [asPosix, List.intercalate_cons_cons] using opens
          exact free (by simp [same])

end Texts

section Contained

def fits : ExpectedPathKind → Item PyStr → Bool
  | .file, item => regular item
  | .directory, item => directory item
  | .any, item => regular item || directory item

/-- A path that is in a workspace, by its canonical root and its parts below it. -/
structure Contained (tree : HostTree) (root : HostPath) (parts : List PyStr) (mustExist : Bool)
    (kind : ExpectedPathKind) (path : HostPath) : Prop where
  canonical : tree.Direct root
  inside : path = root ++ parts
  no_link : ∀ front back, parts = front ++ back → front ≠ [] → ∀ target,
    tree.lstat (root ++ front) ≠ .ok (.link target)
  present : mustExist = true → ∃ item, tree.stat path = .ok item
  fitting : ∀ item, tree.stat path = .ok item → fits kind item = true

variable {tree : HostTree} {depth : Nat} {workspaceRoot : List (Step PyStr)} {mustExist : Bool}
  {kind : ExpectedPathKind} {parts : List PyStr} {path root : HostPath}

theorem orViolation_ok {α : Type} {outcome : Except PathError α} {a : α}
    (run : orViolation outcome = .ok a) : outcome = .ok a := by
  cases outcome with
  | error error => cases run
  | ok b =>
      cases run
      rfl

theorem canonicalRoot_direct (run : canonicalRoot tree depth workspaceRoot = .ok root) :
    tree.Direct root := by
  rcases bind_ok run with ⟨found, resolves, run⟩
  rcases bind_ok run with ⟨there, _, run⟩
  split at run
  · cases run
    have strict := orViolation_ok resolves
    unfold resolve at strict
    split at strict
    · cases strict
    · cases strict
    · next same =>
        cases strict
        exact realPath_direct same
  · cases run

theorem statIs_ok {item : Item PyStr} (there : tree.stat path = .ok item)
    (test : Item PyStr → Bool) : statIs tree test path = .ok (test item) := by
  rw [statIs, there]

theorem expected_eq {item : Item PyStr} (there : tree.stat path = .ok item) :
    expected tree path kind = .ok (fits kind item) := by
  cases kind with
  | file | directory => exact statIs_ok there _
  | any =>
      rw [expected, statIs_ok there, statIs_ok there]
      cases item <;> rfl

theorem statIs_true {test : Item PyStr → Bool} (run : statIs tree test path = .ok true) :
    ∃ item, tree.stat path = .ok item := by
  unfold statIs at run
  split at run
  · next item there => exact ⟨item, there⟩
  · cases run
  · cases run

/-- What the resolution of such parts returns. -/
theorem resolveParts_ok (plain : Plain parts)
    (run : resolveParts tree depth workspaceRoot mustExist kind parts = .ok path) :
    ∃ root, canonicalRoot tree depth workspaceRoot = .ok root ∧ Reached tree root parts ∧
      Contained tree root parts mustExist kind path := by
  rcases bind_ok run with ⟨root, canonical, run⟩
  split at run
  · cases run
  rcases bind_ok run with ⟨_, rejects, run⟩
  rcases bind_ok run with ⟨resolved, resolves, run⟩
  have direct := canonicalRoot_direct canonical
  have reached := reject_reached direct (fun dot => (plain _ dot).2.1 rfl) rejects
  have own : resolved = root ++ parts := reached.resolved (orViolation_ok resolves)
  subst own
  have links := fun front back split some_ => reached.no_link front back split some_
  split at run
  · cases run
  rcases bind_ok run with ⟨present, exists_, run⟩
  have known := orViolation_ok exists_
  split at run
  · next there =>
      rw [there] at known
      rcases statIs_true known with ⟨item, stands⟩
      rcases bind_ok run with ⟨suits, kinds, run⟩
      have answers := orViolation_ok kinds
      rw [expected_eq stands] at answers
      split at run
      · next fitting =>
          cases run
          refine ⟨root, canonical, reached, direct, rfl, links, fun _ => ⟨item, stands⟩, ?_⟩
          intro other found
          cases stands.symm.trans found
          exact (Except.ok.inj answers).trans fitting
      · cases run
  · next absent =>
      split at run
      · cases run
      · next optional =>
          cases run
          refine ⟨root, canonical, reached, direct, rfl, links, fun must => absurd must optional,
            ?_⟩
          intro item stands
          rw [statIs_ok stands] at known
          exact absurd (Except.ok.inj known).symm absent

end Contained

section Refusals

def Refuses {α : Type} (outcome : Except Raised α) : Prop := ∀ raised, outcome = .error raised →
    raised = violation

variable {α β : Type}

theorem refuses_ok (a : α) : Refuses (.ok a) := by
  intro raised run
  cases run

theorem refuses_violation : Refuses (.error violation : Except Raised α) := by
  intro raised run
  exact (Except.error.inj run).symm

theorem refuses_bind {first : Except Raised α} {rest : α → Except Raised β} (start : Refuses first)
    (next : ∀ a, Refuses (rest a)) : Refuses (first >>= rest) := by
  cases first with
  | error raised =>
      rw [start raised rfl]
      exact refuses_violation
  | ok a => exact next a

theorem refuses_orViolation (outcome : Except PathError α) : Refuses (orViolation outcome) := by
  cases outcome with
  | error error => exact refuses_violation
  | ok a => exact refuses_ok a

theorem refuses_ite {condition : Prop} [Decidable condition] {yes no : Except Raised α}
    (holds : Refuses yes) (fails : Refuses no) : Refuses (if condition then yes else no) := by
  split
  · exact holds
  · exact fails

variable (tree : HostTree) (depth : Nat) (workspaceRoot : List (Step PyStr))

theorem refuses_root : Refuses (canonicalRoot tree depth workspaceRoot) := by
  apply refuses_bind (refuses_orViolation _)
  intro root
  apply refuses_bind (refuses_orViolation _)
  exact fun _ => refuses_ite (refuses_ok _) refuses_violation

theorem refuses_reject (parts : List PyStr) (current : HostPath) :
    Refuses (rejectSymlinkComponents tree current parts) := by
  induction parts generalizing current with
  | nil => exact refuses_ok _
  | cons component rest ih =>
      rw [rejectSymlinkComponents]
      apply refuses_ite (ih current)
      cases tree.lstat (current ++ [component]) with
      | error fault =>
          cases fault with
          | missing => exact refuses_ok _
          | notDirectory | loop | refused => exact refuses_violation
      | ok item =>
          cases item with
          | link target => exact refuses_violation
          | file | special | directory => exact ih _

theorem refuses_resolve (text : PyStr) (mustExist : Bool) (kind : ExpectedPathKind) :
    Refuses (resolveWorkspacePath tree depth workspaceRoot text mustExist kind) := by
  apply refuses_ite refuses_violation
  apply refuses_ite refuses_violation
  apply refuses_bind (refuses_root tree depth workspaceRoot)
  intro root
  apply refuses_ite refuses_violation
  apply refuses_bind (refuses_reject tree _ root)
  intro _
  apply refuses_bind (refuses_orViolation _)
  intro resolved
  apply refuses_ite refuses_violation
  apply refuses_bind (refuses_orViolation _)
  intro present
  apply refuses_ite
  · apply refuses_bind (refuses_orViolation _)
    exact fun _ => refuses_ite (refuses_ok _) refuses_violation
  · exact refuses_ite refuses_violation (refuses_ok _)

end Refusals

section RoundTrips

variable (tree : HostTree) (depth : Nat) (workspaceRoot : List (Step PyStr)) (mustExist : Bool)
  (kind : ExpectedPathKind)

/-- The text that is rendered for a path resolves to it. -/
def RoundTrip (path : HostPath) : Prop :=
  ∃ relative, relativeWorkspacePath tree depth workspaceRoot path = .ok relative ∧
    resolveWorkspacePath tree depth workspaceRoot relative mustExist kind = .ok path

variable {tree depth workspaceRoot mustExist kind} {text : PyStr} {path root : HostPath}
    {parts : List PyStr}

theorem relative_reached (canonical : canonicalRoot tree depth workspaceRoot = .ok root)
    (reached : Reached tree root parts) :
    relativeWorkspacePath tree depth workspaceRoot (root ++ parts) = .ok (asPosix parts) := by
  have inside : root.isPrefixOf (root ++ parts) = true :=
    List.isPrefixOf_iff_prefix.mpr (List.prefix_append _ _)
  unfold relativeWorkspacePath
  rw [canonical, reached.resolves]
  simp [bind, Except.bind, orViolation, inside]

/-- A path resolves again unless its only part is blank. -/
theorem roundTrip_iff
    (run : resolveWorkspacePath tree depth workspaceRoot text mustExist kind = .ok path) :
    RoundTrip tree depth workspaceRoot mustExist kind path ↔
      ¬ ∃ name, pathParts text = [name] ∧ name.all space = true := by
  unfold resolveWorkspacePath at run
  split at run
  · cases run
  next clean =>
  split at run
  · cases run
  next lexical =>
  rcases resolveParts_ok (plain_parts text) run with ⟨root, canonical, reached, contained⟩
  have rendered := relative_reached canonical reached
  rw [← contained.inside] at rendered
  have again := parts_asPosix (plain_parts text)
  rw [← asPosix_blank]
  constructor
  · rintro ⟨relative, renders, resolves⟩ blank
    cases rendered.symm.trans renders
    unfold resolveWorkspacePath at resolves
    rw [if_pos (.inl blank)] at resolves
    cases resolves
  · intro solid
    refine ⟨_, rendered, ?_⟩
    have zero : 0 ∉ text := fun among => clean (.inr among)
    have up : [0x2E, 0x2E] ∉ pathParts text := fun among => lexical (.inr among)
    unfold resolveWorkspacePath
    rw [if_neg (not_or.mpr ⟨solid, asPosix_zero zero⟩), again,
      if_neg (not_or.mpr ⟨asPosix_relative (plain_parts text), up⟩)]
    exact run

/-- A call raises a violation or returns a path of the workspace, which its own text leads back to
exactly if it is not one blank component. -/
theorem containment_exact (tree : HostTree) (depth : Nat) (workspaceRoot : List (Step PyStr))
    (text : PyStr) (mustExist : Bool) (kind : ExpectedPathKind) :
    match resolveWorkspacePath tree depth workspaceRoot text mustExist kind with
    | .error raised => raised = violation
    | .ok path =>
        (∃ root, canonicalRoot tree depth workspaceRoot = .ok root ∧
          Contained tree root (pathParts text) mustExist kind path) ∧
        (RoundTrip tree depth workspaceRoot mustExist kind path ↔
          ¬ ∃ name, pathParts text = [name] ∧ name.all space = true) := by
  cases run : resolveWorkspacePath tree depth workspaceRoot text mustExist kind with
  | error raised => exact refuses_resolve tree depth workspaceRoot text mustExist kind raised run
  | ok path =>
      refine ⟨?_, roundTrip_iff run⟩
      unfold resolveWorkspacePath at run
      split at run
      · cases run
      split at run
      · cases run
      rcases resolveParts_ok (plain_parts text) run with ⟨root, canonical, _, contained⟩
      exact ⟨root, canonical, contained⟩

def emptyWorkspace : HostTree where
  top := [([0x77], .directory [])]
  refuses := fun _ => false

theorem blank_resolved :
    resolveWorkspacePath emptyWorkspace 0 [.into [0x77]] [0x2E, 0x2F, 0x20] false .any =
      .ok [[0x77], [0x20]] := rfl

/-- The name that is one space is reached as `./` and a space, and its text is refused. -/
theorem blank_component_lost :
    ¬ ∀ (tree : HostTree) (depth : Nat) (workspaceRoot : List (Step PyStr))
    (text : PyStr) (mustExist : Bool) (kind : ExpectedPathKind) (path : HostPath),
    resolveWorkspacePath tree depth workspaceRoot text mustExist kind = .ok path →
      (∃ root, canonicalRoot tree depth workspaceRoot = .ok root ∧
        Contained tree root (pathParts text) mustExist kind path) ∧
      RoundTrip tree depth workspaceRoot mustExist kind path := by
  intro claimed
  have trip :=
    (claimed emptyWorkspace 0 [.into [0x77]] [0x2E, 0x2F, 0x20] false .any _ blank_resolved).2
  exact (roundTrip_iff blank_resolved).mp trip ⟨[0x20], rfl, rfl⟩

end RoundTrips

end SynapseOS.Containment
