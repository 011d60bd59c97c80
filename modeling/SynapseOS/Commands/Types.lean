import Mathlib.Tactic

/-! Values of the command boundary (`core/commands/types.py`). -/

namespace SynapseOS.Commands

inductive CommandProfileId
  | pytest
  | ruff
  | mypy
  | npmTest
  | npmBuild
  | phpArtisanTest
  | gitStatus
  | gitDiff
  | gitDiffStaged
  | gitLog
  deriving DecidableEq, Repr

inductive CommandCategory
  | test
  | lint
  | build
  | gitRead
  deriving DecidableEq, Repr

inductive CommandTerminalStatus
  | succeeded
  | failed
  deriving DecidableEq, Repr

def CommandProfileId.value : CommandProfileId → String
  | .pytest => "pytest"
  | .ruff => "ruff"
  | .mypy => "mypy"
  | .npmTest => "npm-test"
  | .npmBuild => "npm-build"
  | .phpArtisanTest => "php-artisan-test"
  | .gitStatus => "git-status"
  | .gitDiff => "git-diff"
  | .gitDiffStaged => "git-diff-staged"
  | .gitLog => "git-log"

theorem CommandProfileId.value_injective : Function.Injective CommandProfileId.value := by
  intro first second same
  cases first <;> cases second <;> first | rfl | exact absurd same (by decide)

def CommandProfileId.parse (text : String) : Option CommandProfileId :=
  [CommandProfileId.pytest, .ruff, .mypy, .npmTest, .npmBuild, .phpArtisanTest,
    .gitStatus, .gitDiff,
    .gitDiffStaged, .gitLog].find? fun profile => decide (profile.value = text)

def CommandCategory.parse : String → Option CommandCategory
  | "TEST" => some .test
  | "LINT" => some .lint
  | "BUILD" => some .build
  | "GIT_READ" => some .gitRead
  | _ => none

def CommandTerminalStatus.parse : String → Option CommandTerminalStatus
  | "SUCCEEDED" => some .succeeded
  | "FAILED" => some .failed
  | _ => none

/-- `_PROFILE_CATEGORIES`. -/
def CommandProfileId.category : CommandProfileId → CommandCategory
  | .pytest | .npmTest | .phpArtisanTest => .test
  | .ruff | .mypy => .lint
  | .npmBuild => .build
  | .gitStatus | .gitDiff | .gitDiffStaged | .gitLog => .gitRead

def expectedStatus (exitCode : Int) : CommandTerminalStatus :=
  if exitCode = 0 then .succeeded else .failed

end SynapseOS.Commands
