import SynapseOS.Developer.Evidence
import SynapseOS.Lib.Trace
import SynapseOS.Runtime.Runs

/-! Whether a successful report tells the last result of each required profile. -/

namespace SynapseOS.Developer

open Agents Commands SynapseOS.Runtime Tools

def Attempt.names (profile : CommandProfileId) (attempt : Attempt) : Bool :=
  decide (attempt.toolName = commandTool ∧ requestedProfile attempt.arguments = some profile.value)

def Attempt.check (attempt : Attempt) : Option DeveloperCheckResult :=
  match attempt.result with
  | some result =>
      if attempt.toolName = commandTool ∧ result.toolName.text = attempt.toolName ∧
          result.status = .succeeded then commandCheck attempt.arguments result.output
      else none
  | none => none

def Attempt.leavesRecord (attempt : Attempt) : Bool :=
  match attempt.result with
  | some result =>
      decide (result.toolName.text = attempt.toolName) &&
        if result.status ≠ .succeeded then result.errorCode.isSome
        else if attempt.toolName ∈ writeTools then
          match attempt.arguments.get "path" with
          | some (.string path) => changedPath path
          | _ => false
        else attempt.check.isSome
  | none => false

section Commands

theorem commandCheck_profile {arguments output : JsonObject} {check : DeveloperCheckResult}
    (checked : commandCheck arguments output = some check) :
    requestedProfile arguments = some check.profileId.value := by
  unfold commandCheck at checked
  split at checked
  · split at checked
    · split at checked
      · split at checked
        · next requested =>
            split at checked
            · cases checked
              exact requested
            · cases checked
        · cases checked
      · cases checked
    · cases checked
  · cases checked

theorem parsed_value {text : String} {profile : CommandProfileId}
    (parsed : CommandProfileId.parse text = some profile) : text = profile.value := by
  have found := List.find?_some parsed
  exact (of_decide_eq_true found).symm

theorem parsed_succeeded {text : String}
    (parsed : CommandTerminalStatus.parse text = some .succeeded) :
    text = "SUCCEEDED" := by
  unfold CommandTerminalStatus.parse at parsed
  split at parsed
  · rfl
  · cases parsed
  · cases parsed

theorem commandCheck_output {arguments output : JsonObject} {check : DeveloperCheckResult}
    (checked : commandCheck arguments output = some check) :
    output.get "profile_id" = some (.string check.profileId.value) ∧
      (∃ status, output.get "terminal_status" = some (.string status) ∧
        CommandTerminalStatus.parse status = some check.status) ∧
      output.get "exit_code" = some (.integer check.exitCode) ∧
      output.get "truncated" = some (.boolean check.truncated) := by
  unfold commandCheck at checked
  split at checked
  · next profile _ status exitCode truncated profiled _ told exited cut =>
      split at checked
      · next parsed _ known =>
          split at checked
          · split at checked
            · split at checked
              · cases checked
                rw [profiled, parsed_value parsed]
                exact ⟨rfl, ⟨status, told, known⟩, exited, cut⟩
              · cases checked
            · cases checked
          · cases checked
      · cases checked
  · cases checked

/-- The call has returned the output of a command of the profile that exited with zero. -/
def Attempt.Passed (attempt : Attempt) (profile : CommandProfileId) : Prop :=
  ∃ result, attempt.result = some result ∧ result.status = .succeeded ∧
    JsonObject.get result.output "profile_id" = some (.string profile.value) ∧
    JsonObject.get result.output "terminal_status" = some (.string "SUCCEEDED") ∧
    JsonObject.get result.output "exit_code" = some (.integer 0)

theorem expected_zero {exitCode : Int} (expected : expectedStatus exitCode = .succeeded) :
    exitCode = 0 := by
  unfold expectedStatus at expected
  split at expected
  · next zero => exact zero
  · cases expected

theorem check_passed {attempt : Attempt} {check : DeveloperCheckResult}
    (checked : attempt.check = some check) (passed : check.status = .succeeded) :
    attempt.Passed check.profileId := by
  unfold Attempt.check at checked
  split at checked
  · next result returned =>
      split at checked
      · next both =>
          obtain ⟨profiled, ⟨status, told, parsed⟩, exited, _⟩ := commandCheck_output checked
          rw [passed] at parsed
          have zero := expected_zero (check.truthful.2.symm.trans passed)
          rw [parsed_succeeded parsed] at told
          rw [zero] at exited
          exact ⟨result, returned, both.2.2, profiled, told, exited⟩
      · cases checked
  · cases checked

theorem check_names {attempt : Attempt} {check : DeveloperCheckResult}
    (checked : attempt.check = some check) : attempt.names check.profileId = true := by
  unfold Attempt.check at checked
  split at checked
  · split at checked
    · next both => exact decide_eq_true ⟨both.1, commandCheck_profile checked⟩
    · cases checked
  · cases checked

theorem names_unique {attempt : Attempt} {profile other : CommandProfileId}
    (first : attempt.names profile = true) (second : attempt.names other = true) :
    profile = other := by
  have left := (of_decide_eq_true first).2
  have right := (of_decide_eq_true second).2
  exact CommandProfileId.value_injective (Option.some.inj (left.symm.trans right))

end Commands

section Evidence

variable (evidence : Evidence) (attempt : Attempt)

theorem write_apart (write : attempt.toolName ∈ writeTools) : attempt.toolName ≠ commandTool := by
  intro same
  rw [same] at write
  exact absurd write (by decide)

theorem execute_checks :
    (evidence.execute attempt).checks = evidence.checks ++
        (if maxEvidenceRecords ≤ evidence.recordCount then [] else attempt.check.toList) ∧
      (evidence.execute attempt).recordCount = evidence.recordCount +
        if maxEvidenceRecords ≤ evidence.recordCount ∨ attempt.leavesRecord = false
          then 0 else 1 := by
  have apart := write_apart attempt
  unfold Evidence.execute Attempt.leavesRecord
  rcases attempt with ⟨tool, arguments, answer⟩
  cases answer with
  | none => simp [Attempt.check]
  | some result =>
      unfold Attempt.check
      dsimp only at apart ⊢
      unfold Evidence.observe
      by_cases full : maxEvidenceRecords ≤ evidence.recordCount
      · simp [full]
      by_cases same : result.toolName.text = tool
      · by_cases succeeded : result.status = .succeeded
        · by_cases write : tool ∈ writeTools
          · have other := apart write
            simp only [full, same, succeeded, write, other]
            unfold Evidence.observeWrite
            cases path : arguments.get "path" with
            | none => simp
            | some value =>
                cases value <;> simp
                split <;> simp_all
          · by_cases command : tool = commandTool
            · subst command
              simp only [full, same, succeeded, write]
              unfold Evidence.observeCommand
              cases commandCheck arguments result.output <;> simp
            · simp [full, same, succeeded, write, command]
        · obtain ⟨code, failed⟩ := result_code result succeeded
          simp [full, same, succeeded, failed]
      · simp [full, same]

end Evidence

section Collected

variable {attempts : List Attempt} {profile : CommandProfileId}

theorem collected_concat (attempts : List Attempt) (attempt : Attempt) :
    collected (attempts ++ [attempt]) = (collected attempts).execute attempt := by
  unfold collected
  rw [List.foldl_append]
  rfl

theorem collected_count (attempts : List Attempt) :
    (collected attempts).recordCount = min maxEvidenceRecords
      (attempts.countP Attempt.leavesRecord) := by
  induction attempts using List.reverseRecOn with
  | nil => rfl
  | append_singleton attempts attempt ih =>
      rw [collected_concat, (execute_checks _ _).2, ih, List.countP_append, List.countP_singleton]
      generalize maxEvidenceRecords = limit
      generalize attempts.countP Attempt.leavesRecord = count
      cases attempt.leavesRecord
      · simp
      · simp only [Bool.true_eq_false, or_false, if_true]
        by_cases full : limit ≤ min limit count
        · rw [if_pos full]
          omega
        · rw [if_neg full]
          omega

theorem collected_check {check : DeveloperCheckResult}
    (among : check ∈ (collected attempts).checks) :
    ∃ attempt ∈ attempts, attempt.names check.profileId = true := by
  induction attempts using List.reverseRecOn with
  | nil => cases among
  | append_singleton attempts attempt ih =>
      rw [collected_concat, (execute_checks _ _).1] at among
      rcases List.mem_append.mp among with early | late
      · obtain ⟨earlier, there, names⟩ := ih early
        exact ⟨earlier, List.mem_append_left _ there, names⟩
      · split at late
        · cases late
        · exact ⟨attempt, List.mem_append_right _ List.mem_cons_self,
            check_names (Option.mem_toList.mp late)⟩

theorem collected_later (front back : List Attempt)
    (others : ∀ later ∈ back, later.names profile = false) :
    ∃ more, (collected (front ++ back)).checks = (collected front).checks ++ more ∧
      ∀ check ∈ more, check.profileId ≠ profile := by
  induction back using List.reverseRecOn with
  | nil =>
      refine ⟨[], ?_, fun check among => absurd among List.not_mem_nil⟩
      rw [List.append_nil, List.append_nil]
  | append_singleton back last ih =>
      obtain ⟨more, checks, apart⟩ := ih fun later among =>
        others later (List.mem_append_left _ among)
      rw [← List.append_assoc, collected_concat, (execute_checks _ _).1, checks, List.append_assoc]
      refine ⟨_, rfl, fun check among => ?_⟩
      rcases List.mem_append.mp among with early | late
      · exact apart check early
      · split at late
        · cases late
        · rintro rfl
          have names := check_names (Option.mem_toList.mp late)
          rw [others last (List.mem_append_right _ List.mem_cons_self)] at names
          cases names

end Collected

section Last

def IsLast (attempts : List Attempt) (profile : CommandProfileId) (front : List Attempt)
    (attempt : Attempt) : Prop :=
  ∃ back, attempts = front ++ attempt :: back ∧ attempt.names profile = true ∧
    ∀ later ∈ back, later.names profile = false

variable {attempts front : List Attempt} {profile : CommandProfileId} {attempt : Attempt}

theorem isLast_exists (there : ∃ attempt ∈ attempts, attempt.names profile = true) :
    ∃ front attempt, IsLast attempts profile front attempt := by
  induction attempts with
  | nil =>
      obtain ⟨_, among, _⟩ := there
      cases among
  | cons head rest ih =>
      by_cases later : ∃ attempt ∈ rest, attempt.names profile = true
      · obtain ⟨front, attempt, back, split, names, none_⟩ := ih later
        exact ⟨head :: front, attempt, back, by rw [split]; rfl, names, none_⟩
      · obtain ⟨attempt, among, names⟩ := there
        rcases List.mem_cons.mp among with rfl | inside
        · refine ⟨[], attempt, rest, rfl, names, fun other after => ?_⟩
          exact Bool.eq_false_iff.mpr fun holds => later ⟨other, after, holds⟩
        · exact absurd ⟨attempt, inside, names⟩ later

theorem isLast_unique {others : List Attempt} {other : Attempt}
    (first : IsLast attempts profile front attempt)
    (second : IsLast attempts profile others other) :
    others = front ∧ other = attempt := by
  obtain ⟨back, rfl, names, last⟩ := first
  obtain ⟨rest, split, holds, final⟩ := second
  rcases List.append_eq_append_iff.mp split with ⟨gap, rfl, tail⟩ | ⟨gap, rfl, tail⟩
  · cases gap with
    | nil => exact ⟨List.append_nil _, (List.cons.inj tail).1.symm⟩
    | cons head gap =>
        obtain ⟨_, rfl⟩ := List.cons.inj tail
        rw [last other (List.mem_append_right _ List.mem_cons_self)] at holds
        cases holds
  · cases gap with
    | nil => exact ⟨(List.append_nil _).symm, (List.cons.inj tail).1⟩
    | cons head gap =>
        obtain ⟨_, rfl⟩ := List.cons.inj tail
        rw [final attempt (List.mem_append_right _ List.mem_cons_self)] at names
        cases names

end Last

section Report

variable {runtime : RuntimeResult} {required : List CommandProfileId}

theorem report_succeeded {checks : List DeveloperCheckResult}
    (succeeded : (buildAgentReport runtime required checks).outcome = .succeeded)
    {profile : CommandProfileId} (among : profile ∈ required) :
    ∃ check, (latest checks).get profile = some check ∧ check.status = .succeeded := by
  unfold buildAgentReport at succeeded
  dsimp only at succeeded
  split at succeeded
  · cases succeeded
  split at succeeded
  · cases succeeded
  split at succeeded
  · cases succeeded
  split at succeeded
  · cases succeeded
  next complete =>
  split at succeeded
  · cases succeeded
  next passing =>
  have present : ((latest checks).get profile).isNone ≠ true := fun missing =>
    List.ne_nil_of_mem (List.mem_filter.mpr ⟨among, missing⟩) (not_not.mp complete)
  have passed : ((latest checks).get profile).any (fun check => decide (check.status = .failed)) ≠
      true :=
    fun failed => List.ne_nil_of_mem (List.mem_filter.mpr ⟨among, failed⟩) (not_not.mp passing)
  cases found : (latest checks).get profile with
  | none =>
      rw [found] at present
      exact absurd rfl present
  | some check =>
      rw [found] at passed
      refine ⟨check, rfl, ?_⟩
      cases status : check.status with
      | succeeded => rfl
      | failed => simp [status] at passed

/-- For each profile, the last call of it has returned a command result that succeeded. -/
def Truthful (required : List CommandProfileId) (attempts : List Attempt) : Prop :=
  ∀ profile ∈ required, ∃ front attempt, IsLast attempts profile front attempt ∧
    attempt.Passed profile ∧ ∃ check, attempt.check = some check ∧ check.status = .succeeded

/-- The last call of each profile has returned a command result, and one that has not failed where
there was no room left for its record. -/
def Observed (required : List CommandProfileId) (attempts : List Attempt) : Prop :=
  ∀ profile ∈ required, ∀ front attempt, IsLast attempts profile front attempt →
    ∃ check, attempt.check = some check ∧
      (maxEvidenceRecords ≤ front.countP Attempt.leavesRecord → check.status ≠ .failed)

variable {attempts front : List Attempt} {profile : CommandProfileId} {attempt : Attempt}

/-- The result of the last call is the latest check if there was room for it. -/
theorem latest_last {check : DeveloperCheckResult} (last : IsLast attempts profile front attempt)
    (checked : attempt.check = some check)
    (room : front.countP Attempt.leavesRecord < maxEvidenceRecords) :
    (latest (collected attempts).checks).get profile = some check := by
  obtain ⟨back, rfl, names, others⟩ := last
  obtain ⟨more, checks, apart⟩ := collected_later (front ++ [attempt]) back others
  rw [List.append_assoc, List.singleton_append] at checks
  have open_ : ¬ maxEvidenceRecords ≤ (collected front).recordCount := by
    rw [collected_count]
    omega
  rw [collected_concat, (execute_checks _ _).1, if_neg open_, checked] at checks
  have same : check.profileId = profile := names_unique (check_names checked) names
  have placed : ((latest (collected (front ++ attempt :: back)).checks).get profile = some check) ↔
      _ :=
    Dict.indexLast_last
  refine placed.mpr ⟨same, (collected front).checks, more, ?_, apart⟩
  rw [checks, List.append_assoc]
  rfl

theorem truthful_observed
    (succeeded : (buildAgentReport runtime required (collected attempts).checks).outcome =
      .succeeded) :
    Truthful required attempts ↔ Observed required attempts := by
  constructor
  · intro truthful profile among front attempt last
    obtain ⟨_, _, other, _, check, checked, passed⟩ := truthful profile among
    obtain ⟨rfl, rfl⟩ := isLast_unique last other
    refine ⟨check, checked, fun _ failed => ?_⟩
    rw [passed] at failed
    cases failed
  · intro observed profile among
    obtain ⟨held, found, passed⟩ := report_succeeded succeeded among
    have inside := Dict.indexLast_mem found
    have there := collected_check inside.1
    rw [inside.2] at there
    obtain ⟨front, attempt, last⟩ := isLast_exists there
    obtain ⟨check, checked, kept⟩ := observed profile among front attempt last
    have succeeds : check.status = .succeeded := by
      by_cases full : maxEvidenceRecords ≤ front.countP Attempt.leavesRecord
      · have sound := kept full
        cases status : check.status with
        | succeeded => rfl
        | failed => exact absurd status sound
      · rw [latest_last last checked (Nat.lt_of_not_le full)] at found
        cases found
        exact passed
    have same : check.profileId = profile := by
      obtain ⟨_, _, names, _⟩ := last
      exact names_unique (check_names checked) names
    exact ⟨front, attempt, last, same ▸ check_passed checked succeeds, check, checked, succeeds⟩

end Report

theorem map_returned {α β ε : Type} {f : α → β} {outcome : Except ε α} {b : β}
    (returned : outcome.map f = .ok b) : ∃ a, outcome = .ok a ∧ b = f a := by
  cases outcome with
  | error raised => cases returned
  | ok a =>
      cases returned
      exact ⟨a, rfl, rfl⟩

/-- A successful report tells the last result of each required profile exactly if each last call has
returned a command result that was retained or did not fail. -/
theorem report_truthful (runtime : AgentRuntime) (request : DeveloperRequest)
    (result : DeveloperResult) (returned : DeveloperAgent.run runtime request = .ok result)
    (succeeded : result.report.outcome = .succeeded) :
    Truthful request.requiredCheckProfiles
        (attemptsOf
          (Runtime.run runtime request.task request.executionContext Runtime.start).2.trace) ↔
      Observed request.requiredCheckProfiles
        (attemptsOf
          (Runtime.run runtime request.task request.executionContext Runtime.start).2.trace) := by
  obtain ⟨told, _, rfl⟩ := map_returned returned
  exact truthful_observed succeeded

section Sample

def commandIdentifier : Identifier := ⟨commandTool, by decide⟩

def pytestDecision : RuntimeDecision :=
  ⟨.toolCall, some commandIdentifier, [("profile_id", .string "pytest")], sampleText _ long_text, 1,
    by decide, certain, by decide⟩

def passedResult : ToolResult :=
  ⟨commandIdentifier, .succeeded,
    [("profile_id", .string "pytest"), ("category", .string "TEST"),
      ("terminal_status", .string "SUCCEEDED"),
      ("exit_code", .integer 0), ("truncated", .boolean false)],
    none, none, 0, false, 0, immediate, succeeded_consistent⟩

def timedOutResult : ToolResult :=
  ⟨commandIdentifier, .timedOut, [], some .toolTimedOut, some "late", 0, false, 0,
    immediate, by decide⟩

def pytestEnv (calls : Nat) (answer : Nat → ToolResult) : Collaborators :=
  { sampleEnv with
    decide := fun trace _ _ _ _ =>
      .ok (reply (if callsOf trace < calls then pytestDecision else completeDecision) 1 one_reply)
    execute := fun trace _ _ _ => .ok (answer (callsOf trace)) }

def pytestRuntime (calls : Nat) (answer : Nat → ToolResult) : AgentRuntime :=
  ⟨pytestEnv calls answer,
    ⟨3, 1, 2, 2, 100, 3, 3, 1, three_iterations, one_second, two_calls, by decide,
    hundred_tokens, by decide, by decide, one_token, by decide⟩, le_refl 1⟩

def lateAnswer (call : Nat) : ToolResult := if call ≤ 1 then passedResult else timedOutResult

def pytestRequest : DeveloperRequest := ⟨sampleTask, sampleContext, [.pytest], by decide, by decide⟩

def outcomeOf : Except Exn DeveloperResult → Option AgentReportOutcome
  | .ok result => some result.report.outcome
  | .error _ => none

def callsOfRun (runtime : AgentRuntime) : List Attempt :=
  attemptsOf
    (Runtime.run runtime pytestRequest.task pytestRequest.executionContext Runtime.start).2.trace

theorem observed_passed {required : List CommandProfileId} {attempts : List Attempt}
    (passed : (attempts.all fun attempt =>
      attempt.check.any fun check => decide (check.status = .succeeded)) = true) :
    Observed required attempts := by
  intro profile _ front attempt last
  obtain ⟨back, rfl, _, _⟩ := last
  have own := List.all_eq_true.mp passed attempt (List.mem_append_right _ List.mem_cons_self)
  obtain ⟨check, checked, status⟩ := (Option.any_eq_true _ _).mp own
  refine ⟨check, checked, fun _ failed => ?_⟩
  rw [of_decide_eq_true status] at failed
  cases failed

theorem returned_outcome {outcome : Except Exn DeveloperResult} {told : AgentReportOutcome}
    (same : outcomeOf outcome = some told) : ∃ result, outcome = .ok result ∧
    result.report.outcome = told := by
  cases outcome with
  | error raised => cases same
  | ok result =>
      cases same
      exact ⟨result, rfl, rfl⟩

theorem report_truthful_passed :
    (callsOfRun (pytestRuntime 1 lateAnswer)).length = 1 ∧ Truthful [.pytest]
    (callsOfRun (pytestRuntime 1 lateAnswer)) := by
  obtain ⟨result, returned, succeeded⟩ : ∃ result,
      DeveloperAgent.run (pytestRuntime 1 lateAnswer) pytestRequest = .ok result ∧
      result.report.outcome = .succeeded :=
    returned_outcome (by decide +kernel)
  have passed : Observed [.pytest] (callsOfRun (pytestRuntime 1 lateAnswer)) :=
    observed_passed (by decide +kernel)
  exact ⟨by decide +kernel,
    (report_truthful (pytestRuntime 1 lateAnswer) pytestRequest result returned succeeded).mpr
      passed⟩

/-- Pytest passes and then times out, and the report is a success. -/
theorem timeout_hidden : ¬ ∀ (runtime : AgentRuntime) (request : DeveloperRequest)
    (result : DeveloperResult),
    DeveloperAgent.run runtime request = .ok result → result.report.outcome = .succeeded →
      Truthful request.requiredCheckProfiles
        (attemptsOf
          (Runtime.run runtime request.task request.executionContext Runtime.start).2.trace) := by
  intro claimed
  obtain ⟨result, returned, succeeded⟩ : ∃ result,
      DeveloperAgent.run (pytestRuntime 2 lateAnswer) pytestRequest = .ok result ∧
      result.report.outcome = .succeeded :=
    returned_outcome (by decide +kernel)
  have truthful : Truthful [.pytest] (callsOfRun (pytestRuntime 2 lateAnswer)) :=
    claimed (pytestRuntime 2 lateAnswer) pytestRequest result returned succeeded
  obtain ⟨_, _, last, _, check, checked, _⟩ := truthful .pytest List.mem_cons_self
  obtain ⟨final, ends, shape⟩ :
    ∃ final, (callsOfRun (pytestRuntime 2 lateAnswer)).getLast? = some final ∧
      (final.names .pytest && final.check.isNone) = true :=
    (Option.any_eq_true _ _).mp (by decide +kernel)
  obtain ⟨names, unread⟩ := (Bool.and_eq_true _ _).mp shape
  obtain ⟨front, split⟩ := List.getLast?_eq_some_iff.mp ends
  have ended : IsLast (callsOfRun (pytestRuntime 2 lateAnswer)) .pytest front final :=
    ⟨[], split, names, fun later among => absurd among List.not_mem_nil⟩
  obtain ⟨rfl, rfl⟩ := isLast_unique last ended
  rw [checked] at unread
  cases unread

end Sample

end SynapseOS.Developer
