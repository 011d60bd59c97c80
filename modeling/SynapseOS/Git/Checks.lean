import SynapseOS.Git.GitHub

/-! The check runs of a head that the merge sees, and those that it does not
(`infrastructure/git/github/provider.py`, `merge_gate.py`). -/

namespace SynapseOS.Git

open Execution Tools

/-- The check runs that the remote holds for a head, and how many of them a page carries. -/
structure HeldRuns where
  runs : List JsonValue
  pageSize : Nat

namespace HeldRuns

variable (upper : PyStr → PyStr) (held : HeldRuns)

def page : List JsonValue := held.runs.take held.pageSize

def unseen : List JsonValue := held.runs.drop held.pageSize

def reply : JsonValue :=
  .dict [("total_count", .integer held.runs.length), ("check_runs", .list held.page)]

def Passing (run : JsonValue) : Prop :=
  ∃ check, remoteCheck upper run = .ok check ∧ check.status = .completed ∧
    check.conclusion = some .success

/-- `list_checks` returns all runs or raises, and no merge request is sent while a run that was not
seen is failing or unfinished. -/
structure Accounted : Prop where
  complete : ∀ checks, listChecks upper held.reply = .ok checks →
    held.runs.mapM (remoteCheck upper) = .ok checks
  merges : ∀ world request, world.upper = upper → world.checks = .value held.reply →
    (mergePullRequest world request).sent = true → ∀ run ∈ held.unseen, Passing upper run

/-- The page carries every run, or has more than the adapter reads or a run that it does not
accept. -/
def PageSuffices : Prop :=
  held.runs.length ≤ held.pageSize ∨ 1000 < held.page.length ∨
    ∃ run ∈ held.page, ∀ check, remoteCheck upper run ≠ .ok check

end HeldRuns

section Listing

variable {upper : PyStr → PyStr} {held : HeldRuns} {checks : List RemoteCheck}

theorem mapM_replicate {ε α β : Type} {f : α → Except ε β} {item : α} {value : β}
    (made : f item = .ok value)
    (count : Nat) : (List.replicate count item).mapM f = .ok (List.replicate count value) := by
  induction count with
  | zero => rfl
  | succ count ih =>
      rw [List.replicate_succ, List.mapM_cons, made, ih]
      rfl

theorem readResponse_ok {α : Type} {reading : Except Raised α} {value : α} :
    readResponse reading = .ok value ↔ reading = .ok value := by
  unfold readResponse
  split <;> simp

theorem listChecks_reply : listChecks upper held.reply = .ok checks ↔
    held.page.length ≤ 1000 ∧ held.page.mapM (remoteCheck upper) = .ok checks := by
  have found : JsonObject.get [("total_count", .integer held.runs.length),
      ("check_runs", .list held.page)] "check_runs" = some (.list held.page) := rfl
  unfold listChecks HeldRuns.reply mapping
  dsimp only [Bind.bind, Except.bind]
  rw [found]
  dsimp only
  split
  · next most => exact ⟨nofun, fun both => absurd both.1 (by omega)⟩
  · next few => exact readResponse_ok.trans ⟨fun mapped => ⟨by omega, mapped⟩, And.right⟩

theorem page_whole (few : held.runs.length ≤ held.pageSize) : held.page = held.runs :=
  List.take_of_length_le few

/-- Of a page that suffices nothing is left out of a listing. -/
theorem listed_whole (suffices_ : held.PageSuffices upper)
    (listed : listChecks upper held.reply = .ok checks) :
    held.runs.length ≤ held.pageSize := by
  obtain ⟨small, mapped⟩ := listChecks_reply.mp listed
  rcases suffices_ with few | most | ⟨run, among, rejects⟩
  · exact few
  · omega
  · obtain ⟨check, made⟩ := mapM_accepts mapped run among
    exact absurd made (rejects check)

theorem sent_listed {world : MergeWorld} {request : RemoteMergeRequest} {value : JsonValue}
    (checked : world.checks = .value value) (sent : (mergePullRequest world request).sent = true) :
    ∃ checks, listChecks world.upper value = .ok checks := by
  by_cases sends : Sends world request
  · obtain ⟨_, _, prepared⟩ := sends
    cases listed : listChecks world.upper value with
    | ok checks => exact ⟨checks, rfl⟩
    | error raised =>
        have read : world.checks.read = .ok value := by rw [checked]; rfl
        exfalso
        unfold prepareMerge at prepared
        rw [read] at prepared
        dsimp only [Bind.bind, Except.bind] at prepared
        rw [listed] at prepared
        repeat' split at prepared
        all_goals contradiction
  · rw [(merge_unsent world request sends).1] at sent
    cases sent

/-- The checks are accounted for exactly when the page suffices. -/
theorem checks_accounted (upper : PyStr → PyStr) (held : HeldRuns) :
    held.Accounted upper ↔ held.PageSuffices upper := by
  constructor
  · intro accounted
    by_contra short
    unfold HeldRuns.PageSuffices at short
    push Not at short
    obtain ⟨more, small, accepted⟩ := short
    obtain ⟨checks, mapped, pairs⟩ : ∃ checks, held.page.mapM (remoteCheck upper) = .ok checks ∧
        List.Forall₂ (fun run check => remoteCheck upper run = .ok check) held.page checks := by
      refine mapM_validates fun run among => ?_
      obtain ⟨check, made⟩ := accepted run among
      exact ⟨check, made, made⟩
    have listed := accounted.complete checks (listChecks_reply.mpr ⟨small, mapped⟩)
    have all : held.runs.length = checks.length := (mapM_related listed).length_eq
    have some_ : held.page.length = checks.length := pairs.length_eq
    have size : held.page.length = held.pageSize := List.length_take_of_le more.le
    omega
  · intro suffices_
    constructor
    · intro checks listed
      rw [← page_whole (listed_whole suffices_ listed)]
      exact (listChecks_reply.mp listed).2
    · intro world request uses checked sent run among
      obtain ⟨checks, listed⟩ := sent_listed checked sent
      rw [uses] at listed
      have few := listed_whole suffices_ listed
      have none_ : held.unseen = [] := List.drop_eq_nil_of_le few
      rw [none_] at among
      cases among

end Listing

section Sample

def sampleRun (conclusion : String) : JsonValue := .dict [("name", .string "tests"),
  ("status", .string "COMPLETED"), ("conclusion", .string conclusion),
  ("head_sha", .string sampleSha)]

def sampleHeld : HeldRuns := ⟨List.replicate 30 (sampleRun "SUCCESS") ++ [sampleRun "FAILURE"], 30⟩

def sampleCheck : RemoteCheck := ⟨.ofString "tests", .completed, some .success, .ofString sampleSha⟩

/-- The failed run is not listed, and the merge request is sent. -/
theorem failure_unseen :
    let world := { sampleWorld (.raises .other) false with checks := .value sampleHeld.reply }
    listChecks id sampleHeld.reply = .ok (List.replicate 30 sampleCheck) ∧
      (mergePullRequest world sampleMerge).sent = true ∧ sampleRun "FAILURE" ∈ sampleHeld.unseen ∧
      ¬ HeldRuns.Passing id (sampleRun "FAILURE") ∧ ¬ sampleHeld.Accounted id := by
  have read : remoteCheck id (sampleRun "SUCCESS") = .ok sampleCheck := by decide
  have listed : listChecks id sampleHeld.reply = .ok (List.replicate 30 sampleCheck) :=
    listChecks_reply.mpr ⟨by decide, mapM_replicate read 30⟩
  have unseen : sampleRun "FAILURE" ∈ sampleHeld.unseen := List.mem_singleton_self _
  have failing : ¬ HeldRuns.Passing id (sampleRun "FAILURE") := by
    rintro ⟨check, made, _, success⟩
    have made' : remoteCheck id (sampleRun "FAILURE") =
        .ok ⟨.ofString "tests", .completed, some .failure, .ofString sampleSha⟩ := by decide
    rw [made'] at made
    cases made
    cases success
  have sent :
    (mergePullRequest { sampleWorld (.raises .other) false with checks := .value sampleHeld.reply }
      sampleMerge).sent = true := by
    refine (merge_sent _ _ ⟨rfl, rfl, ?_⟩).1
    have pulled : (mapping samplePull >>= pullRequest id) =
        .ok ⟨7, .open_, .ofString "Ship", .ofString "feature", .ofString "main",
          .ofString sampleSha, some true⟩ := by
      decide
    have passing : passingChecks (List.replicate 30 sampleCheck) (.ofString sampleSha) = true := by
      decide
    obtain ⟨data, mapped, shown⟩ := bind_ok pulled
    unfold prepareMerge
    dsimp only [sampleWorld, Reply.read, Bind.bind, Except.bind]
    rw [mapped]
    dsimp only
    rw [shown]
    dsimp only
    rw [listed]
    refine Eq.trans (if_neg fun other => other rfl) ?_
    exact Eq.trans (if_pos passing) rfl
  exact ⟨listed, sent, unseen, failing, fun accounted =>
    failing (accounted.merges _ sampleMerge rfl rfl sent _ unseen)⟩

end Sample

end SynapseOS.Git
