import SynapseOS.Lib.Offers
import SynapseOS.Security.Decision
import SynapseOS.Security.ScannerReports

/-! The evidence ids of a scanner report, and what a citation of one resolves to
(`core/security/scanners.py`, `core/security/decision.py`). -/

namespace SynapseOS.Security

open Execution Tools

section Property

/-- No two findings of a report share an evidence id, and a citation leads to its finding only. -/
structure Citable (report : SecurityScannerReport) : Prop where
  distinct : ((report.findings.flatMap fun finding => finding.evidence).map
    fun reference => reference.evidenceId).Nodup
  resolves : ∀ finding ∈ report.findings, ∀ reference ∈ finding.evidence,
    resolveReference report.findings reference.evidenceId = reference ∧
      ∀ other ∈ report.findings, reference ∈ other.evidence → other = finding

namespace Trivy

def placesFrom (target : PyValue) (index : Nat) (items : List PyValue) : List Nat :=
  ((items.zipIdx index).filter fun entry => itemUsable (extract target) entry.1).map Prod.snd

def places (lists : List (PyValue × List PyValue)) : List Nat :=
  lists.flatMap fun result => placesFrom result.1 0 result.2

/-- No two of the first 64 usable vulnerabilities lie so that the later one is as many places ahead
in its list as it comes after the other. -/
def Spread (payload : PyEntries) : Prop :=
  ∀ first second place other : Nat, first < second → second < 64 →
    (places ((results payload).filterMap vulnerabilities))[first]? = some place →
    (places ((results payload).filterMap vulnerabilities))[second]? = some other →
    place ≠ other + (second - first)

end Trivy

def Scanner.Spread (payload : PyEntries) : Scanner → Prop
  | .flat _ => True
  | .trivy => Trivy.Spread payload

end Property

section Ids

theorem numeral_map {number : Nat} {digits : List Nat}
    (same : numeral number = (digits.map (0x30 + ·)).reverse) : Nat.digits 10 number = digits := by
  have step : Function.Injective fun digit : Nat => 0x30 + digit := fun _ _ equal =>
    Nat.add_left_cancel equal
  exact List.map_injective_iff.mpr step (List.reverse_injective same)

theorem numeral_nonzero {number : Nat} (zero : numeral number = [0x30]) : number = 0 := by
  have digits : Nat.digits 10 number = [0] := numeral_map zero
  rw [← Nat.ofDigits_digits 10 number, digits]
  rfl

theorem findingId_injective : Function.Injective findingId := by
  intro first second same
  have equal : decimal first = decimal second := List.append_cancel_left same
  unfold decimal at equal
  split at equal <;> split at equal
  · next zero other => rw [zero, other]
  · next other => exact absurd (numeral_nonzero equal.symm) other
  · next other _ => exact absurd (numeral_nonzero equal) other
  · exact Nat.digits_inj_iff.mp (numeral_map equal)

variable {report : SecurityScannerReport} {suite : PyStr}

theorem references_of {findings : List SecurityFinding} {indices : List Nat}
    (given : findings.map (fun finding => finding.evidence) =
      indices.map fun index => [(⟨suite, findingId index⟩ : SecurityEvidenceReference)]) :
    findings.flatMap (fun finding => finding.evidence) = indices.map fun index =>
      ⟨suite, findingId index⟩ := by
  rw [List.flatMap_def, given]
  clear given
  induction indices with
  | nil => rfl
  | cons index rest ih => rw [List.map_cons, List.flatten_cons, ih, List.map_cons,
      List.singleton_append]

/-- A report is citable exactly when its indices are distinct. -/
theorem citable_iff {indices : List Nat}
    (given : report.findings.map (fun finding => finding.evidence) =
      indices.map fun index => [(⟨suite, findingId index⟩ : SecurityEvidenceReference)]) :
    Citable report ↔ indices.Nodup := by
  have references := references_of given
  have ids : (report.findings.flatMap fun finding => finding.evidence).map
      (fun reference => reference.evidenceId) = indices.map findingId := by
    rw [references, List.map_map]
    rfl
  constructor
  · intro citable
    have distinct := citable.distinct
    rw [ids] at distinct
    exact distinct.of_map
  · intro once
    have distinct : ((report.findings.flatMap fun finding => finding.evidence).map
        fun reference => reference.evidenceId).Nodup := ids ▸ once.map findingId_injective
    refine ⟨distinct, fun finding among reference cited => ⟨?_, fun other there shared => ?_⟩⟩
    · have held : reference ∈ report.findings.flatMap fun finding => finding.evidence :=
        List.mem_flatMap.mpr ⟨finding, among, cited⟩
      have sole : candidates report.findings reference.evidenceId = [reference] := by
        unfold candidates
        rw [Offers.filter_only distinct.of_map held (decide_eq_true rfl) fun other inside same =>
          List.inj_on_of_nodup_map distinct inside held (of_decide_eq_true same)]
        rfl
      unfold resolveReference knownReference
      rw [sole]
      rfl
    · have apart : (report.findings.map fun finding => finding.evidence).Nodup := by
        rw [given]
        refine once.map fun first second same => findingId_injective ?_
        exact congrArg SecurityEvidenceReference.evidenceId (List.singleton_inj.mp same)
      have single : ∀ item ∈ report.findings, reference ∈ item.evidence →
          item.evidence = [reference] := by
        intro item inside holds
        have listed : item.evidence ∈ report.findings.map fun finding => finding.evidence :=
          List.mem_map_of_mem inside
        rw [given] at listed
        obtain ⟨index, _, same⟩ := List.mem_map.mp listed
        rw [← same] at holds ⊢
        rw [List.mem_singleton.mp holds]
      refine List.inj_on_of_nodup_map apart there among ?_
      exact (single other there shared).trans (single finding among cited).symm

end Ids

section Flat

variable {letters : LetterCase} {suite : PyStr} {extract : PyValue → Option ScannerFields}
  {items : List PyValue} {made : List (Option SecurityFinding)}

theorem flat_indices (start : Nat)
    (pairs : List.Forall₂
      (fun entry found => itemFinding letters suite extract entry.2 entry.1 = .ok found)
      (items.zipIdx start) made) :
    ∃ indices : List Nat, indices.Sublist (List.range' start items.length) ∧
      made.reduceOption.map (fun finding => finding.evidence) =
        indices.map fun index => [(⟨suite, findingId index⟩ : SecurityEvidenceReference)] := by
  induction items generalizing start made with
  | nil =>
      cases pairs
      exact ⟨[], List.Sublist.refl _, rfl⟩
  | cons item rest ih =>
      rw [List.zipIdx_cons] at pairs
      cases pairs with
      | cons first others =>
          obtain ⟨indices, part, given⟩ := ih (start + 1) others
          rw [List.length_cons, List.range'_succ]
          rcases itemFinding_made first with ⟨_, rfl⟩ | ⟨_, finding, rfl, evidence⟩
          · exact ⟨indices, part.cons _, given⟩
          · refine ⟨start :: indices, part.cons_cons _, ?_⟩
            rw [List.reduceOption_cons_of_some, List.map_cons, List.map_cons, given, evidence]

theorem flat_citable (scanner : FlatScanner) {payload : PyEntries} {result : ScannerCommandResult}
    {report : SecurityScannerReport} (made : scanner.report letters payload result = .ok report) :
    Citable report := by
  unfold FlatScanner.report at made
  split at made
  · cases made
  · next raw read =>
      split at made
      · cases made
      · next findings found =>
          cases made
          unfold FlatScanner.findings at found
          obtain ⟨options, mapped, found⟩ := bind_ok found
          cases found
          obtain ⟨indices, part, given⟩ := flat_indices 0 (mapM_related mapped)
          have once : (indices.take 64).Nodup :=
            (part.nodup List.nodup_range').sublist (List.take_sublist _ _)
          have cut : (reportOf scanner.suite scanner.suite_valid options.reduceOption raw.length
              result).findings.map (fun finding => finding.evidence) = (indices.take 64).map
                fun index => [(⟨scanner.suite, findingId index⟩ : SecurityEvidenceReference)] := by
            rw [List.map_take, ← given, ← List.map_take]
            rfl
          exact (citable_iff cut).mpr once

end Flat

section Nested

open Trivy

variable {letters : LetterCase} {target : PyValue} {findings final : List SecurityFinding}
    {index : Nat}
  {items : List PyValue}

def sums (count : Nat) (places : List Nat) : List Nat := (places.zipIdx count).map fun entry =>
    entry.2 + entry.1

theorem sums_append (count : Nat) (first second : List Nat) :
    sums count (first ++ second) = sums count first ++ sums (count + first.length) second := by
  rw [sums, List.zipIdx_append, List.map_append]
  rfl

theorem sums_length (count : Nat) (places : List Nat) :
    (sums count places).length = places.length := by
  rw [sums, List.length_map, List.length_zipIdx]

theorem placesFrom_unusable {item : PyValue} (unusable : itemUsable (extract target) item = false) :
    placesFrom target index (item :: items) = placesFrom target (index + 1) items := by
  simp [placesFrom, unusable]

theorem placesFrom_usable {item : PyValue} (usable : itemUsable (extract target) item = true) :
    placesFrom target index (item :: items) = index :: placesFrom target (index + 1) items := by
  simp [placesFrom, usable]

theorem scanList_indices (low : findings.length < 64)
    (scanned : scanList letters target findings index items = .ok final) :
    ∃ added, final = findings ++ added ∧ added.map (fun finding => finding.evidence) =
      ((sums findings.length (placesFrom target index items)).take (64 - findings.length)).map
        fun index => [(⟨suite, findingId index⟩ : SecurityEvidenceReference)] := by
  induction items generalizing findings index with
  | nil =>
      cases scanned
      exact ⟨[], (List.append_nil _).symm, by simp [placesFrom, sums]⟩
  | cons item rest ih =>
      rcases scanList_cases scanned with ⟨none_, later⟩ | ⟨_, unusable, ending⟩ |
        ⟨_, usable, finding, _, evidence, ending⟩
      · have unusable : itemUsable (extract target) item = false := by
          simp [itemUsable, extract, none_]
        rw [placesFrom_unusable unusable]
        exact ih low later
      · rw [placesFrom_unusable unusable]
        rcases ending with ⟨full, _⟩ | ⟨_, later⟩
        · omega
        · exact ih low later
      · have first : sums findings.length (placesFrom target index (item :: rest)) =
            (findings.length + index) :: sums (findings.length + 1)
            (placesFrom target (index + 1) rest) := by
          rw [placesFrom_usable usable]
          rfl
        rw [first, show 64 - findings.length = (63 - findings.length) + 1 by omega,
          List.take_succ_cons, List.map_cons]
        rcases ending with ⟨full, rfl⟩ | ⟨more, later⟩
        · refine ⟨[finding], rfl, ?_⟩
          rw [show 63 - findings.length = 0 by omega, List.take_zero, List.map_nil,
            List.map_singleton, evidence]
        · obtain ⟨added, rfl, given⟩ :=
            ih (by rw [List.length_append, List.length_singleton]; omega) later
          refine ⟨finding :: added, by simp, ?_⟩
          rw [List.length_append, List.length_singleton,
            show 64 - (findings.length + 1) = 63 - findings.length by omega] at given
          rw [List.map_cons, evidence, given]

theorem scanList_adds (scanned : scanList letters target findings index items = .ok final) :
    ∃ added, final = findings ++ added := by
  induction items generalizing findings index with
  | nil =>
      cases scanned
      exact ⟨[], (List.append_nil _).symm⟩
  | cons item rest ih =>
      rcases scanList_cases scanned with ⟨_, later⟩ | ⟨_, _, ⟨_, rfl⟩ | ⟨_, later⟩⟩ |
        ⟨_, _, finding, _, _, ⟨_, rfl⟩ | ⟨_, later⟩⟩
      · exact ih later
      · exact ⟨[], (List.append_nil _).symm⟩
      · exact ih later
      · exact ⟨[finding], rfl⟩
      · obtain ⟨added, rfl⟩ := ih later
        exact ⟨finding :: added, by simp⟩

theorem scanAll_adds {lists : List (PyValue × List PyValue)}
    (scanned : scanAll letters findings lists = .ok final) : ∃ added, final =
      findings ++ added := by
  induction lists generalizing findings with
  | nil =>
      cases scanned
      exact ⟨[], (List.append_nil _).symm⟩
  | cons result lists ih =>
      obtain ⟨middle, first, later⟩ := scanAll_cons scanned
      obtain ⟨added, rfl⟩ := scanList_adds first
      obtain ⟨others, rfl⟩ := ih later
      exact ⟨added ++ others, List.append_assoc _ _ _⟩

/-- The first 64 findings have the indices of the first 64 places. -/
theorem scanAll_indices {lists : List (PyValue × List PyValue)} (low : findings.length < 64)
    (scanned : scanAll letters findings lists = .ok final) :
    ∃ added, final = findings ++ added ∧
      (added.take (64 - findings.length)).map (fun finding => finding.evidence) =
        ((sums findings.length (places lists)).take (64 - findings.length)).map
          fun index => [(⟨suite, findingId index⟩ : SecurityEvidenceReference)] := by
  induction lists generalizing findings with
  | nil =>
      cases scanned
      exact ⟨[], (List.append_nil _).symm, by simp [places, sums]⟩
  | cons result lists ih =>
      obtain ⟨middle, first, later⟩ := scanAll_cons scanned
      obtain ⟨added, rfl, given⟩ := scanList_indices low first
      have size := congrArg List.length given
      rw [List.length_map, List.length_map, List.length_take, sums_length] at size
      have split : places (result :: lists) = placesFrom result.1 0 result.2 ++ places lists :=
        List.flatMap_cons
      rw [split, sums_append, List.take_append, sums_length, List.map_append, ← given]
      rcases Nat.lt_or_ge (findings.length + (placesFrom result.1 0 result.2).length) 64
        with room | full
      · -- all of the list is added, and the next one starts below the limit
        have all : added.length = (placesFrom result.1 0 result.2).length := by omega
        obtain ⟨others, rfl, more⟩ := ih (by rw [List.length_append]; omega) later
        rw [List.length_append, all, ← Nat.sub_sub] at more
        refine ⟨added ++ others, List.append_assoc _ _ _, ?_⟩
        rw [List.take_append, List.take_of_length_le (by omega), all, List.map_append, more]
      · obtain ⟨others, rfl⟩ := scanAll_adds later
        refine ⟨added ++ others, List.append_assoc _ _ _, ?_⟩
        rw [List.take_append_of_le_length (by omega), List.take_of_length_le (by omega),
          show 64 - findings.length - (placesFrom result.1 0 result.2).length = 0 by
            omega, List.take_zero,
          List.map_nil, List.append_nil]

theorem sums_nodup (placed : List Nat) : ((sums 0 placed).take 64).Nodup ↔
    ∀ first second place other : Nat, first < second → second < 64 → placed[first]? = some place →
      placed[second]? = some other → place ≠ other + (second - first) := by
  have item : ∀ position, position < 64 →
      ((sums 0 placed).take 64)[position]? = placed[position]?.map fun place =>
        position + place := by
    intro position below
    rw [List.getElem?_take_of_lt below, sums, List.getElem?_map, List.getElem?_zipIdx]
    cases placed[position]? <;> simp
  rw [List.nodup_iff_getElem?_ne_getElem?]
  constructor
  · intro apart first second place other before below here there same
    have short : second < placed.length := (List.getElem?_eq_some_iff.mp there).1
    refine apart first second before (by rw [List.length_take, sums_length]; omega) ?_
    rw [item first (by omega), item second below, here, there]
    simp only [Option.map_some, Option.some.injEq]
    omega
  · intro spread first second before short same
    rw [List.length_take, sums_length] at short
    rw [item first (by omega), item second (by omega), List.getElem?_eq_getElem (by omega),
      List.getElem?_eq_getElem (by omega)] at same
    simp only [Option.map_some, Option.some.injEq] at same
    refine spread first second _ _ before (by omega) (List.getElem?_eq_getElem (by omega))
      (List.getElem?_eq_getElem (by omega)) ?_
    omega

theorem trivy_citable {payload : PyEntries} {result : ScannerCommandResult}
    {report : SecurityScannerReport}
    (made : Trivy.report letters payload result = .ok report) : Citable report ↔
    Trivy.Spread payload := by
  unfold Trivy.report at made
  split at made
  · cases made
  · next found scanned =>
      cases made
      change scanAll letters [] ((results payload).filterMap vulnerabilities) = .ok found at scanned
      obtain ⟨added, rfl, given⟩ := scanAll_indices (by decide) scanned
      exact (citable_iff given).trans (sums_nodup _)

end Nested

/-- The findings of a report are citable exactly when the places of vulnerabilities are spread. -/
theorem report_citable {letters : LetterCase} {loads : PyStr → Except PyExn PyValue}
    {scanner : Scanner} {result : ScannerCommandResult} {report : SecurityScannerReport}
    (scanned : scanner.scan letters loads result = .ok report) : ∃ payload,
      document loads result = .ok payload ∧ (Citable report ↔ scanner.Spread payload) := by
  obtain ⟨payload, read, made⟩ := bind_ok scanned
  refine ⟨payload, read, ?_⟩
  cases scanner with
  | flat scanner => exact iff_of_true (flat_citable scanner made) trivial
  | trivy => exact trivy_citable made

section Sample

def sampleVulnerability (id : String) : PyValue :=
  .dict [entry "VulnerabilityID" (.string (.ofString id)),
  entry "PkgName" (.string (.ofString "p"))]

def sampleTarget (vulnerabilities : List PyValue) : PyValue :=
  .dict [entry "Target" (.string (.ofString "a")), entry "Vulnerabilities" (.list vulnerabilities)]

def sampleResults : PyEntries := [entry "Results" (.list [
  sampleTarget [sampleVulnerability "c1", sampleVulnerability "c2"],
  sampleTarget [sampleVulnerability "c3"]])]

def citations (report : SecurityScannerReport) : List (PyStr × List PyStr) :=
  report.findings.map fun finding =>
    (finding.category, finding.evidence.map fun reference => reference.evidenceId)

theorem citations_ids (report : SecurityScannerReport) :
    (report.findings.flatMap fun finding => finding.evidence).map
      (fun reference => reference.evidenceId) = (citations report).flatMap Prod.snd := by
  rw [citations, List.map_flatMap, List.flatMap_map]

def sampleText : PyStr :=
  .ofString "\x7b\"Results\":[\x7b\"Target\":\"a\",\"Vulnerabilities\":[" ++
    .ofString "\x7b\"VulnerabilityID\":\"c1\",\"PkgName\":\"p\"\x7d," ++
    .ofString "\x7b\"VulnerabilityID\":\"c2\",\"PkgName\":\"p\"\x7d]\x7d," ++
    .ofString "\x7b\"Target\":\"a\",\"Vulnerabilities\":[" ++
    .ofString "\x7b\"VulnerabilityID\":\"c3\",\"PkgName\":\"p\"\x7d]\x7d]\x7d"

def sampleTrivy : ScannerCommandResult where
  stdout := sampleText
  durationMs := 1
  truncated := false
  stdout_bounded := by
    unfold sampleText
    repeat rw [PyStr.ofString_ofList]
    decide +kernel
  duration_valid := one_millisecond

def sampleLoads : PyStr → Except PyExn PyValue := fun _ => .ok (.dict sampleResults)

theorem sample_results :
    (Scanner.trivy.scan ⟨id, id⟩ sampleLoads sampleTrivy).toOption.map citations =
      some [(.ofString "c1", [findingId 0]), (.ofString "c2", [findingId 2]),
        (.ofString "c3", [findingId 2])] := by
  decide

theorem sample_report : ∃ report, Scanner.trivy.scan ⟨id, id⟩ sampleLoads sampleTrivy = .ok report ∧
    citations report =
      [(.ofString "c1", [findingId 0]), (.ofString "c2", [findingId 2]),
        (.ofString "c3", [findingId 2])] := by
  have shown := sample_results
  cases scanned : Scanner.trivy.scan ⟨id, id⟩ sampleLoads sampleTrivy with
  | error error =>
      rw [scanned] at shown
      cases shown
  | ok report =>
      rw [scanned] at shown
      exact ⟨report, rfl, Option.some.inj shown⟩

theorem report_citable_sample : ∃ report payload,
    document sampleLoads sampleTrivy = .ok payload ∧
    (Citable report ↔ Scanner.trivy.Spread payload) := by
  obtain ⟨report, scanned, _⟩ := sample_report
  exact ⟨report, report_citable scanned⟩

/-- The last two findings share an id. -/
theorem vulnerabilities_collide : ∃ report,
    Scanner.trivy.scan ⟨id, id⟩ sampleLoads sampleTrivy = .ok report ∧
      citations report =
        [(.ofString "c1", [findingId 0]), (.ofString "c2", [findingId 2]),
          (.ofString "c3", [findingId 2])] ∧
      ¬ Citable report := by
  obtain ⟨report, scanned, cited⟩ := sample_report
  refine ⟨report, scanned, cited, fun citable => ?_⟩
  have distinct := citable.distinct
  rw [citations_ids, cited] at distinct
  exact absurd distinct (by decide)

end Sample

end SynapseOS.Security
