import SynapseOS.Security.Sanitized
import SynapseOS.Security.ScannerReports

/-! What one item of a scanner output costs (`core/security/scanners.py`). -/

namespace SynapseOS.Security

open Execution Tools

section Fields

structure Fits (letters : LetterCase) (index : Nat) (fields : ScannerFields) : Prop where
  line : isBoolean fields.line = false
  /-- A path is short, starts with no drive and is Unicode. -/
  path : ∀ path, asText fields.path = some path →
    path.length ≤ 1024 ∧ (path.drop 1).head? ≠ some 0x3A ∧ path.any surrogate = false
  category : ∀ category, asText fields.category = some category →
    identifierText true ((letters.lower (strip category)).take 128) = true
  explanation : ∀ explanation, asText fields.explanation = some explanation →
    ((strip explanation).take 4096).any surrogate = false
  index : index < 10 ^ 120

variable {letters : LetterCase} {suite : PyStr} {index : Nat} {fields : ScannerFields}

theorem strip_take {text : PyStr} (left : strip text ≠ []) (size : Nat) :
    strip ((strip text).take (size + 1)) ≠ [] := by
  have front : strip text <+: text.dropWhile space := List.rdropWhile_prefix _ _
  cases kept : strip text with
  | nil => exact absurd kept left
  | cons head rest =>
      rw [kept] at front
      obtain ⟨more, same⟩ := front
      have solid := List.head?_dropWhile_not space text
      rw [← same] at solid
      rw [List.take_succ_cons]
      intro blank
      have hidden := (strip_blank _).mp blank head List.mem_cons_self
      rw [show space head = false from solid] at hidden
      cases hidden

theorem findingId_valid : identifierText true (findingId index) = true ↔ index < 10 ^ 120 := by
  have front : PyStr.ofString "finding-" = 0x66 :: PyStr.ofString "inding-" := by decide
  have tail : (PyStr.ofString "inding-").all identifierPoint = true := by decide
  have points : (decimal index).all identifierPoint = true := by
    unfold decimal
    split
    · decide
    · exact List.all_eq_true.mpr fun point among => digit_identifier (numeral_points among)
  have size : (decimal index).length ≤ 120 ↔ index < 10 ^ 120 := by
    unfold decimal
    split
    · next zero => exact iff_of_true (by decide) (zero ▸ by norm_num)
    · unfold numeral
      rw [List.length_reverse, List.length_map, Nat.digits_length_le_iff (by decide)]
  unfold findingId
  rw [front, List.cons_append, identifierText, List.all_append, tail, points, ← size,
    List.length_append, show (PyStr.ofString "inding-").length = 7 from by decide]
  simp [lowerLetter]
  omega

theorem scannerPath_relative {path : PyStr} (normal : scannerPath path = true) :
    relativePath path = true ↔ path.length ≤ 1024 ∧ (path.drop 1).head? ≠ some 0x3A := by
  unfold scannerPath at normal
  unfold relativePath
  simp only [Bool.and_eq_true, decide_eq_true_eq] at normal ⊢
  obtain ⟨⟨⟨⟨some_, slashes⟩, leading⟩, parents⟩, parts⟩ := normal
  have drive : (path.drop 1).head?.all (· ≠ 0x3A) = true ↔ (path.drop 1).head? ≠ some 0x3A := by
    cases (path.drop 1).head? <;> simp
  have least := List.length_pos_iff.mpr some_
  constructor
  · rintro ⟨⟨⟨⟨⟨⟨_, short⟩, _⟩, apart⟩, _⟩, _⟩, _⟩
    exact ⟨short, drive.mp apart⟩
  · rintro ⟨short, apart⟩
    exact ⟨⟨⟨⟨⟨⟨by omega, short⟩, slashes⟩, drive.mpr apart⟩, leading⟩, parents⟩, parts⟩

theorem lineOf_number {value : PyValue} {line : Nat} (known : lineOf value = some (some line)) :
    1 ≤ line ∧ line ≤ 1000000 := by
  unfold lineOf at known
  split at known
  · cases known
  · split at known
    · next bounds =>
        cases known
        omega
    · cases known
  · cases known
    omega
  · cases known

theorem location_check {path : PyStr} {value : PyValue} {line : Option Nat}
    (known : lineOf value = some line) :
    (SecurityLocation.mk (some path) line line).check = relativePath path := by
  unfold SecurityLocation.check
  cases line with
  | none => simp
  | some number =>
      obtain ⟨least, most⟩ := lineOf_number known
      have numbered : lineNumber number = true := decide_eq_true ⟨least, most⟩
      simp [numbered]

theorem findingOf_fits (suite_valid : identifierText true suite = true)
    (usable : fields.usable = true) :
    (∃ finding, findingOf letters suite index fields = .ok (some finding)) ↔
    Fits letters index fields := by
  unfold ScannerFields.usable nonblank at usable
  simp only [Bool.and_eq_true, Option.any_eq_true, decide_eq_true_eq] at usable
  obtain ⟨⟨⟨⟨⟨category, named, solid⟩, path, placed, spoken⟩, explanation, explained, told⟩,
    ranged⟩, other, again, normal⟩ := usable
  rw [placed] at again
  cases again
  obtain ⟨line, lined⟩ := Option.isSome_iff_exists.mp ranged
  have made : findingOf letters suite index fields = validateScannerFinding fields.line
      (scannerFindingFor letters suite index category path explanation line fields.severity) := by
    unfold findingOf
    rw [named, placed, explained]
    dsimp only
    rw [if_neg (by simp [solid, spoken, told]), lined]
    dsimp only
    rw [if_pos normal]
  have bounded : boundedText 4096 ((strip explanation).take 4096) = true := by
    refine decide_eq_true ⟨?_, List.length_take_le _ _, strip_take told _⟩
    rw [List.length_take]
    have some_ := List.length_pos_iff.mpr told
    omega
  have fixed : boundedText 4096 (.ofString "Review and remediate the reported security finding.") =
      true := by decide
  have check :
    (scannerFindingFor letters suite index category path explanation line fields.severity).check =
      true ↔
      relativePath path = true ∧ identifierText true ((letters.lower (strip category)).take 128) =
        true ∧
        identifierText true (findingId index) = true := by
    unfold FindingFields.check
    simp only [scannerFindingFor, location_check lined, bounded, fixed,
      SecurityEvidenceReference.check, suite_valid,
      Bool.and_true, Bool.true_and, Bool.and_eq_true, List.all_cons, List.all_nil,
      List.length_singleton, List.nodup_singleton, decide_eq_true_eq]
    have sizes : 1 ≤ 1 ∧ 1 ≤ 8 ∧ True := by decide
    tauto
  rw [made]
  unfold validateScannerFinding
  constructor
  · rintro ⟨finding, passes⟩
    split at passes
    · cases passes
    · next unicode =>
        have valid :
          (scannerFindingFor letters suite index category path explanation line
            fields.severity).check = true := by
          unfold FindingFields.validate at passes
          split at passes
          · assumption
          · cases passes
        obtain ⟨relative, identified, numbered⟩ := check.mp valid
        have text : (isBoolean fields.line = false ∧ path.any surrogate = false) ∧
            ((strip explanation).take 4096).any surrogate = false := by
          rw [Bool.not_eq_true, Bool.or_eq_false_iff, Bool.or_eq_false_iff] at unicode
          exact unicode
        obtain ⟨short, apart⟩ := (scannerPath_relative normal).mp relative
        refine ⟨text.1.1, ?_, ?_, ?_, findingId_valid.mp numbered⟩
        · intro own same
          rw [placed] at same
          cases same
          exact ⟨short, apart, text.1.2⟩
        · intro own same
          rw [named] at same
          cases same
          exact identified
        · intro own same
          rw [explained] at same
          cases same
          exact text.2
  · intro fits
    obtain ⟨short, apart, unicode⟩ := fits.path path placed
    have valid := check.mpr ⟨(scannerPath_relative normal).mpr ⟨short, apart⟩,
      fits.category category named, findingId_valid.mpr fits.index⟩
    have clean :
      (isBoolean fields.line || path.any surrogate ||
        ((strip explanation).take 4096).any surrogate) =
        false := by
      rw [fits.line, unicode, fits.explanation explanation explained]
      rfl
    rw [if_neg (by rw [Bool.not_eq_true]; exact clean)]
    unfold FindingFields.validate
    rw [dif_pos valid]
    exact ⟨_, rfl⟩

end Fields

section Isolation

variable (letters : LetterCase)

def ownFinding (suite : PyStr) (extract : PyValue → Option ScannerFields) (index : Nat)
    (item : PyValue) : Option SecurityFinding :=
  (itemFinding letters suite extract index item).toOption.join

def FlatScanner.kept (scanner : FlatScanner) (raw : List PyValue) : List SecurityFinding :=
  ((raw.take 64).zipIdx.map fun entry =>
    ownFinding letters scanner.suite scanner.extract entry.2 entry.1).reduceOption

namespace Trivy

def keptList (target : PyValue) : List SecurityFinding → Nat → List PyValue → List SecurityFinding
  | findings, _, [] => findings
  | findings, index, item :: rest =>
      match asDict item with
      | none => keptList target findings (index + 1) rest
      | some _ =>
          let findings := findings ++
            (ownFinding letters suite (extract target) (findings.length + index) item).toList
          if findings.length = 64 then findings else keptList target findings (index + 1) rest

def kept (lists : List (PyValue × List PyValue)) : List SecurityFinding :=
  lists.foldl (fun findings result => keptList letters result.1 findings 0 result.2) []

end Trivy

/-- The report in which an item costs at most its own finding. -/
def Scanner.isolatedReport (payload : PyEntries) (result : ScannerCommandResult) :
    Scanner → Except ScannerError SecurityScannerReport
  | .flat scanner =>
      match scanner.raw payload with
      | none => .error .output
      | some raw =>
          .ok (reportOf scanner.suite scanner.suite_valid
            (scanner.kept letters raw) raw.length result)
  | .trivy =>
      let findings := Trivy.kept letters ((Trivy.results payload).filterMap Trivy.vulnerabilities)
      .ok (reportOf Trivy.suite Trivy.suite_identifier findings findings.length result)

/-- The scan that raises nothing but `ScannerOutputError`, and in which an item costs at most its
own finding. -/
def Scanner.isolatedScan (loads : PyStr → Except PyExn PyValue) (scanner : Scanner)
    (result : ScannerCommandResult) : Except ScannerError SecurityScannerReport :=
  match loads result.stdout with
  | .ok (.dict payload) => scanner.isolatedReport letters payload result
  | _ => .error .output

end Isolation

section Examined

def FlatScanner.examined (scanner : FlatScanner) (payload : PyEntries) : List (Nat × RawItem) :=
  (((scanner.raw payload).getD []).take 64).zipIdx.map fun entry =>
    (entry.2, scanner.extract, entry.1)

namespace Trivy

def examinedList (target : PyValue) : Nat → Nat → List PyValue → List (Nat × RawItem)
  | _, _, [] => []
  | count, index, item :: rest =>
      match asDict item with
      | none => examinedList target count (index + 1) rest
      | some _ =>
          let next := count + (itemUsable (extract target) item).toNat
          (count + index, extract target, item) ::
            if next = 64 then [] else examinedList target next (index + 1) rest

def examined : Nat → List (PyValue × List PyValue) → List (Nat × RawItem)
  | _, [] => []
  | count, result :: rest =>
      examinedList result.1 count 0 result.2 ++ examined (countAfter count (marks result)) rest

end Trivy

def Scanner.examined (payload : PyEntries) : Scanner → List (Nat × RawItem)
  | .flat scanner => scanner.examined payload
  | .trivy => Trivy.examined 0 ((Trivy.results payload).filterMap Trivy.vulnerabilities)

def ItemFits (letters : LetterCase) (entry : Nat × RawItem) : Prop :=
  ∀ fields, entry.2.1 entry.2.2 = some fields → fields.usable = true → Fits letters entry.1 fields

/-- `json.loads` reads the text, or raises what a scan expects of it. -/
def Readable (loads : PyStr → Except PyExn PyValue) (text : PyStr) : Prop :=
  ∀ exception, loads text = .error exception → exception = .typeError ∨ exception = .valueError

/-- The output is readable, and all items that are examined fit. -/
def Scanner.Fitting (letters : LetterCase) (loads : PyStr → Except PyExn PyValue)
    (scanner : Scanner) (result : ScannerCommandResult) : Prop :=
  Readable loads result.stdout ∧ ∀ payload, loads result.stdout = .ok (.dict payload) →
    ∀ entry ∈ scanner.examined payload, ItemFits letters entry

end Examined

section Items

variable {letters : LetterCase} {suite : PyStr} {index : Nat}
    {extract : PyValue → Option ScannerFields}
  {item : PyValue}

/-- An item that fits makes its own finding, or none. -/
theorem itemFinding_fits (suite_valid : identifierText true suite = true)
    (fits : ItemFits letters (index, extract, item)) :
    itemFinding letters suite extract index item =
      .ok (ownFinding letters suite extract index item) := by
  have passes : ∃ made, itemFinding letters suite extract index item = .ok made := by
    cases usable : itemUsable extract item with
    | false => exact ⟨none, itemFinding_unusable usable⟩
    | true =>
        obtain ⟨fields, extracted, usable⟩ := (Option.any_eq_true _ _).mp usable
        obtain ⟨finding, found⟩ :=
          (findingOf_fits suite_valid usable).mpr (fits fields extracted usable)
        refine ⟨some finding, ?_⟩
        unfold itemFinding
        rw [extracted]
        exact found
  obtain ⟨made, found⟩ := passes
  unfold ownFinding
  rw [found]
  rfl

theorem itemFinding_unfit (suite_valid : identifierText true suite = true)
    (unfit : ¬ ItemFits letters (index, extract, item)) :
    ∃ error, itemFinding letters suite extract index item = .error error := by
  cases found : itemFinding letters suite extract index item with
  | error error => exact ⟨error, rfl⟩
  | ok made =>
      refine absurd (fun fields extracted usable => ?_) unfit
      apply (findingOf_fits suite_valid usable).mp
      have used : itemUsable extract item = true :=
        (Option.any_eq_true _ _).mpr ⟨fields, extracted, usable⟩
      rcases itemFinding_made found with ⟨unusable, _⟩ | ⟨_, finding, rfl, _⟩
      · rw [used] at unusable
        cases unusable
      · unfold itemFinding at found
        rw [show extract item = some fields from extracted] at found
        exact ⟨finding, found⟩

end Items

section Lists

open Trivy

variable {letters : LetterCase} {target : PyValue} {findings : List SecurityFinding} {index : Nat}
  {items : List PyValue}

theorem flat_fits (scanner : FlatScanner) {payload : PyEntries} {raw : List PyValue}
    (read : scanner.raw payload = some raw)
    (fits : ∀ entry ∈ scanner.examined payload, ItemFits letters entry) :
    scanner.findings letters raw = .ok (scanner.kept letters raw) := by
  unfold FlatScanner.examined at fits
  rw [read, Option.getD_some] at fits
  unfold FlatScanner.findings
  rw [mapM_values fun entry among => itemFinding_fits scanner.suite_valid
    (fits _ (List.mem_map_of_mem among))]
  rfl

theorem flat_unfit (scanner : FlatScanner) {payload : PyEntries} {raw : List PyValue}
    (read : scanner.raw payload = some raw) {entry : Nat × RawItem}
    (among : entry ∈ scanner.examined payload)
    (unfit : ¬ ItemFits letters entry) : ∃ error, scanner.findings letters raw = .error error := by
  unfold FlatScanner.examined at among
  rw [read, Option.getD_some] at among
  obtain ⟨place, there, rfl⟩ := List.mem_map.mp among
  obtain ⟨refused, made⟩ := itemFinding_unfit scanner.suite_valid unfit
  have raised : ∃ error, (raw.take 64).zipIdx.mapM (fun entry =>
      itemFinding letters scanner.suite scanner.extract entry.2 entry.1) = .error error :=
        mapM_raises there made
  obtain ⟨error, raised⟩ := raised
  unfold FlatScanner.findings
  rw [raised]
  exact ⟨error, rfl⟩

theorem own_count {extract : PyValue → Option ScannerFields} {item : PyValue}
    (fits : ItemFits letters (findings.length + index, extract, item)) :
    (findings ++ (ownFinding letters suite extract (findings.length + index) item).toList).length =
      findings.length + (itemUsable extract item).toNat := by
  have found :
      itemFinding letters suite extract (findings.length + index) item =
        .ok (ownFinding letters suite extract (findings.length + index) item) :=
    itemFinding_fits (by decide) fits
  rw [List.length_append]
  rcases itemFinding_made found with ⟨unusable, none_⟩ | ⟨usable, finding, some_, _⟩
  · rw [none_, unusable]
    rfl
  · rw [some_, usable]
    rfl

theorem scanList_fits (fits : ∀ entry ∈ examinedList target findings.length index items,
    ItemFits letters entry) :
    scanList letters target findings index items =
      .ok (keptList letters target findings index items) := by
  induction items generalizing findings index with
  | nil => rfl
  | cons item rest ih =>
      rw [examinedList] at fits
      rw [scanList, keptList]
      cases object : asDict item with
      | none =>
          rw [object] at fits
          exact ih fits
      | some entries =>
          rw [object] at fits
          have own := fits _ List.mem_cons_self
          have counted := own_count own
          rw [itemFinding_fits (by decide) own]
          dsimp only
          split
          · rfl
          · next more =>
              apply ih
              intro entry among
              rw [counted] at among more
              apply fits entry (List.mem_cons_of_mem _ _)
              rwa [if_neg more]

theorem scanList_unfit {entry : Nat × RawItem}
    (among : entry ∈ examinedList target findings.length index items)
    (unfit : ¬ ItemFits letters entry) : ∃ error, scanList letters target findings index items =
      .error error := by
  induction items generalizing findings index with
  | nil => cases among
  | cons item rest ih =>
      rw [examinedList] at among
      rw [scanList]
      cases object : asDict item with
      | none =>
          rw [object] at among
          exact ih among
      | some entries =>
          rw [object] at among
          by_cases own : ItemFits letters (findings.length + index, extract target, item)
          · have counted := own_count own
            rw [itemFinding_fits (by decide) own]
            dsimp only
            rw [counted]
            rcases List.mem_cons.mp among with rfl | later
            · exact absurd own unfit
            · split at later
              · cases later
              · next more =>
                  rw [if_neg more]
                  apply ih
                  rwa [counted]
          · have raised :
                ∃ error, itemFinding letters suite (extract target) (findings.length + index) item =
                  .error error :=
              itemFinding_unfit (by decide) own
            obtain ⟨error, raised⟩ := raised
            rw [raised]
            exact ⟨error, rfl⟩

theorem scanAll_fits {lists : List (PyValue × List PyValue)}
    (fits : ∀ entry ∈ examined findings.length lists, ItemFits letters entry) :
    scanAll letters findings lists =
      .ok (lists.foldl (fun findings result => keptList letters result.1 findings 0 result.2)
        findings) := by
  induction lists generalizing findings with
  | nil => rfl
  | cons result lists ih =>
      rw [examined] at fits
      have first := scanList_fits fun entry among => fits entry (List.mem_append_left _ among)
      have counted := scanList_count first
      unfold scanAll at ih ⊢
      rw [List.foldlM_cons, first, List.foldl_cons]
      apply ih
      rw [counted]
      exact fun entry among => fits entry (List.mem_append_right _ among)

theorem scanAll_unfit {lists : List (PyValue × List PyValue)} {entry : Nat × RawItem}
    (among : entry ∈ examined findings.length lists) (unfit : ¬ ItemFits letters entry) :
    ∃ error, scanAll letters findings lists = .error error := by
  induction lists generalizing findings with
  | nil => cases among
  | cons result lists ih =>
      rw [examined] at among
      unfold scanAll at ih ⊢
      rw [List.foldlM_cons]
      cases first : scanList letters result.1 findings 0 result.2 with
      | error error => exact ⟨error, rfl⟩
      | ok middle =>
          have counted := scanList_count first
          rcases List.mem_append.mp among with own | later
          · obtain ⟨error, raised⟩ := scanList_unfit own unfit
            rw [first] at raised
            cases raised
          · exact ih (counted ▸ later)

end Lists

section Scans

variable {letters : LetterCase} {payload : PyEntries} {result : ScannerCommandResult}

theorem report_fits (scanner : Scanner)
    (fits : ∀ entry ∈ scanner.examined payload, ItemFits letters entry) :
    scanner.report letters payload result = scanner.isolatedReport letters payload result := by
  cases scanner with
  | flat scanner =>
      unfold Scanner.report FlatScanner.report Scanner.isolatedReport
      dsimp only
      cases read : scanner.raw payload with
      | none => rfl
      | some raw =>
          dsimp only
          rw [flat_fits scanner read fits]
  | trivy =>
      have scanned : Trivy.findings letters (Trivy.results payload) =
          .ok (Trivy.kept letters ((Trivy.results payload).filterMap Trivy.vulnerabilities)) :=
            scanAll_fits fits
      unfold Scanner.report Trivy.report Scanner.isolatedReport
      rw [scanned]

/-- An item that does not fit costs the whole report. -/
theorem report_unfit (scanner : Scanner) {entry : Nat × RawItem}
    (among : entry ∈ scanner.examined payload) (unfit : ¬ ItemFits letters entry) :
    ∃ error, scanner.report letters payload result = .error (.invalid error) := by
  cases scanner with
  | flat scanner =>
      unfold Scanner.report FlatScanner.report
      dsimp only
      cases read : scanner.raw payload with
      | none =>
          unfold Scanner.examined FlatScanner.examined at among
          dsimp only at among
          rw [read] at among
          cases among
      | some raw =>
          obtain ⟨error, raised⟩ := flat_unfit scanner read among unfit
          dsimp only
          rw [raised]
          exact ⟨error, rfl⟩
  | trivy =>
      have scanned : ∃ error, Trivy.findings letters (Trivy.results payload) = .error error :=
        scanAll_unfit among unfit
      obtain ⟨error, raised⟩ := scanned
      unfold Scanner.report Trivy.report
      rw [raised]
      exact ⟨error, rfl⟩

theorem isolatedReport_raises {scanner : Scanner} {error : ScannerError}
    (raised : scanner.isolatedReport letters payload result = .error error) : error = .output := by
  unfold Scanner.isolatedReport at raised
  split at raised
  · split at raised
    · cases raised
      rfl
    · cases raised
  · cases raised

/-- A scan raises nothing but `ScannerOutputError`, and an item costs at most its own finding,
exactly when the output is readable and all items that are examined fit the model. -/
theorem scan_isolated (letters : LetterCase) (loads : PyStr → Except PyExn PyValue)
    (scanner : Scanner) (result : ScannerCommandResult) :
    scanner.scan letters loads result = scanner.isolatedScan letters loads result ↔
      scanner.Fitting letters loads result := by
  unfold Scanner.scan document Scanner.isolatedScan Scanner.Fitting Readable
  cases read : loads result.stdout with
  | error exception =>
      cases exception <;> simp [bind, Except.bind]
  | ok value =>
      cases value with
      | dict payload =>
          constructor
          · intro same
            refine ⟨fun exception raised => ?_, fun own found entry among => ?_⟩
            · cases raised
            cases found
            by_contra unfit
            have reports :
              scanner.report letters payload result = scanner.isolatedReport letters payload
                result := same
            obtain ⟨error, raised⟩ := report_unfit scanner among unfit
            rw [reports] at raised
            cases isolatedReport_raises raised
          · rintro ⟨_, fits⟩
            exact report_fits scanner (fits payload rfl)
      | _ => simp [bind, Except.bind]

end Scans

section Sample

def sampleLeak (rule file : String) : PyValue := .dict [entry "RuleID" (.string (.ofString rule)),
  entry "File" (.string (.ofString file)), entry "StartLine" (.integer 1),
  entry "Description" (.string (.ofString "d"))]

def sampleLeaks : PyEntries :=
  [entry "findings" (.list [sampleLeak "first" "c:x", sampleLeak "second" "a"])]

def sampleLeakText : PyStr :=
  .ofString "\x7b\"findings\":[" ++
    .ofString
      "\x7b\"RuleID\":\"first\",\"File\":\"c:x\",\"StartLine\":1,\"Description\":\"d\"\x7d," ++
    .ofString
      "\x7b\"RuleID\":\"second\",\"File\":\"a\",\"StartLine\":1,\"Description\":\"d\"\x7d]\x7d"

def sampleSecrets : ScannerCommandResult where
  stdout := sampleLeakText
  durationMs := 1
  truncated := false
  stdout_bounded := by
    unfold sampleLeakText
    repeat rw [PyStr.ofString_ofList]
    decide +kernel
  duration_valid := one_millisecond

/-- One file name costs the finding of the other file, too. -/
theorem leak_lost :
    (∃ error, (Scanner.flat secretScanner).scan ⟨id, id⟩ (fun _ => .ok (.dict sampleLeaks))
      sampleSecrets =
        .error (.invalid error)) ∧
      ∃ report, (Scanner.flat secretScanner).isolatedScan ⟨id, id⟩
        (fun _ => .ok (.dict sampleLeaks)) sampleSecrets =
          .ok report ∧ report.findings.map (fun finding => finding.path) = [some (.ofString "a")] :=
  ⟨⟨_, rfl⟩, _, rfl, by decide⟩

end Sample

end SynapseOS.Security
