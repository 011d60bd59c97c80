import Mathlib.Data.List.ReduceOption
import SynapseOS.Security.PrivateKey
import SynapseOS.Security.Scanners

/-! What a report of the scanners leaves out, and whether it says so. -/

namespace SynapseOS.Security

open Execution Tools

abbrev RawItem := (PyValue → Option ScannerFields) × PyValue

section Findings

variable {letters : LetterCase} {suite : PyStr} {index : Nat} {fields : ScannerFields}
  {extract : PyValue → Option ScannerFields} {item : PyValue} {finding : SecurityFinding}

theorem findingOf_unusable (unusable : fields.usable = false) :
    findingOf letters suite index fields = .ok none := by
  unfold ScannerFields.usable nonblank at unusable
  unfold findingOf
  split
  · next category path explanation named placed explained =>
      rw [named, placed, explained] at unusable
      simp only [Option.any_some] at unusable
      split
      · rfl
      · next solid =>
          split
          · rfl
          · next line ranged =>
              rw [ranged] at unusable
              split
              · next normal => simp_all
              · rfl
  · rfl

theorem findingOf_usable (usable : fields.usable = true) :
    (∃ error, findingOf letters suite index fields = .error error) ∨
      ∃ finding, findingOf letters suite index fields = .ok (some finding) ∧
        finding.evidence = [⟨suite, findingId index⟩] := by
  unfold ScannerFields.usable nonblank at usable
  simp only [Bool.and_eq_true, Option.any_eq_true, decide_eq_true_eq] at usable
  obtain ⟨⟨⟨⟨⟨category, named, solid⟩, path, placed, spoken⟩, explanation, explained, told⟩,
    ranged⟩, other, again, normal⟩ := usable
  rw [placed] at again
  cases again
  obtain ⟨line, lined⟩ := Option.isSome_iff_exists.mp ranged
  unfold findingOf
  rw [named, placed, explained]
  dsimp only
  rw [if_neg (by simp [solid, spoken, told]), lined]
  dsimp only
  rw [if_pos normal]
  unfold validateScannerFinding
  split
  · exact .inl ⟨_, rfl⟩
  · cases valid : (scannerFindingFor letters suite index category path explanation line
        fields.severity).validate with
    | error error => exact .inl ⟨error, rfl⟩
    | ok finding =>
        refine .inr ⟨finding, rfl, ?_⟩
        have same := validate_fields valid
        rw [same]
        rfl

theorem itemFinding_unusable (unusable : itemUsable extract item = false) :
    itemFinding letters suite extract index item = .ok none := by
  unfold itemUsable at unusable
  unfold itemFinding
  split
  · rfl
  · next fields extracted =>
      rw [extracted] at unusable
      exact findingOf_unusable unusable

theorem itemFinding_usable (usable : itemUsable extract item = true) :
    (∃ error, itemFinding letters suite extract index item = .error error) ∨
      ∃ finding, itemFinding letters suite extract index item = .ok (some finding) ∧
        finding.evidence = [⟨suite, findingId index⟩] := by
  obtain ⟨fields, extracted, usable⟩ := (Option.any_eq_true _ _).mp usable
  unfold itemFinding
  rw [extracted]
  exact findingOf_usable usable

theorem itemFinding_made {made : Option SecurityFinding}
    (ok : itemFinding letters suite extract index item = .ok made) :
    (itemUsable extract item = false ∧ made = none) ∨
      (itemUsable extract item = true ∧
        ∃ finding, made = some finding ∧ finding.evidence = [⟨suite, findingId index⟩]) := by
  cases usable : itemUsable extract item with
  | false =>
      rw [itemFinding_unusable usable] at ok
      exact .inl ⟨rfl, (Except.ok.inj ok).symm⟩
  | true =>
      have outcome : (∃ error, itemFinding letters suite extract index item = .error error) ∨
          ∃ finding, itemFinding letters suite extract index item = .ok (some finding) ∧
            finding.evidence = [⟨suite, findingId index⟩] := itemFinding_usable usable
      rcases outcome with ⟨error, raised⟩ | ⟨finding, found, evidence⟩
      · rw [raised] at ok
        cases ok
      · rw [found] at ok
        exact .inr ⟨rfl, finding, (Except.ok.inj ok).symm, evidence⟩

end Findings

section Property

def Represents (letters : LetterCase) (suite : PyStr) (item : RawItem) (finding : SecurityFinding) :
    Prop :=
  ∃ index, itemFinding letters suite item.1 index item.2 = .ok (some finding)

/-- A report that is complete and not truncated has a finding of every item. -/
def Faithful (letters : LetterCase) (suite : PyStr) (items : List RawItem)
    (report : SecurityScannerReport) : Prop :=
  report.complete = true → report.truncated = false →
    List.Forall₂ (Represents letters suite) items report.findings

def usableItem (item : RawItem) : Bool := itemUsable item.1 item.2

def unreadable (value : PyValue) : RawItem := (fun _ => none, value)

namespace Trivy

/-- The vulnerabilities of a result. A result without any may say `null`. -/
def resultItems (result : PyValue) : List RawItem :=
  match asDict result with
  | none => [unreadable result]
  | some entries =>
      match field entries "Vulnerabilities" with
      | .null => []
      | .list items => items.map fun item => (extract (field entries "Target"), item)
      | _ => [unreadable result]

def rawItems (payload : PyEntries) : List RawItem :=
  match field payload "Results" with
  | .null => []
  | .list results => results.flatMap resultItems
  | other => [unreadable other]

def marks (result : PyValue × List PyValue) : List Bool :=
  (result.2.filter fun item => (asDict item).isSome).map (itemUsable (extract result.1))

/-- A list whose first object is usable comes after lists with 64 usable vulnerabilities. -/
def Overflows (payload : PyEntries) : Prop :=
  ∃ before current after, ((results payload).filterMap vulnerabilities).map marks = before ++
    current :: after ∧
    64 ≤ before.flatten.count true ∧ current.head? = some true

end Trivy

def Scanner.rawItems (payload : PyEntries) : Scanner → List RawItem
  | .flat scanner => ((scanner.raw payload).getD []).map fun item => (scanner.extract, item)
  | .trivy => Trivy.rawItems payload

def Scanner.suite : Scanner → PyStr
  | .flat scanner => scanner.suite
  | .trivy => Trivy.suite

def Scanner.Overflows (payload : PyEntries) : Scanner → Prop
  | .flat scanner => 64 < ((scanner.raw payload).getD []).length
  | .trivy => Trivy.Overflows payload

/-- The output is truncated, or too much is counted, or all of it is usable. -/
def Scanner.Covered (payload : PyEntries) (result : ScannerCommandResult) (scanner : Scanner) :
    Prop :=
  result.truncated = true ∨ scanner.Overflows payload ∨
    ((scanner.rawItems payload).length ≤ 64 ∧ ∀ item ∈ scanner.rawItems payload,
      usableItem item = true)

end Property

section Flat

variable {letters : LetterCase} {suite : PyStr} {extract : PyValue → Option ScannerFields}
  {items : List PyValue} {made : List (Option SecurityFinding)}

theorem represents_usable {item : RawItem} {finding : SecurityFinding}
    (represents : Represents letters suite item finding) : usableItem item = true := by
  obtain ⟨index, found⟩ := represents
  rcases itemFinding_made found with ⟨_, none_⟩ | ⟨usable, _⟩
  · cases none_
  · exact usable

theorem represented_usable {raw : List RawItem} {findings : List SecurityFinding}
    (pairs : List.Forall₂ (Represents letters suite) raw findings) :
    ∀ item ∈ raw, usableItem item = true := by
  induction pairs with
  | nil => intro item among; cases among
  | cons first _ ih =>
      intro item among
      rcases List.mem_cons.mp among with rfl | later
      · exact represents_usable first
      · exact ih item later

/-- Where all items are usable, none of them is left out. -/
theorem flat_represented (start : Nat) (usable : ∀ item ∈ items, itemUsable extract item = true)
    (pairs : List.Forall₂
      (fun entry found => itemFinding letters suite extract entry.2 entry.1 = .ok found)
      (items.zipIdx start) made) :
    List.Forall₂ (Represents letters suite)
    (items.map fun item => (extract, item)) made.reduceOption := by
  induction items generalizing start made with
  | nil =>
      cases pairs
      exact .nil
  | cons item rest ih =>
      rw [List.zipIdx_cons] at pairs
      cases pairs with
      | cons first others =>
          have tail :=
            ih (start + 1) (fun other among => usable other (List.mem_cons_of_mem _ among)) others
          rcases itemFinding_made first with ⟨unusable, _⟩ | ⟨_, finding, rfl, _⟩
          · rw [usable item List.mem_cons_self] at unusable
            cases unusable
          · rw [List.map_cons, List.reduceOption_cons_of_some]
            exact .cons ⟨start, first⟩ tail

theorem flat_faithful (scanner : FlatScanner) {payload : PyEntries} {result : ScannerCommandResult}
    {report : SecurityScannerReport} (made : scanner.report letters payload result = .ok report) :
    Faithful letters scanner.suite ((Scanner.flat scanner).rawItems payload) report ↔
      (Scanner.flat scanner).Covered payload result := by
  unfold FlatScanner.report at made
  split at made
  · cases made
  · next raw read =>
      split at made
      · cases made
      · next findings found =>
          cases made
          unfold FlatScanner.findings at found
          obtain ⟨options, mapped, found⟩ := bind_ok found
          cases found
          have pairs := mapM_related mapped
          unfold Faithful Scanner.Covered Scanner.Overflows Scanner.rawItems
          dsimp only
          rw [read, Option.getD_some]
          dsimp only [reportOf]
          constructor
          · intro faithful
            cases cut : result.truncated with
            | true => exact .inl rfl
            | false =>
                refine .inr (or_iff_not_imp_left.mpr fun few => ?_)
                have all := faithful (by rw [cut]; rfl) (by rw [cut]; exact decide_eq_false few)
                exact ⟨by rw [List.length_map]; omega, represented_usable all⟩
          · rintro (cut | many | ⟨few, usable⟩) complete whole
            · rw [cut] at complete
              cases complete
            · rw [decide_eq_true many, Bool.or_true] at whole
              cases whole
            · rw [List.length_map] at few
              rw [List.take_of_length_le few] at pairs
              have all := flat_represented 0
                (fun item among => usable (scanner.extract, item) (List.mem_map_of_mem among)) pairs
              have short : options.reduceOption.length ≤ 64 := by
                rw [← all.length_eq, List.length_map]
                exact few
              rw [List.take_of_length_le short]
              exact all

end Flat

section Count

def countAfter : Nat → List Bool → Nat
  | count, [] => count
  | count, mark :: rest =>
      let next := count + mark.toNat
      if next = 64 then 64 else countAfter next rest

theorem countAfter_nil (count : Nat) : countAfter count [] = count := rfl

theorem countAfter_cons (count : Nat) (mark : Bool) (rest : List Bool) :
    countAfter count (mark :: rest) =
      if count + mark.toNat = 64 then 64 else countAfter (count + mark.toNat) rest := rfl

theorem countAfter_low {count : Nat} (low : count < 64) (marks : List Bool) :
    countAfter count marks = min 64 (count + marks.count true) := by
  induction marks generalizing count with
  | nil =>
      rw [countAfter_nil, List.count_nil]
      omega
  | cons mark rest ih =>
      rw [countAfter_cons, List.count_cons]
      cases mark with
      | false =>
          simp only [Bool.toNat_false, Nat.add_zero]
          rw [if_neg (by omega), ih low]
          simp
      | true =>
          simp only [Bool.toNat_true]
          split
          · next full =>
              simp
              omega
          · rw [ih (by omega)]
            simp
            omega

theorem countAfter_high {count : Nat} (high : 64 < count) (marks : List Bool) :
    64 < countAfter count marks := by
  induction marks generalizing count with
  | nil => exact high
  | cons mark rest ih =>
      rw [countAfter_cons, if_neg (by omega)]
      exact ih (by omega)

theorem countAfter_full (marks : List Bool) : 64 ≤ countAfter 64 marks ∧
    (64 < countAfter 64 marks ↔ marks.head? = some true) := by
  cases marks with
  | nil => simp [countAfter_nil]
  | cons mark rest =>
      cases mark with
      | false => simp [countAfter_cons]
      | true =>
          have more : 64 < countAfter 65 rest := countAfter_high (by omega) rest
          simp only [countAfter_cons, Bool.toNat_true, List.head?_cons]
          exact ⟨by simpa using more.le, by simpa using more⟩

def countAll (lists : List (List Bool)) : Nat := lists.foldl countAfter 0

theorem countAll_concat (lists : List (List Bool)) (marks : List Bool) :
    countAll (lists ++ [marks]) = countAfter (countAll lists) marks := by
  rw [countAll, List.foldl_append]
  rfl

theorem countAll_small (lists : List (List Bool)) :
    min 64 (countAll lists) = min 64 (lists.flatten.count true) := by
  induction lists using List.reverseRecOn with
  | nil => rfl
  | append_singleton lists marks ih =>
      rw [countAll_concat, List.flatten_append, List.count_append, List.flatten_singleton]
      rcases Nat.lt_trichotomy (countAll lists) 64 with low | full | high
      · rw [countAfter_low low]
        omega
      · have enough := (countAfter_full marks).1
        rw [full] at ih ⊢
        omega
      · have more := countAfter_high high marks
        omega

theorem countAll_overflows (lists : List (List Bool)) : 64 < countAll lists ↔
    ∃ before current after, lists = before ++ current :: after ∧ 64 ≤ before.flatten.count true ∧
      current.head? = some true := by
  induction lists using List.reverseRecOn with
  | nil => simp [countAll]
  | append_singleton lists marks ih =>
      rw [countAll_concat]
      constructor
      · intro more
        rcases Nat.lt_trichotomy (countAll lists) 64 with low | full | high
        · rw [countAfter_low low] at more
          omega
        · rw [full] at more
          have small := countAll_small lists
          exact ⟨lists, marks, [], rfl, by omega, (countAfter_full marks).2.mp more⟩
        · obtain ⟨before, current, after, rfl, enough, leads⟩ := ih.mp high
          exact ⟨before, current, after ++ [marks], by simp, enough, leads⟩
      · rintro ⟨before, current, after, same, enough, leads⟩
        rcases List.eq_nil_or_concat after with rfl | ⟨front, last, rfl⟩
        · obtain ⟨rfl, last⟩ := List.append_inj' same rfl
          obtain rfl := List.singleton_inj.mp last
          have small := countAll_small lists
          rcases Nat.lt_or_ge 64 (countAll lists) with high | low
          · exact countAfter_high high marks
          · have full : countAll lists = 64 := by omega
            rw [full]
            exact (countAfter_full marks).2.mpr leads
        · rw [List.concat_eq_append, ← List.cons_append, ← List.append_assoc] at same
          obtain ⟨rfl, _⟩ := List.append_inj' same rfl
          exact countAfter_high (ih.mpr ⟨before, current, front, rfl, enough, leads⟩) marks

end Count

section Nested

open Trivy

variable {letters : LetterCase} {target : PyValue} {findings final : List SecurityFinding}
    {index : Nat}
  {items : List PyValue} {payload : PyEntries}

theorem itemUsable_object {item : PyValue} (usable : itemUsable (extract target) item = true) :
    ∃ entries, asDict item = some entries := by
  unfold itemUsable extract at usable
  cases read : asDict item with
  | none =>
      rw [read] at usable
      cases usable
  | some entries => exact ⟨entries, rfl⟩

theorem scanList_cases {item : PyValue} {rest : List PyValue}
    (scanned : scanList letters target findings index (item :: rest) = .ok final) :
    (asDict item = none ∧ scanList letters target findings (index + 1) rest = .ok final) ∨
      ((asDict item).isSome = true ∧ itemUsable (extract target) item = false ∧
        ((findings.length = 64 ∧ final = findings) ∨
          findings.length ≠ 64 ∧ scanList letters target findings (index + 1) rest = .ok final)) ∨
      ((asDict item).isSome = true ∧ itemUsable (extract target) item = true ∧ ∃ finding,
        Represents letters suite (extract target, item) finding ∧
        finding.evidence = [⟨suite, findingId (findings.length + index)⟩] ∧
        ((findings.length + 1 = 64 ∧ final = findings ++ [finding]) ∨ findings.length + 1 ≠ 64 ∧
          scanList letters target (findings ++ [finding]) (index + 1) rest = .ok final)) := by
  rw [scanList] at scanned
  split at scanned
  · next none_ => exact .inl ⟨none_, scanned⟩
  · next entries object =>
      split at scanned
      · cases scanned
      · next made found =>
          rcases itemFinding_made found with ⟨unusable, rfl⟩ | ⟨usable, finding, rfl, evidence⟩
          · dsimp only [Option.toList] at scanned
            rw [List.append_nil] at scanned
            refine .inr (.inl ⟨by rw [object]; rfl, unusable, ?_⟩)
            split at scanned
            · next full => exact .inl ⟨full, (Except.ok.inj scanned).symm⟩
            · next more => exact .inr ⟨more, scanned⟩
          · dsimp only [Option.toList] at scanned
            rw [List.length_append, List.length_singleton] at scanned
            refine .inr (.inr ⟨by rw [object]; rfl, usable, finding, ⟨_, found⟩, evidence, ?_⟩)
            split at scanned
            · next full => exact .inl ⟨full, (Except.ok.inj scanned).symm⟩
            · next more => exact .inr ⟨more, scanned⟩

theorem marks_other {item : PyValue} (none_ : asDict item = none) :
    marks (target, item :: items) = marks (target, items) := by
  simp [marks, none_]

theorem marks_object {item : PyValue} (object : (asDict item).isSome = true) :
    marks (target, item :: items) = itemUsable (extract target) item :: marks (target, items) := by
  simp [marks, object]

theorem scanList_count (scanned : scanList letters target findings index items = .ok final) :
    final.length = countAfter findings.length (marks (target, items)) := by
  induction items generalizing findings index with
  | nil =>
      cases scanned
      rfl
  | cons item rest ih =>
      rcases scanList_cases scanned with ⟨none_, later⟩ | ⟨object, unusable, ending⟩ |
        ⟨object, usable, finding, _, _, ending⟩
      · rw [marks_other none_]
        exact ih later
      · rw [marks_object object, unusable, countAfter_cons, Bool.toNat_false, Nat.add_zero]
        rcases ending with ⟨full, rfl⟩ | ⟨more, later⟩
        · rw [if_pos full, full]
        · rw [if_neg more]
          exact ih later
      · rw [marks_object object, usable, countAfter_cons, Bool.toNat_true]
        rcases ending with ⟨full, rfl⟩ | ⟨more, later⟩
        · rw [if_pos full, List.length_append, List.length_singleton, full]
        · rw [if_neg more, ih later, List.length_append, List.length_singleton]

/-- Usable items that are not too many all have their finding. -/
theorem scanList_represented (usable : ∀ item ∈ items, itemUsable (extract target) item = true)
    (few : findings.length + items.length ≤ 64)
    (scanned : scanList letters target findings index items = .ok final) :
    ∃ added, final = findings ++ added ∧
      List.Forall₂ (Represents letters suite)
      (items.map fun item => (extract target, item)) added := by
  induction items generalizing findings index with
  | nil =>
      cases scanned
      exact ⟨[], (List.append_nil _).symm, .nil⟩
  | cons item rest ih =>
      have first := usable item List.mem_cons_self
      have others := fun other among => usable other (List.mem_cons_of_mem item among)
      rw [List.length_cons] at few
      rcases scanList_cases scanned
        with ⟨none_, _⟩ | ⟨_, unusable, _⟩ | ⟨_, _, finding, represents, _, ending⟩
      · obtain ⟨entries, object⟩ := itemUsable_object first
        rw [none_] at object
        cases object
      · rw [first] at unusable
        cases unusable
      · rcases ending with ⟨full, rfl⟩ | ⟨_, later⟩
        · have last : rest = [] := List.length_eq_zero_iff.mp (by omega)
          subst last
          exact ⟨[finding], rfl, .cons represents .nil⟩
        · obtain ⟨added, rfl, pairs⟩ := ih others
            (by rw [List.length_append, List.length_singleton]; omega) later
          exact ⟨finding :: added, by simp, .cons represents pairs⟩

def scanAll (letters : LetterCase) (findings : List SecurityFinding)
    (lists : List (PyValue × List PyValue)) : Except ValidationError (List SecurityFinding) :=
  lists.foldlM (fun findings result => scanList letters result.1 findings 0 result.2) findings

theorem scanAll_cons {result : PyValue × List PyValue} {lists : List (PyValue × List PyValue)}
    (scanned : scanAll letters findings (result :: lists) = .ok final) :
    ∃ middle, scanList letters result.1 findings 0 result.2 = .ok middle ∧
      scanAll letters middle lists = .ok final := by
  unfold scanAll at scanned
  rw [List.foldlM_cons] at scanned
  exact bind_ok scanned

theorem scanAll_count {lists : List (PyValue × List PyValue)}
    (scanned : scanAll letters findings lists = .ok final) :
    final.length = (lists.map marks).foldl countAfter findings.length := by
  induction lists generalizing findings with
  | nil =>
      cases scanned
      rfl
  | cons result lists ih =>
      obtain ⟨middle, first, later⟩ := scanAll_cons scanned
      rw [List.map_cons, List.foldl_cons, ← scanList_count first]
      exact ih later

def listItems (lists : List (PyValue × List PyValue)) : List RawItem :=
  lists.flatMap fun result => result.2.map fun item => (extract result.1, item)

theorem scanAll_represented {lists : List (PyValue × List PyValue)}
    (usable : ∀ item ∈ listItems lists, usableItem item = true)
    (few : findings.length + (listItems lists).length ≤ 64)
    (scanned : scanAll letters findings lists = .ok final) :
    ∃ added, final = findings ++ added ∧ List.Forall₂ (Represents letters suite)
    (listItems lists) added := by
  induction lists generalizing findings with
  | nil =>
      cases scanned
      exact ⟨[], (List.append_nil _).symm, .nil⟩
  | cons result lists ih =>
      obtain ⟨middle, first, later⟩ := scanAll_cons scanned
      have split : listItems (result :: lists) =
          (result.2.map fun item => (extract result.1, item)) ++ listItems lists :=
            List.flatMap_cons
      rw [split] at usable few ⊢
      rw [List.length_append, List.length_map] at few
      obtain ⟨added, rfl, pairs⟩ :=
        scanList_represented (fun item among => usable (extract result.1, item)
        (List.mem_append_left _ (List.mem_map_of_mem among))) (by omega) first
      have counted := pairs.length_eq
      rw [List.length_map] at counted
      obtain ⟨others, rfl, more⟩ :=
        ih (fun item among => usable item (List.mem_append_right _ among))
        (by rw [List.length_append]; omega) later
      exact ⟨added ++ others, by rw [List.append_assoc], List.rel_append pairs more⟩

theorem unreadable_unusable (value : PyValue) : usableItem (unreadable value) = false := rfl

theorem resultItems_usable {result : PyValue}
    (usable : ∀ item ∈ resultItems result, usableItem item = true) :
    resultItems result = listItems (vulnerabilities result).toList := by
  unfold resultItems vulnerabilities at *
  cases read : asDict result with
  | none =>
      rw [read] at usable
      have one := usable _ (List.mem_singleton_self _)
      rw [unreadable_unusable] at one
      cases one
  | some entries =>
      simp only [read, field, Option.bind_eq_bind, Option.bind_some] at usable ⊢
      cases found : field? entries "Vulnerabilities" with
      | none => rfl
      | some value =>
          simp only [found, Option.getD_some] at usable ⊢
          cases value with
          | null => rfl
          | list items => simp [asList, listItems]
          | _ =>
              have one := usable _ (List.mem_singleton_self _)
              rw [unreadable_unusable] at one
              cases one

theorem listItems_append (first second : List (PyValue × List PyValue)) :
    listItems (first ++ second) = listItems first ++ listItems second := List.flatMap_append

theorem results_usable {items : List PyValue}
    (usable : ∀ item ∈ items.flatMap resultItems, usableItem item = true) :
    items.flatMap resultItems = listItems (items.filterMap vulnerabilities) := by
  induction items with
  | nil => rfl
  | cons item rest ih =>
      rw [List.flatMap_cons] at usable ⊢
      have first := resultItems_usable fun other among =>
        usable other (List.mem_append_left _ among)
      have others := ih fun other among => usable other (List.mem_append_right _ among)
      have split : (item :: rest).filterMap vulnerabilities =
          (vulnerabilities item).toList ++ rest.filterMap vulnerabilities := by
        cases read : vulnerabilities item with
        | none => rw [List.filterMap_cons_none read]; rfl
        | some value => rw [List.filterMap_cons_some read]; rfl
      rw [split, listItems_append, first, others]

theorem rawItems_usable (usable : ∀ item ∈ Trivy.rawItems payload, usableItem item = true) :
    Trivy.rawItems payload = listItems ((results payload).filterMap vulnerabilities) := by
  unfold Trivy.rawItems results at *
  unfold field at *
  cases found : field? payload "Results" with
  | none => rfl
  | some value =>
      simp only [found, Option.getD_some] at usable ⊢
      cases value with
      | null => rfl
      | list items => exact results_usable usable
      | _ =>
          have one := usable _ (List.mem_singleton_self _)
          rw [unreadable_unusable] at one
          cases one

theorem trivy_faithful {result : ScannerCommandResult} {report : SecurityScannerReport}
    (made : Trivy.report letters payload result = .ok report) :
    Faithful letters suite (Trivy.rawItems payload) report ↔
    Scanner.trivy.Covered payload result := by
  unfold Trivy.report at made
  split at made
  · cases made
  · next found scanned =>
      cases made
      change scanAll letters [] ((results payload).filterMap vulnerabilities) = .ok found at scanned
      have counted : 64 < found.length ↔ Overflows payload := by
        rw [scanAll_count scanned]
        exact countAll_overflows _
      unfold Faithful Scanner.Covered Scanner.Overflows Scanner.rawItems
      dsimp only [reportOf]
      constructor
      · intro faithful
        cases cut : result.truncated with
        | true => exact .inl rfl
        | false =>
            refine .inr (or_iff_not_imp_left.mpr fun few => ?_)
            have all := faithful (by rw [cut]; rfl)
              (by rw [cut]; exact decide_eq_false fun more => few (counted.mp more))
            exact ⟨all.length_eq ▸ List.length_take_le _ _, represented_usable all⟩
      · rintro (cut | many | ⟨few, usable⟩) complete whole
        · rw [cut] at complete
          cases complete
        · rw [decide_eq_true (counted.mpr many), Bool.or_true] at whole
          cases whole
        · have listed := rawItems_usable usable
          rw [listed] at few usable ⊢
          obtain ⟨added, same, pairs⟩ := scanAll_represented usable (by simpa using few) scanned
          rw [List.nil_append] at same
          subst same
          rw [List.take_of_length_le (pairs.length_eq ▸ few)]
          exact pairs

end Nested

/-- The report of an adapter is faithful exactly when the output is covered. -/
theorem report_faithful {letters : LetterCase} {loads : PyStr → Except PyExn PyValue}
    {scanner : Scanner} {result : ScannerCommandResult} {report : SecurityScannerReport}
    (scanned : scanner.scan letters loads result = .ok report) : ∃ payload,
      document loads result = .ok payload ∧
        (Faithful letters scanner.suite (scanner.rawItems payload) report ↔
          scanner.Covered payload result) := by
  obtain ⟨payload, read, made⟩ := bind_ok scanned
  refine ⟨payload, read, ?_⟩
  cases scanner with
  | flat scanner => exact flat_faithful scanner made
  | trivy => exact trivy_faithful made

section Sample

def entry (key : String) (value : PyValue) : PyValue × PyValue := (.string (.ofString key), value)

def samplePayload : PyEntries := [entry "results" (.list [.dict [
  entry "check_id" (.string (.ofString "rule")), entry "path" (.string (.ofString "/a.py")),
  entry "start" (.dict [entry "line" (.integer 3)]),
  entry "extra"
    (.dict [entry "message" (.string (.ofString "m")),
      entry "severity" (.string (.ofString "ERROR"))])]])]

def sampleStdout : PyStr :=
  .ofString
    "\x7b\"results\":[\x7b\"check_id\":\"rule\",\"path\":\"/a.py\",\"start\":\x7b\"line\":3\x7d," ++
    .ofString "\"extra\":\x7b\"message\":\"m\",\"severity\":\"ERROR\"\x7d\x7d]\x7d"

theorem one_millisecond : (0 : ℚ) ≤ 1 ∧ (1 : ℚ) ≤ 86400000 := by norm_num

def sampleResult : ScannerCommandResult where
  stdout := sampleStdout
  durationMs := 1
  truncated := false
  stdout_bounded := by
    unfold sampleStdout
    repeat rw [PyStr.ofString_ofList]
    decide
  duration_valid := one_millisecond

theorem sample_scanned : (Scanner.flat semgrepScanner).scan ⟨id, id⟩
    (fun _ => .ok (.dict samplePayload)) sampleResult =
    .ok (reportOf semgrepScanner.suite semgrepScanner.suite_valid [] 1 sampleResult) := rfl

theorem report_faithful_sample : ∃ report payload,
    document (fun _ => .ok (.dict samplePayload)) sampleResult = .ok payload ∧
      (Faithful ⟨id, id⟩ (Scanner.flat semgrepScanner).suite
        ((Scanner.flat semgrepScanner).rawItems payload) report ↔
        (Scanner.flat semgrepScanner).Covered payload sampleResult) :=
  ⟨_, report_faithful sample_scanned⟩

/-- The result is left out of a report that is complete and not truncated. -/
theorem finding_dropped : ∃ report,
    (Scanner.flat semgrepScanner).scan ⟨id, id⟩ (fun _ => .ok (.dict samplePayload)) sampleResult =
      .ok report ∧
      report.complete = true ∧ report.truncated = false ∧ report.findings = [] ∧
      ¬ Faithful ⟨id, id⟩ semgrepScanner.suite
        ((Scanner.flat semgrepScanner).rawItems samplePayload) report := by
  refine ⟨_, sample_scanned, rfl, rfl, rfl, fun faithful => ?_⟩
  have pairs := (faithful rfl rfl).length_eq
  have one : ((Scanner.flat semgrepScanner).rawItems samplePayload).length = 1 := rfl
  rw [one] at pairs
  cases pairs

end Sample

end SynapseOS.Security
