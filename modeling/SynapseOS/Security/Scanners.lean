import SynapseOS.Security.Redaction

/-! The adapters of the security scanners (`core/security/scanners.py`). -/

namespace SynapseOS.Security

open Execution Tools

abbrev PyEntries := List (PyValue × PyValue)

/-- `ScannerCommandResult`: what the adapters read of it. -/
structure ScannerCommandResult where
  stdout : PyStr
  durationMs : ℚ
  truncated : Bool
  stdout_bounded : stdout.length ≤ 1048576 ∧ ∀ point ∈ stdout, surrogate point = false
  duration_valid : 0 ≤ durationMs ∧ durationMs ≤ 86400000

inductive ScannerError
  /-- `ScannerOutputError`. -/
  | output
  | invalid (error : ValidationError)
  | raised (exception : PyExn)

section Values

def asText : PyValue → Option PyStr
  | .string text => some text
  | _ => none

def asList : PyValue → Option (List PyValue)
  | .list items => some items
  | _ => none

def asDict : PyValue → Option PyEntries
  | .dict entries => some entries
  | _ => none

/-- `bool(value)`. -/
def truthy : PyValue → Bool
  | .null => false
  | .boolean value => value
  | .integer value => decide (value ≠ 0)
  | .number value => decide (value ≠ .finite 0)
  | .string text => decide (text ≠ [])
  | .list items | .tuple items => !items.isEmpty
  | .dict entries => !entries.isEmpty
  | .cycle | .object _ => true

/-- `first or second`. -/
def orElse (first second : PyValue) : PyValue := if truthy first = true then first else second

def field? (entries : PyEntries) (key : String) : Option PyValue :=
  (entries.find? fun entry => decide (asText entry.1 = some (.ofString key))).map Prod.snd

def field (entries : PyEntries) (key : String) : PyValue := (field? entries key).getD .null

end Values

section Finding

/-- `str.lower` and `str.upper`. -/
structure LetterCase where
  lower : PyStr → PyStr
  upper : PyStr → PyStr

structure ScannerFields where
  category : PyValue
  path : PyValue
  line : PyValue
  explanation : PyValue
  severity : PyValue

def scannerPath (text : PyStr) : Bool :=
  decide (text ≠ []) && !text.contains 0x5C && decide (text.head? ≠ some 0x2F) &&
    decide (PyStr.ofString ".." ∉ slashParts text) &&
    (decide (text = PyStr.ofString ".") ||
      (slashParts text).all fun part => decide (part ≠ [] ∧ part ≠ PyStr.ofString "."))

def severityTable : List (PyStr × SecuritySeverity) :=
  [(.ofString "CRITICAL", .critical), (.ofString "HIGH", .high), (.ofString "ERROR", .high),
    (.ofString "WARNING", .medium), (.ofString "MEDIUM", .medium), (.ofString "LOW", .low),
    (.ofString "INFO", .info)]

variable (letters : LetterCase)

def severityOf (value : PyValue) : SecuritySeverity :=
  let normalized := match value with
    | .string text => letters.upper text
    | _ => .ofString "LOW"
  ((severityTable.find? fun entry => decide (entry.1 = normalized)).map Prod.snd).getD .low

/-- The line of an item, if it may be used. A boolean is an `int` of Python. -/
def lineOf : PyValue → Option (Option Nat)
  | .null => some none
  | .integer value => if 1 ≤ value ∧ value ≤ 1000000 then some (some value.toNat) else none
  | .boolean true => some (some 1)
  | _ => none

def isBoolean : PyValue → Bool
  | .boolean _ => true
  | _ => false

/-- `f"{index}"`. -/
def decimal (number : Nat) : PyStr := if number = 0 then [0x30] else numeral number

def findingId (index : Nat) : PyStr := .ofString "finding-" ++ decimal index

def scannerFindingFor (suite : PyStr) (index : Nat) (category path explanation : PyStr)
    (line : Option Nat) (severity : PyValue) : FindingFields where
  path := some path
  lineStart := line
  lineEnd := line
  category := (letters.lower (strip category)).take 128
  severity := severityOf letters severity
  explanation := (strip explanation).take 4096
  remediation := .ofString "Review and remediate the reported security finding."
  confidence := ⟨1, Tools.certain⟩
  evidence := [⟨suite, findingId index⟩]
  confirmation := .confirmed

/-- `SecurityScannerFinding(...)`, strict: no boolean is a line, and text is Unicode. -/
def validateScannerFinding (line : PyValue) (fields : FindingFields) :
    Except ValidationError (Option SecurityFinding) :=
  if (isBoolean line || (fields.path.getD []).any surrogate || fields.explanation.any surrogate) =
    true then
    .error (.invalid "SecurityScannerFinding")
  else fields.validate.map some

def findingOf (suite : PyStr) (index : Nat) (fields : ScannerFields) :
    Except ValidationError (Option SecurityFinding) :=
  match asText fields.category, asText fields.path, asText fields.explanation with
  | some category, some path, some explanation =>
      if strip category = [] ∨ strip path = [] ∨ strip explanation = [] then .ok none
      else
        match lineOf fields.line with
        | none => .ok none
        | some line =>
            if scannerPath path = true then
              validateScannerFinding fields.line
                (scannerFindingFor letters suite index category path explanation line
                  fields.severity)
            else .ok none
  | _, _, _ => .ok none

def nonblank (value : PyValue) : Bool := (asText value).any fun text => decide (strip text ≠ [])

def ScannerFields.usable (fields : ScannerFields) : Bool :=
  nonblank fields.category && nonblank fields.path && nonblank fields.explanation &&
    (lineOf fields.line).isSome && (asText fields.path).any scannerPath

end Finding

section Adapters

variable (letters : LetterCase)

def itemFinding (suite : PyStr) (extract : PyValue → Option ScannerFields) (index : Nat)
    (item : PyValue) : Except ValidationError (Option SecurityFinding) :=
  match extract item with
  | none => .ok none
  | some fields => findingOf letters suite index fields

def itemUsable (extract : PyValue → Option ScannerFields) (item : PyValue) : Bool :=
  (extract item).any ScannerFields.usable

def reportOf (suite : PyStr) (suite_valid : identifierText true suite = true)
    (findings : List SecurityFinding) (count : Nat) (result : ScannerCommandResult) :
    SecurityScannerReport where
  suiteId := suite
  findings := findings.take 64
  complete := !result.truncated
  truncated := result.truncated || decide (64 < count)
  durationMs := result.durationMs
  suite_valid
  finding_bound := List.length_take_le _ _
  duration_bound := result.duration_valid.1

structure FlatScanner where
  suite : PyStr
  key : String
  extract : PyValue → Option ScannerFields
  suite_valid : identifierText true suite = true

def semgrepScanner : FlatScanner where
  suite := .ofString "semgrep"
  key := "results"
  extract item := do
    let entries ← asDict item
    let extra ← asDict (field entries "extra")
    let start ← asDict (field entries "start")
    return ⟨field entries "check_id", field entries "path", field start "line",
      field extra "message", field extra "severity"⟩
  suite_valid := by decide

def secretScanner : FlatScanner where
  suite := .ofString "secret-scanner"
  key := "findings"
  extract item := do
    let entries ← asDict item
    return ⟨field entries "RuleID", field entries "File", field entries "StartLine",
      field entries "Description", .string (.ofString "CRITICAL")⟩
  suite_valid := by decide

def dependencyAuditScanner : FlatScanner where
  suite := .ofString "dependency-audit"
  key := "vulnerabilities"
  extract item := do
    let entries ← asDict item
    return ⟨field entries "id", field entries "file", field entries "line",
      orElse (field entries "description") (field entries "package"), field entries "severity"⟩
  suite_valid := by decide

namespace FlatScanner

variable (scanner : FlatScanner)

def raw (payload : PyEntries) : Option (List PyValue) :=
  match field? payload scanner.key with
  | none => some []
  | some value => asList value

def findings (raw : List PyValue) : Except ValidationError (List SecurityFinding) := do
  let made ← (raw.take 64).zipIdx.mapM fun entry =>
    itemFinding letters scanner.suite scanner.extract entry.2 entry.1
  return made.reduceOption

def report (payload : PyEntries) (result : ScannerCommandResult) :
    Except ScannerError SecurityScannerReport :=
  match scanner.raw payload with
  | none => .error .output
  | some raw =>
      match scanner.findings letters raw with
      | .error error => .error (.invalid error)
      | .ok findings => .ok (reportOf scanner.suite scanner.suite_valid findings raw.length result)

end FlatScanner

namespace Trivy

def suite : PyStr := .ofString "trivy"

theorem suite_identifier : identifierText true suite = true := by decide

def extract (target item : PyValue) : Option ScannerFields := do
  let entries ← asDict item
  return ⟨field entries "VulnerabilityID", target, .null,
    orElse (field entries "Title") (field entries "PkgName"), field entries "Severity"⟩

def vulnerabilities (item : PyValue) : Option (PyValue × List PyValue) := do
  let entries ← asDict item
  match field? entries "Vulnerabilities" with
  | none => return (field entries "Target", [])
  | some value => return (field entries "Target", ← asList value)

/-- The inner loop, from a place in the vulnerabilities on. It ends once there are 64 findings. -/
def scanList (target : PyValue) : List SecurityFinding → Nat → List PyValue →
    Except ValidationError (List SecurityFinding)
  | findings, _, [] => .ok findings
  | findings, index, item :: rest =>
      match asDict item with
      | none => scanList target findings (index + 1) rest
      | some _ =>
          match itemFinding letters suite (extract target) (findings.length + index) item with
          | .error error => .error error
          | .ok made =>
              let findings := findings ++ made.toList
              if findings.length = 64 then .ok findings else scanList target findings
                (index + 1) rest

def findings (results : List PyValue) : Except ValidationError (List SecurityFinding) :=
  (results.filterMap vulnerabilities).foldlM
    (fun findings result => scanList letters result.1 findings 0 result.2) []

def results (payload : PyEntries) : List PyValue :=
  (asList ((field? payload "Results").getD (.list []))).getD []

def report (payload : PyEntries) (result : ScannerCommandResult) :
    Except ScannerError SecurityScannerReport :=
  match findings letters (results payload) with
  | .error error => .error (.invalid error)
  | .ok findings => .ok (reportOf suite suite_identifier findings findings.length result)

end Trivy

inductive Scanner
  | flat (scanner : FlatScanner)
  | trivy

def Scanner.report (payload : PyEntries) (result : ScannerCommandResult) :
    Scanner → Except ScannerError SecurityScannerReport
  | .flat scanner => scanner.report letters payload result
  | .trivy => Trivy.report letters payload result

def document (loads : PyStr → Except PyExn PyValue) (result : ScannerCommandResult) :
    Except ScannerError PyEntries :=
  match loads result.stdout with
  | .ok (.dict entries) => .ok entries
  | .ok _ | .error .typeError | .error .valueError => .error .output
  | .error exception => .error (.raised exception)

/-- `scan`, of what the command returned. -/
def Scanner.scan (loads : PyStr → Except PyExn PyValue) (scanner : Scanner)
    (result : ScannerCommandResult) : Except ScannerError SecurityScannerReport := do
  let payload ← document loads result
  scanner.report letters payload result

end Adapters

end SynapseOS.Security
