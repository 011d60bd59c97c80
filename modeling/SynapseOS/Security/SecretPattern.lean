import SynapseOS.Security.Types

/-! `_SECRET_PATTERN` (`core/security/redaction.py`): the secrets of a text, from the left. -/

namespace SynapseOS.Security

open Execution

/-- What a literal compares of a point when it ignores case. -/
def foldPoint (point : Nat) : Nat :=
  if upperLetter point = true then point + 0x20
  else if point = 0x130 ∨ point = 0x131 then 0x69
  else if point = 0x17F then 0x73
  else if point = 0x212A then 0x6B
  else point

/-- What a back reference compares of a point when it ignores case. -/
def lowerPoint (point : Nat) : Nat :=
  if upperLetter point = true then point + 0x20
  else if point = 0x130 then 0x69
  else if point = 0x212A then 0x6B
  else point

def behind (compared : Nat → Nat) : PyStr → PyStr → Option PyStr
  | [], text => some text
  | _ :: _, [] => none
  | wanted :: others, point :: rest =>
      if compared point = compared wanted then behind compared others rest else none

abbrev literal : PyStr → PyStr → Option PyStr := behind foldPoint

abbrev backReference : PyStr → PyStr → Option PyStr := behind lowerPoint

/-- What `_PRIVATE_KEY_LABEL` matches, in its order. -/
def supportedLabels : List PyStr :=
  [.ofString "RSA PRIVATE KEY", .ofString "EC PRIVATE KEY", .ofString "DSA PRIVATE KEY",
    .ofString "OPENSSH PRIVATE KEY", .ofString "ENCRYPTED PRIVATE KEY", .ofString "PRIVATE KEY"]

def dashes : PyStr := .ofString "-----"

def beginWord : PyStr := .ofString "-----BEGIN "

def endWord : PyStr := .ofString "-----END "

def openingMarker (label : PyStr) : PyStr := beginWord ++ label ++ dashes

def closingMarker (label : PyStr) : PyStr := endWord ++ label ++ dashes

def closes (label text : PyStr) : Bool :=
  (((literal endWord text).bind (backReference label)).bind (literal dashes)).isSome

/-- `.*?` and the closing marker: the points up to the end of the first one. -/
def closedAfter (label : PyStr) : PyStr → Option Nat
  | [] => none
  | point :: rest =>
      if closes label (point :: rest) = true then some (closingMarker label).length
      else (closedAfter label rest).map (· + 1)

/-- `private_key`: how long the block at the start of a text is. -/
def privateKeyLength (text : PyStr) : Option Nat :=
  supportedLabels.findSome? fun label =>
    (literal (openingMarker label) text).bind fun rest =>
      (closedAfter ((text.drop beginWord.length).take label.length) rest).map
        ((openingMarker label).length + ·)

def keyPoint (point : Nat) : Bool :=
  asciiAlphanumeric (foldPoint point) || decide (foldPoint point = 0x5F)

def credentialKeys : List PyStr :=
  [.ofString "api_key", .ofString "apikey", .ofString "client_secret", .ofString "password",
    .ofString "secret", .ofString "token"]

def credentialKeyTexts : List PyStr :=
  [[0x22], [0x27], []].flatMap fun quote => credentialKeys.map fun key => quote ++ key ++ quote

def lineBreak (point : Nat) : Bool := decide (point = 0x0D ∨ point = 0x0A)

def quotedLength (quote : Nat) : PyStr → Option Nat
  | [] => none
  | point :: rest =>
      if point = quote then some 0
      else if lineBreak point = true then none
      else if point = 0x5C then
        match rest with
        | [] => none
        | escaped :: others =>
            if lineBreak escaped = true then none else (quotedLength quote others).map (· + 2)
      else (quotedLength quote rest).map (· + 1)

inductive ValueForm
  | double
  | single
  | unquoted
  deriving DecidableEq, Repr

def ValueForm.mark : ValueForm → PyStr
  | .double => [0x22]
  | .single => [0x27]
  | .unquoted => []

inductive SecretKind
  | privateKey
  | credential (prefixLength : Nat) (form : ValueForm)
  deriving DecidableEq, Repr

def quotedValue (form : ValueForm) (quote : Nat) : PyStr → Option (ValueForm × Nat)
  | [] => none
  | point :: rest =>
      if point = quote then
        (quotedLength quote rest).bind fun length => if length = 0 then none
          else some (form, length + 2)
      else none

/-- `[^\s"'…]`. -/
def valuePoint (point : Nat) : Bool :=
  !(space point || (PyStr.ofString "\"'\x60,;#()[]\x7b\x7d").contains point)

/-- `[A-Za-z_][A-Za-z0-9_]*\s*(?:\.|\[|\()`. -/
def namesExpression : PyStr → Bool
  | [] => false
  | point :: rest =>
      keyPoint point && !digit point &&
        (((rest.dropWhile keyPoint).dropWhile space).head?.any fun next =>
          (PyStr.ofString ".[(").contains next)

structure SecretMatch where
  start : Nat
  kind : SecretKind
  covered : PyStr
  deriving DecidableEq, Repr

def SecretMatch.stop (found : SecretMatch) : Nat := found.start + found.covered.length

inductive Segment
  | kept (position point : Nat)
  | secret (found : SecretMatch)
  deriving DecidableEq, Repr

section Words

-- `str.isalnum`, of what is not ASCII
variable (alphanumeric : Nat → Bool)

/-- `\w`. -/
def wordPoint (point : Nat) : Bool :=
  asciiAlphanumeric point || decide (point = 0x5F) || (decide (0x80 ≤ point) && alphanumeric point)

/-- `(?:null|none|true|false)\b`. -/
def reservedWord (text : PyStr) : Bool :=
  [PyStr.ofString "null", .ofString "none", .ofString "true", .ofString "false"].any fun word =>
    (literal word text).any fun rest => !rest.head?.any (wordPoint alphanumeric)

/-- `_UNQUOTED_CREDENTIAL_VALUE`. -/
def unquotedValue (text : PyStr) : Option (ValueForm × Nat) :=
  if reservedWord alphanumeric text = true ∨ namesExpression text = true ∨
      (text.head?.any fun head => (PyStr.ofString "$(\x7b[").contains head) = true then none
  else
    match text.takeWhile valuePoint with
    | [] => none
    | run => some (.unquoted, run.length)

def credentialValue (text : PyStr) : Option (ValueForm × Nat) :=
  (quotedValue .double 0x22 text).or ((quotedValue .single 0x27 text).or
    (unquotedValue alphanumeric text))

def assignedValue (rest : PyStr) : Option (PyStr × ValueForm × Nat) :=
  if rest.head?.any keyPoint = true then none
  else
    match rest.dropWhile space with
    | [] => none
    | sign :: others =>
        if sign = 0x3D ∨ sign = 0x3A then
          (credentialValue alphanumeric (others.dropWhile space)).map fun value =>
            (others.dropWhile space, value)
        else none

/-- `credential`, at the start of a text that follows a point. -/
def credential (previous : Option Nat) (text : PyStr) : Option (SecretKind × Nat) :=
  if previous.any keyPoint = true then none
  else
    credentialKeyTexts.findSome? fun key =>
      (literal key text).bind fun rest =>
        (assignedValue alphanumeric rest).map fun assigned =>
          let prefixLength := text.length - assigned.1.length
          (.credential prefixLength assigned.2.1, prefixLength + assigned.2.2)

/-- `_SECRET_PATTERN.match`: what the pattern matches at the start of a text. -/
def secretAt (previous : Option Nat) (text : PyStr) : Option (SecretKind × Nat) :=
  ((privateKeyLength text).map fun length => (.privateKey, length)).or
    (credential alphanumeric previous text)

/-- The scan of `_SECRET_PATTERN.sub` over the rest of a text, from a position. -/
def scanFrom : Nat → Nat → Option Nat → PyStr → List Segment
  | 0, _, _, _ => []
  | _ + 1, _, _, [] => []
  | fuel + 1, position, previous, point :: rest =>
      match secretAt alphanumeric previous (point :: rest) with
      | none => .kept position point :: scanFrom fuel (position + 1) (some point) rest
      | some (kind, length) =>
          let covered := (point :: rest).take length
          .secret ⟨position, kind, covered⟩ ::
            scanFrom fuel (position + covered.length) covered.getLast? ((point :: rest).drop length)

def scan (text : PyStr) : List Segment := scanFrom alphanumeric text.length 0 none text

end Words

def Segment.match? : Segment → Option SecretMatch
  | .kept _ _ => none
  | .secret found => some found

/-- `_SECRET_PATTERN.finditer`. -/
def secrets (alphanumeric : Nat → Bool) (text : PyStr) : List SecretMatch :=
  (scan alphanumeric text).filterMap Segment.match?

def containsObviousSecret (alphanumeric : Nat → Bool) (text : PyStr) : Bool :=
  !(secrets alphanumeric text).isEmpty

end SynapseOS.Security
