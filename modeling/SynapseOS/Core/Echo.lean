import SynapseOS.Core.Fields

/-! The redaction of text that echoes its sources (`core/reviewer/decision.py`,
`core/qa/decision.py`). -/

namespace SynapseOS

open Execution

def markerTerms : List PyStr :=
  [.ofString "api_key", .ofString "apikey", .ofString "confidential", .ofString "credential",
    .ofString "marker", .ofString "passwd", .ofString "password", .ofString "private_key",
    .ofString "secret", .ofString "sensitive", .ofString "token"]

/-- `[A-Za-z0-9._-]`. -/
def markerPoint (point : Nat) : Bool :=
  asciiAlphanumeric point || [0x2E, 0x5F, 0x2D].contains point

/-- `_MARKER_TOKEN_PATTERN.findall`, of a text that is no longer than the fuel. -/
def markerTokens : Nat → PyStr → List PyStr
  | 0, _ => []
  | _, [] => []
  | fuel + 1, point :: rest =>
      let tail := rest.takeWhile markerPoint
      if asciiAlphanumeric point = true ∧ 3 ≤ tail.length then
        (point :: tail) :: markerTokens fuel (rest.dropWhile markerPoint)
      else markerTokens fuel rest

section Casefold

variable (casefold : PyStr → PyStr)

def obviousSecretMarkers (sources : List PyStr) : List PyStr :=
  sources.flatMap fun source =>
    ((markerTokens source.length source).map casefold).filter fun token =>
      markerTerms.any fun term => decide (term <:+: token)

def echoesSource (sources markers : List PyStr) (value : PyStr) : Bool :=
  let folded := casefold value
  sources.any (fun source => decide (casefold source <:+: folded)) ||
    markers.any fun marker => decide (marker <:+: folded)

def redactText (sources markers : List PyStr) (replacement value : PyStr) : PyStr :=
  if echoesSource casefold sources markers value = true then replacement else value

variable {casefold}

theorem redactText_either (holds : PyStr → Prop) {sources markers : List PyStr}
    {replacement value : PyStr} (replaced : holds replacement) (kept : holds value) :
    holds (redactText casefold sources markers replacement value) := by
  unfold redactText
  split
  · exact replaced
  · exact kept

end Casefold

end SynapseOS
