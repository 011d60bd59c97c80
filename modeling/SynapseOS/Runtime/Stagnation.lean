import Mathlib.Data.List.DropRight
import SynapseOS.Runtime.Types

/-! The stagnation detector (`core/runtime/stagnation.py`). -/

namespace SynapseOS.Runtime

open Tools

/-- `_Shape = str | list[_Shape] | dict[str, _Shape]`. -/
inductive Shape
  | scalar (name : String)
  | list (items : List Shape)
  | dict (entries : List (String × Shape))

mutual

def shape : JsonValue → Shape
  | .null => .scalar "null"
  | .boolean _ => .scalar "boolean"
  | .string _ => .scalar "string"
  | .integer _ => .scalar "integer"
  | .number _ => .scalar "number"
  | .list items => .list (shapes items)
  | .dict entries =>
      .dict ((entryShapes entries).mergeSort fun left right => decide (left.1 ≤ right.1))

def shapes : List JsonValue → List Shape
  | [] => []
  | item :: rest => shape item :: shapes rest

def entryShapes : List (String × JsonValue) → List (String × Shape)
  | [] => []
  | (key, value) :: rest => (key, shape value) :: entryShapes rest

end

structure Canonical where
  action : RuntimeAction
  toolName : Option Identifier
  argumentShape : Shape
  verificationOutcome : Option RuntimeVerificationOutcome
  toolErrorCode : Option ToolErrorCode

structure StagnationDetector where
  window : Nat
  digests : List String := []
  window_bounds : 2 ≤ window ∧ window ≤ 20

/-- `observe`; `fingerprint` is the hexadecimal SHA-256 of the encoded dictionary. -/
def StagnationDetector.observe (fingerprint : Canonical → String) (detector : StagnationDetector)
    (decision : RuntimeDecision) (verification : Option RuntimeVerification)
    (toolErrorCode : Option ToolErrorCode) : Bool × StagnationDetector :=
  let digest := fingerprint
    { action := decision.action
      toolName := decision.toolName
      argumentShape := shape (.dict decision.arguments)
      verificationOutcome := verification.map fun v => v.outcome
      toolErrorCode := toolErrorCode }
  let kept :=
    match detector.digests.getLast? with
    | some last => if last ≠ digest then [] else detector.digests
    | none => []
  let digests := (kept ++ [digest]).rtake detector.window
  (decide (digests.length = detector.window), { detector with digests := digests })

end SynapseOS.Runtime
