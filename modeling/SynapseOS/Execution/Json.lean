import SynapseOS.Tools.Errors

/-! Python values and the text that `json.dumps` makes of them. -/

namespace SynapseOS.Execution

open Tools

/-- A Python string: its code points, lone surrogates included. -/
abbrev PyStr := List Nat

instance : LawfulBEq PyStr := inferInstance

def PyStr.ofString (text : String) : PyStr := text.toList.map Char.toNat

theorem PyStr.ofString_ofList (points : List Char) :
    PyStr.ofString (String.ofList points) = points.map Char.toNat := by
  unfold PyStr.ofString
  rw [String.toList_ofList]

theorem PyStr.ofString_injective : Function.Injective PyStr.ofString := by
  intro first second same
  have points : Function.Injective Char.toNat := fun _ _ equal => Char.toNat_inj.mp equal
  exact String.toList_inj.mp (List.map_injective_iff.mpr points same)

def surrogate (point : Nat) : Bool := decide (0xD800 ≤ point ∧ point ≤ 0xDFFF)

def utf8Width (point : Nat) : Nat :=
  if point < 0x80 then 1 else if point < 0x800 then 2 else if point < 0x10000 then 3 else 4

/-- `len(text.encode("utf-8"))`. -/
def encodedLength (text : PyStr) : Except PyExn Nat :=
  if text.any surrogate = true then .error .valueError else .ok (text.map utf8Width).sum

/-- A Python object as the encoder sees it. -/
inductive PyValue
  | null
  | boolean (value : Bool)
  | integer (value : Int)
  | number (value : PyFloat)
  | string (value : PyStr)
  | list (items : List PyValue)
  | tuple (items : List PyValue)
  | dict (entries : List (PyValue × PyValue))
  /-- A container that is being encoded already. -/
  | cycle
  /-- Any other object, with what the encoder raises on it. -/
  | object (raised : PyExn)

/-- The interpreter: how deep the encoder can recurse, and `float.__repr__`. -/
structure Interpreter where
  recursionLimit : Nat
  floatRepr : ℚ → PyStr

def hexDigit (digit : Nat) : Nat := if digit < 10 then 0x30 + digit else 0x57 + digit

def escapePoint (point : Nat) : PyStr :=
  if point = 0x22 then .ofString "\\\""
  else if point = 0x5C then .ofString "\\\\"
  else if point = 0x0A then .ofString "\\n"
  else if point = 0x0D then .ofString "\\r"
  else if point = 0x09 then .ofString "\\t"
  else if point = 0x0C then .ofString "\\f"
  else if point = 0x08 then .ofString "\\b"
  else if point < 0x20 then .ofString "\\u00" ++ [hexDigit (point / 16), hexDigit (point % 16)]
  else [point]

def quote (text : PyStr) : PyStr := [0x22] ++ text.flatMap escapePoint ++ [0x22]

/-- `int.__repr__`, which refuses more than 4300 digits. -/
def integerText (value : Int) : Except PyExn PyStr :=
  if (toString value.natAbs).length ≤ 4300 then .ok (.ofString (toString value))
  else .error .valueError

def Interpreter.floatText (python : Interpreter) : PyFloat → Except PyExn PyStr
  | .finite value => .ok (python.floatRepr value)
  | .infinite _ | .nan => .error .valueError

def booleanText (value : Bool) : PyStr := .ofString (if value then "true" else "false")

def Interpreter.keyText (python : Interpreter) : PyValue → Except PyExn PyStr
  | .string text => .ok text
  | .number value => python.floatText value
  | .boolean value => .ok (booleanText value)
  | .null => .ok (.ofString "null")
  | .integer value => integerText value
  | .list _ | .tuple _ | .dict _ | .cycle | .object _ => .error .typeError

def commas (texts : List PyStr) : PyStr := [0x2C].intercalate texts

/-- The text of a value; every container takes one of the `remaining` recursive calls. -/
def Interpreter.jsonText (python : Interpreter) (remaining : Nat) (value : PyValue) :
    Except PyExn PyStr :=
  match remaining, value with
  | _, .null => .ok (.ofString "null")
  | _, .boolean value => .ok (booleanText value)
  | _, .integer value => integerText value
  | _, .number value => python.floatText value
  | _, .string text => .ok (quote text)
  | _, .cycle => .error .valueError
  | _, .object raised => .error raised
  | 0, .list _ | 0, .tuple _ | 0, .dict _ => .error .recursionError
  | remaining + 1, .list items | remaining + 1, .tuple items => do
      let texts ← items.mapM (python.jsonText remaining)
      .ok ([0x5B] ++ commas texts ++ [0x5D])
  | remaining + 1, .dict entries => do
      let texts ← entries.mapM fun entry => do
        let key ← python.keyText entry.1
        let value ← python.jsonText remaining entry.2
        .ok (quote key ++ [0x3A] ++ value)
      .ok ([0x7B] ++ commas texts ++ [0x7D])

/-- `json.dumps(value, allow_nan=False, ensure_ascii=False, separators=(",", ":"))`. -/
def Interpreter.dumps (python : Interpreter) (value : PyValue) : Except PyExn PyStr :=
  python.jsonText python.recursionLimit value

def Interpreter.jsonBytes (python : Interpreter) (value : PyValue) : Except PyExn Nat := do
  let text ← python.dumps value
  encodedLength text

def nested : Nat → PyValue
  | 0 => .list []
  | depth + 1 => .list [nested depth]

end SynapseOS.Execution
