import SynapseOS.Core.Fields

/-! The text that `json.dumps` makes of strings when `ensure_ascii` is on, and its length beside
that of the text that it makes when it is off. -/

namespace SynapseOS.Execution

def unitEscape (unit : Nat) : PyStr :=
  [0x5C, 0x75, hexDigit (unit / 4096 % 16), hexDigit (unit / 256 % 16), hexDigit (unit / 16 % 16),
    hexDigit (unit % 16)]

def asciiPoint (point : Nat) : PyStr :=
  if point = 0x22 then .ofString "\\\""
  else if point = 0x5C then .ofString "\\\\"
  else if point = 0x0A then .ofString "\\n"
  else if point = 0x0D then .ofString "\\r"
  else if point = 0x09 then .ofString "\\t"
  else if point = 0x0C then .ofString "\\f"
  else if point = 0x08 then .ofString "\\b"
  else if 0x20 ≤ point ∧ point ≤ 0x7E then [point]
  else if point < 0x10000 then unitEscape point
  else unitEscape (0xD800 + (point - 0x10000) / 0x400) ++ unitEscape
    (0xDC00 + (point - 0x10000) % 0x400)

def asciiQuote (text : PyStr) : PyStr := [0x22] ++ text.flatMap asciiPoint ++ [0x22]

inductive FlatValue
  | text (value : PyStr)
  | number (value : Nat)

def FlatValue.asciiText : FlatValue → PyStr
  | .text value => asciiQuote value
  | .number value => .ofString (toString value)

def FlatValue.value : FlatValue → PyValue
  | .text value => .string value
  | .number value => .integer value

abbrev FlatDict := List (PyStr × FlatValue)

/-- `json.dumps(value, separators=(",", ":"))`. -/
def FlatDict.asciiText (fields : FlatDict) : PyStr :=
  [0x7B] ++ commas (fields.map fun field => asciiQuote field.1 ++ [0x3A] ++ field.2.asciiText) ++
    [0x7D]

def FlatDict.value (fields : FlatDict) : PyValue :=
  .dict (fields.map fun field => (.string field.1, field.2.value))

def FlatValue.plainText : FlatValue → PyStr
  | .text value => quote value
  | .number value => .ofString (toString value)

def FlatDict.plainText (fields : FlatDict) : PyStr :=
  [0x7B] ++ commas (fields.map fun field => quote field.1 ++ [0x3A] ++ field.2.plainText) ++ [0x7D]

def FlatDict.Short (fields : FlatDict) : Prop :=
  ∀ field ∈ fields, ∀ number, field.2 = .number number → (toString number).length ≤ 4300

def byteLength (text : PyStr) : Nat := (text.map utf8Width).sum

section Bytes

@[simp] theorem byteLength_nil : byteLength [] = 0 := rfl

@[simp] theorem byteLength_cons (point : Nat) (text : PyStr) :
    byteLength (point :: text) = utf8Width point + byteLength text := by
  rw [byteLength, List.map_cons, List.sum_cons]
  rfl

@[simp] theorem byteLength_append (text rest : PyStr) :
    byteLength (text ++ rest) = byteLength text + byteLength rest := by
  rw [byteLength, List.map_append, List.sum_append]
  rfl

variable {text : PyStr}

theorem encodedLength_ok (valid : text.any surrogate = false) :
    encodedLength text = .ok (byteLength text) := by
  rw [encodedLength, valid, if_neg Bool.false_ne_true]
  rfl

theorem encodedLength_error (broken : text.any surrogate = true) :
    encodedLength text = .error .valueError := by
  rw [encodedLength, if_pos broken]

def escapedWidth (point : Nat) : Nat := byteLength (escapePoint point)

theorem quote_bytes (text : PyStr) : byteLength (quote text) = 2 + (text.map escapedWidth).sum := by
  have inner : byteLength (text.flatMap escapePoint) = (text.map escapedWidth).sum := by
    induction text with
    | nil => rfl
    | cons point rest ih =>
        rw [List.flatMap_cons, byteLength_append, ih, List.map_cons, List.sum_cons]
        rfl
  have mark : byteLength [0x22] = 1 := rfl
  rw [quote, byteLength_append, byteLength_append, inner, mark]
  omega

theorem commas_bytes (texts : List PyStr) :
    byteLength (commas texts) = (texts.map byteLength).sum + (texts.length - 1) := by
  induction texts with
  | nil => rfl
  | cons text rest ih =>
      cases rest with
      | nil => simp [commas]
      | cons next rest =>
          have joined : commas (text :: next :: rest) = text ++ 0x2C :: commas (next :: rest) := by
            simp [commas, List.intercalate]
          have mark : utf8Width 0x2C = 1 := rfl
          rw [joined, byteLength_append, byteLength_cons, ih, mark]
          simp only [List.map_cons, List.sum_cons, List.length_cons]
          omega

def shortEscape (point : Nat) : Bool := [0x22, 0x5C, 0x0A, 0x0D, 0x09, 0x0C, 0x08].contains point

theorem hexDigit_width {digit : Nat} (small : digit < 16) : utf8Width (hexDigit digit) = 1 := by
  have ascii : hexDigit digit < 0x80 := by
    unfold hexDigit
    split <;> omega
  rw [utf8Width, if_pos ascii]

theorem escapedWidth_eq (point : Nat) : escapedWidth point =
    if shortEscape point = true then 2 else if point < 0x20 then 6 else utf8Width point := by
  by_cases short : shortEscape point = true
  · rw [if_pos short]
    unfold shortEscape at short
    simp only [List.contains_iff_mem, List.mem_cons, List.not_mem_nil, or_false] at short
    rcases short with rfl | rfl | rfl | rfl | rfl | rfl | rfl <;> decide
  · rw [if_neg short]
    unfold shortEscape at short
    simp only [List.contains_iff_mem, List.mem_cons, List.not_mem_nil, or_false, not_or] at short
    obtain ⟨quoted, slash, feed, carriage, tab, form, back⟩ := short
    rw [escapedWidth, escapePoint, if_neg quoted, if_neg slash, if_neg feed,
      if_neg carriage, if_neg tab, if_neg form, if_neg back]
    split
    · next control =>
        have lead : byteLength (.ofString "\\u00") = 4 := by decide
        rw [byteLength_append, lead, byteLength_cons, byteLength_cons, hexDigit_width (by omega),
          hexDigit_width (by omega), byteLength_nil]
    · rw [byteLength_cons, byteLength_nil, Nat.add_zero]

theorem asciiPoint_length (point : Nat) : (asciiPoint point).length =
    if shortEscape point = true then 2 else if 0x20 ≤ point ∧ point ≤ 0x7E then 1
    else if point < 0x10000 then 6 else 12 := by
  by_cases short : shortEscape point = true
  · rw [if_pos short]
    unfold shortEscape at short
    simp only [List.contains_iff_mem, List.mem_cons, List.not_mem_nil, or_false] at short
    rcases short with rfl | rfl | rfl | rfl | rfl | rfl | rfl <;> decide
  · rw [if_neg short]
    unfold shortEscape at short
    simp only [List.contains_iff_mem, List.mem_cons, List.not_mem_nil, or_false, not_or] at short
    obtain ⟨quoted, slash, feed, carriage, tab, form, back⟩ := short
    rw [asciiPoint, if_neg quoted, if_neg slash, if_neg feed, if_neg carriage, if_neg tab,
      if_neg form, if_neg back]
    split
    · rfl
    · split <;> rfl

theorem escape_ascii (point : Nat) : escapedWidth point ≤ (asciiPoint point).length := by
  rw [escapedWidth_eq, asciiPoint_length]
  unfold utf8Width
  split_ifs <;> omega

theorem escapedWidth_le (point : Nat) : escapedWidth point ≤ 6 := by
  rw [escapedWidth_eq]
  unfold utf8Width
  split_ifs <;> omega

theorem quote_ascii (text : PyStr) : byteLength (quote text) ≤ (asciiQuote text).length := by
  have inner : (text.map escapedWidth).sum ≤ (text.flatMap asciiPoint).length := by
    rw [List.length_flatMap]
    exact List.sum_le_sum fun point _ => escape_ascii point
  rw [quote_bytes, asciiQuote, List.length_append, List.length_append, List.length_singleton]
  omega

end Bytes

section Surrogates

theorem surrogate_low {point : Nat} (low : point < 0xD800) : surrogate point = false :=
  decide_eq_false (by omega)

theorem any_surrogate_low {text : PyStr} (low : ∀ point ∈ text, point < 0xD800) :
    text.any surrogate = false := by
  rw [List.any_eq_false]
  intro point member
  rw [surrogate_low (low point member)]
  exact Bool.false_ne_true

theorem escapePoint_low {point : Nat} (low : point < 0x80) :
    ∀ unit ∈ escapePoint point, unit < 0x80 := by
  interval_cases point <;> decide

theorem escapePoint_high {point : Nat} (high : 0x80 ≤ point) : escapePoint point = [point] := by
  unfold escapePoint
  rw [if_neg (by omega), if_neg (by omega), if_neg (by omega), if_neg (by omega), if_neg (by omega),
    if_neg (by omega), if_neg (by omega), if_neg (by omega)]

theorem surrogate_escape (point : Nat) : (escapePoint point).any surrogate = surrogate point := by
  rcases lt_or_ge point 0x80 with low | high
  · have units : ∀ unit ∈ escapePoint point, unit < 0xD800 := fun unit member =>
      (escapePoint_low low unit member).trans (by decide)
    rw [any_surrogate_low units, surrogate_low (by omega)]
  · rw [escapePoint_high high, List.any_cons, List.any_nil, Bool.or_false]

theorem surrogate_quote (text : PyStr) : (quote text).any surrogate = text.any surrogate := by
  have inner : (text.flatMap escapePoint).any surrogate = text.any surrogate := by
    induction text with
    | nil => rfl
    | cons point rest ih => rw [List.flatMap_cons, List.any_append, ih, surrogate_escape,
        List.any_cons]
  have mark : [0x22].any surrogate = false := rfl
  rw [quote, List.any_append, List.any_append, inner, mark, Bool.false_or, Bool.or_false]

theorem surrogate_commas (texts : List PyStr) :
    (commas texts).any surrogate = texts.any fun text => text.any surrogate := by
  induction texts with
  | nil => rfl
  | cons text rest ih =>
      cases rest with
      | nil => simp [commas]
      | cons next rest =>
          have joined : commas (text :: next :: rest) = text ++ 0x2C :: commas (next :: rest) := by
            simp [commas, List.intercalate]
          have mark : surrogate 0x2C = false := rfl
          rw [joined, List.any_append, List.any_cons, ih, mark, Bool.false_or]
          rfl

end Surrogates

section Numbers

theorem digits_low (number : Nat) : ∀ point ∈ PyStr.ofString (toString number), point < 0x80 := by
  intro point member
  have digits : (toString number).toList = Nat.toDigits 10 number := by
    rw [Nat.toString_eq_repr, Nat.repr_eq_ofList_toDigits, String.toList_ofList]
  rw [PyStr.ofString, digits] at member
  obtain ⟨char, among, rfl⟩ := List.mem_map.mp member
  have found := Nat.isDigit_of_mem_toDigits (by decide) (by decide) among
  have small : char.toNat ≤ 0x39 := by
    have bounds := Char.isDigit_iff_toNat.mp found
    exact bounds.2
  omega

theorem digits_bytes (number : Nat) :
    byteLength (.ofString (toString number)) = (PyStr.ofString (toString number)).length := by
  have low := digits_low number
  generalize PyStr.ofString (toString number) = digits at low
  induction digits with
  | nil => rfl
  | cons point rest ih =>
      have narrow : utf8Width point = 1 := if_pos (low point List.mem_cons_self)
      rw [byteLength_cons, ih fun later member => low later (List.mem_cons_of_mem _ member), narrow,
        List.length_cons]
      exact Nat.add_comm _ _

theorem digits_valid (number : Nat) : (PyStr.ofString (toString number)).any surrogate = false :=
  any_surrogate_low fun point member => (digits_low number point member).trans (by decide)

theorem integerText_short {number : Nat} (short : (toString number).length ≤ 4300) :
    integerText number = .ok (.ofString (toString number)) := by
  rw [integerText, Int.natAbs_natCast, if_pos short]
  rfl

theorem integerText_long {number : Nat} (long : 4300 < (toString number).length) :
    integerText number = .error .valueError := by
  rw [integerText, Int.natAbs_natCast, if_neg (not_le.mpr long)]

theorem digits_short {number digits : Nat} (positive : 0 < digits) (small : number < 10 ^ digits) :
    (toString number).length ≤ digits := by
  have text : (toString number).length = (Nat.toDigits 10 number).length := by
    rw [Nat.toString_eq_repr, Nat.repr_eq_ofList_toDigits, String.length_ofList]
  rw [text]
  exact (Nat.length_toDigits_le_iff (by decide) positive).mpr small

end Numbers


section Flat

variable {fields : FlatDict}

def FlatValue.broken : FlatValue → Bool
  | .text value => value.any surrogate
  | .number _ => false

def FlatDict.broken (fields : FlatDict) : Bool := fields.any fun field =>
    field.1.any surrogate || field.2.broken

theorem jsonText_value (python : Interpreter) (remaining : Nat) {value : FlatValue}
    (short : ∀ number, value = .number number → (toString number).length ≤ 4300) :
    python.jsonText remaining value.value = .ok value.plainText := by
  cases value with
  | text value => cases remaining <;> rfl
  | number value =>
      have text := integerText_short (short value rfl)
      cases remaining <;> exact text

theorem jsonText_dict (python : Interpreter) (remaining : Nat) {α : Type} (items : List α)
    (key : α → PyStr) (value : α → PyValue) (text : α → PyStr)
    (each : ∀ item ∈ items, python.jsonText remaining (value item) = .ok (text item)) :
    python.jsonText (remaining + 1)
    (.dict (items.map fun item => (.string (key item), value item))) =
      .ok ([0x7B] ++ commas (items.map fun item => quote (key item) ++ [0x3A] ++ text item) ++
        [0x7D]) := by
  have texts : (items.map fun item => (PyValue.string (key item), value item)).mapM (fun entry => do
        let key ← python.keyText entry.1
        let value ← python.jsonText remaining entry.2
        (.ok (quote key ++ [0x3A] ++ value) : Except Tools.PyExn PyStr)) =
      .ok (items.map fun item => quote (key item) ++ [0x3A] ++ text item) := by
    rw [List.mapM_map]
    apply mapM_values
    intro item member
    show (do
      let value ← python.jsonText remaining (value item)
      (.ok (quote (key item) ++ [0x3A] ++ value) : Except Tools.PyExn PyStr)) = _
    rw [each item member]
    rfl
  rw [Interpreter.jsonText, texts]
  rfl

theorem jsonText_flat (python : Interpreter) (remaining : Nat) (short : fields.Short) :
    python.jsonText (remaining + 1) fields.value = .ok fields.plainText :=
  jsonText_dict python remaining fields Prod.fst (fun field => field.2.value)
    (fun field => field.2.plainText)
    fun field member => jsonText_value python remaining (short field member)

theorem quote_value_bytes (value : FlatValue) :
    byteLength value.plainText ≤ value.asciiText.length := by
  cases value with
  | text value => exact quote_ascii value
  | number value => exact (digits_bytes value).le

theorem intercalate_length (mark : Nat) (texts : List PyStr) :
    ([mark].intercalate texts).length = (texts.map List.length).sum + (texts.length - 1) := by
  induction texts with
  | nil => rfl
  | cons text rest ih =>
      cases rest with
      | nil => simp
      | cons next rest =>
          rw [List.intercalate_cons_cons, List.length_append, List.length_append, ih]
          simp only [List.map_cons, List.sum_cons, List.length_cons, List.length_nil]
          omega

theorem commas_length (texts : List PyStr) : (commas texts).length = (texts.map List.length).sum +
    (texts.length - 1) :=
  intercalate_length 0x2C texts

theorem plainText_bytes (fields : FlatDict) :
    byteLength fields.plainText ≤ fields.asciiText.length := by
  have parts :
    ((fields.map fun field => quote field.1 ++ [0x3A] ++ field.2.plainText).map byteLength).sum ≤
      ((fields.map fun field => asciiQuote field.1 ++ [0x3A] ++ field.2.asciiText).map
        List.length).sum := by
    rw [List.map_map, List.map_map]
    apply List.sum_le_sum
    intro field _
    have key := quote_ascii field.1
    have value := quote_value_bytes field.2
    have mark : byteLength [0x3A] = 1 := rfl
    simp only [Function.comp_apply, byteLength_append, List.length_append, mark,
      List.length_singleton]
    omega
  have marks : byteLength [0x7B] = 1 ∧ byteLength [0x7D] = 1 := ⟨rfl, rfl⟩
  rw [FlatDict.plainText, FlatDict.asciiText, byteLength_append, byteLength_append, commas_bytes,
    marks.1, marks.2,
    List.length_append, List.length_append, commas_length, List.length_map, List.length_map,
    List.length_singleton, List.length_singleton]
  omega

theorem plainText_broken (fields : FlatDict) : fields.plainText.any surrogate = fields.broken := by
  have marks : [0x7B].any surrogate = false ∧ [0x3A].any surrogate = false ∧
      [0x7D].any surrogate = false :=
    ⟨rfl, rfl, rfl⟩
  rw [FlatDict.plainText, List.any_append, List.any_append, surrogate_commas, marks.1, marks.2.2,
    Bool.false_or, Bool.or_false, List.any_map]
  unfold FlatDict.broken
  congr 1
  funext field
  have value : field.2.plainText.any surrogate = field.2.broken := by
    cases field.2 with
    | text value => exact surrogate_quote value
    | number value => exact digits_valid value
  rw [Function.comp_apply, List.any_append, List.any_append, surrogate_quote, marks.2.1, value,
    Bool.or_false]

end Flat

end SynapseOS.Execution
