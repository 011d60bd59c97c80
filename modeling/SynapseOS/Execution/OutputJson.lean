import SynapseOS.Execution.AsciiJson
import SynapseOS.Execution.Exits

/-! The output of a tool as JSON, and the limit of its size. -/

namespace SynapseOS.Execution

open Tools

inductive OutputValue
  | flat (value : FlatValue)
  | flag (value : Bool)
  | items (dicts : List FlatDict)

def OutputValue.value : OutputValue → PyValue
  | .flat value => value.value
  | .flag value => .boolean value
  | .items dicts => .list (dicts.map FlatDict.value)

abbrev OutputDict := List (PyStr × OutputValue)

def OutputDict.fields (output : OutputDict) : Fields := output.map fun field =>
    (field.1, field.2.value)

def OutputValue.plainText : OutputValue → PyStr
  | .flat value => value.plainText
  | .flag value => booleanText value
  | .items dicts => [0x5B] ++ commas (dicts.map FlatDict.plainText) ++ [0x5D]

def OutputDict.plainText (output : OutputDict) : PyStr :=
  [0x7B] ++ commas (output.map fun field => quote field.1 ++ [0x3A] ++ field.2.plainText) ++ [0x7D]

def OutputValue.Short : OutputValue → Prop
  | .flat value => ∀ number, value = .number number → (toString number).length ≤ 4300
  | .flag _ => True
  | .items dicts => ∀ dict ∈ dicts, dict.Short

def OutputValue.broken : OutputValue → Bool
  | .flat value => value.broken
  | .flag _ => false
  | .items dicts => dicts.any FlatDict.broken

def OutputDict.broken (output : OutputDict) : Bool :=
  output.any fun field => field.1.any surrogate || field.2.broken

/-- The output as JSON is within the limit of a result. -/
def Bounded (python : Interpreter) (fields : Fields) : Prop :=
  ∃ bytes, python.jsonBytes (fieldsValue fields) = .ok bytes ∧ bytes ≤ 1048576

def Delivered (env : Collaborators) (fields : Fields) : Prop :=
  ∀ output, env.validateJson fields = .ok output →
    fieldsValue fields = .dict (pythonEntries output) →
    ∃ counts, checkOutput env (.mapping (.ofFields fields)) = .ok counts

section Checks

variable {env : Collaborators} {fields : Fields}

theorem copyFields_ok (few : fields.length ≤ 128) :
    copyFields (.mapping (.ofFields fields)) = .ok fields := by
  rw [copyFields]
  show (if 128 < fields.length then (.error .valueError : Except PyExn Fields) else _) = _
  rw [if_neg (not_lt.mpr few)]
  show (fields.map fun field => (PyValue.string field.1, field.2)).mapM _ = _
  rw [List.mapM_map]
  exact (mapM_values fun field _ => rfl).trans (congrArg Except.ok (List.map_id fields))

theorem bounded_delivered (few : fields.length ≤ 128) (bounded : Bounded env.python fields) :
    Delivered env fields := by
  obtain ⟨bytes, encoded, small⟩ := bounded
  intro output validated same
  have kept : boundedOutput env fields = .ok output := by
    simp only [boundedOutput, validated, bind, Except.bind, ← same, encoded, replaceMalformed,
      if_neg (not_lt.mpr small)]
  refine ⟨(fields.length, bytes), ?_⟩
  simp only [checkOutput, copyFields_ok few, encoded, kept, bind, Except.bind]

end Checks

section Text

variable {python : Interpreter} {output : OutputDict}

theorem jsonText_output (remaining : Nat) {value : OutputValue} (short : value.Short) :
    python.jsonText (remaining + 2) value.value = .ok value.plainText := by
  cases value with
  | flat value => exact jsonText_value python _ short
  | flag value => rfl
  | items dicts =>
      have texts : (dicts.map FlatDict.value).mapM (python.jsonText (remaining + 1)) =
          .ok (dicts.map FlatDict.plainText) := by
        rw [List.mapM_map]
        exact mapM_values fun dict member => jsonText_flat python remaining (short dict member)
      rw [OutputValue.value, Interpreter.jsonText, texts]
      rfl

theorem dumps_output (deep : 3 ≤ python.recursionLimit) (short : ∀ field ∈ output, field.2.Short) :
    python.dumps (fieldsValue output.fields) = .ok output.plainText := by
  obtain ⟨remaining, same⟩ := Nat.exists_eq_add_of_le' deep
  rw [Interpreter.dumps, same, fieldsValue, OutputDict.fields, List.map_map]
  exact jsonText_dict python (remaining + 2) output Prod.fst (fun field => field.2.value)
    (fun field => field.2.plainText) fun field member =>
      jsonText_output remaining (short field member)

theorem items_broken (dicts : List FlatDict) :
    (OutputValue.items dicts).plainText.any surrogate = dicts.any FlatDict.broken := by
  have marks : [0x5B].any surrogate = false ∧ [0x5D].any surrogate = false := ⟨rfl, rfl⟩
  rw [OutputValue.plainText, List.any_append, List.any_append, surrogate_commas, marks.1, marks.2,
    Bool.false_or, Bool.or_false, List.any_map]
  exact congrArg (List.any dicts) (funext fun dict => plainText_broken dict)

theorem output_broken (value : OutputValue) : value.plainText.any surrogate = value.broken := by
  cases value with
  | flat value =>
      cases value with
      | text value => exact surrogate_quote value
      | number value => exact digits_valid value
  | flag value => cases value <;> decide
  | items dicts => exact items_broken dicts

theorem outputText_broken (output : OutputDict) :
    output.plainText.any surrogate = output.broken := by
  have marks : [0x7B].any surrogate = false ∧ [0x3A].any surrogate = false ∧
      [0x7D].any surrogate = false :=
    ⟨rfl, rfl, rfl⟩
  rw [OutputDict.plainText, List.any_append, List.any_append, surrogate_commas, marks.1, marks.2.2,
    Bool.false_or, Bool.or_false, List.any_map]
  refine congrArg (List.any output) (funext fun field => ?_)
  rw [Function.comp_apply, List.any_append, List.any_append, surrogate_quote, marks.2.1,
    output_broken, Bool.or_false]

theorem output_bytes (output : OutputDict) : byteLength output.plainText =
    2 + (output.map fun field => byteLength (quote field.1) + 1 +
      byteLength field.2.plainText).sum + (output.length - 1) := by
  have marks : byteLength [0x7B] = 1 ∧ byteLength [0x3A] = 1 ∧ byteLength [0x7D] = 1 :=
    ⟨rfl, rfl, rfl⟩
  have parts :
    (output.map fun field => quote field.1 ++ [0x3A] ++ field.2.plainText).map byteLength =
      output.map fun field => byteLength (quote field.1) + 1 + byteLength field.2.plainText := by
    rw [List.map_map]
    refine List.map_congr_left fun field _ => ?_
    rw [Function.comp_apply, byteLength_append, byteLength_append, marks.2.1]
  rw [OutputDict.plainText, byteLength_append, byteLength_append, commas_bytes, parts,
    marks.1, marks.2.2, List.length_map]
  omega

theorem items_bytes (dicts : List FlatDict) : byteLength (OutputValue.items dicts).plainText ≤
    2 + (dicts.map fun dict => dict.asciiText.length).sum + (dicts.length - 1) := by
  have marks : byteLength [0x5B] = 1 ∧ byteLength [0x5D] = 1 := ⟨rfl, rfl⟩
  have parts : ((dicts.map FlatDict.plainText).map byteLength).sum ≤
      (dicts.map fun dict => dict.asciiText.length).sum := by
    rw [List.map_map]
    exact List.sum_le_sum fun dict _ => plainText_bytes dict
  rw [OutputValue.plainText, byteLength_append, byteLength_append, commas_bytes, marks.1, marks.2,
    List.length_map]
  omega

theorem quote_bound (text : PyStr) : byteLength (quote text) ≤ 2 + 6 * text.length := by
  have wide : (text.map escapedWidth).sum ≤ (text.map escapedWidth).length * 6 :=
    List.sum_le_card_nsmul _ 6 fun width member => by
      obtain ⟨point, _, rfl⟩ := List.mem_map.mp member
      exact escapedWidth_le point
  rw [quote_bytes]
  rw [List.length_map] at wide
  omega

/-- An output whose numbers are short is within the limit exactly if its text can be encoded and is
short enough. -/
theorem bounded_iff (deep : 3 ≤ python.recursionLimit) (short : ∀ field ∈ output, field.2.Short) :
    Bounded python output.fields ↔ output.broken = false ∧
    byteLength output.plainText ≤ 1048576 := by
  have text := dumps_output deep short
  rw [← outputText_broken]
  cases valid : output.plainText.any surrogate with
  | true =>
      refine iff_of_false ?_ (fun both => absurd both.1 (by decide))
      rintro ⟨bytes, encoded, _⟩
      rw [Interpreter.jsonBytes, text] at encoded
      cases (encodedLength_error valid).symm.trans encoded
  | false =>
      have encoded : python.jsonBytes (fieldsValue output.fields) =
          .ok (byteLength output.plainText) := by
        rw [Interpreter.jsonBytes, text]
        exact encodedLength_ok valid
      constructor
      · rintro ⟨bytes, known, small⟩
        cases encoded.symm.trans known
        exact ⟨rfl, small⟩
      · rintro ⟨_, small⟩
        exact ⟨_, encoded, small⟩

theorem bounded_short (bounded : Bounded python output.fields) {key : PyStr} {number : Nat}
    (member : (key, .flat (.number number)) ∈ output) : (toString number).length ≤ 4300 := by
  obtain ⟨bytes, encoded, _⟩ := bounded
  obtain ⟨text, dumped, _⟩ := bind_ok encoded
  by_contra long
  have failed : integerText number = .error .valueError := integerText_long (not_le.mp long)
  rw [Interpreter.dumps] at dumped
  cases limit : python.recursionLimit with
  | zero =>
      rw [limit] at dumped
      cases dumped
  | succ remaining =>
      rw [limit, fieldsValue, OutputDict.fields, List.map_map, Interpreter.jsonText] at dumped
      obtain ⟨texts, mapped, _⟩ := bind_ok dumped
      obtain ⟨value, written⟩ := mapM_accepts mapped _ (List.mem_map.mpr ⟨_, member, rfl⟩)
      obtain ⟨shown, _, written⟩ := bind_ok written
      obtain ⟨digits, made, _⟩ := bind_ok written
      have refused : python.jsonText remaining (.integer number) = .error .valueError := by
        cases remaining <;> exact failed
      cases refused.symm.trans made

end Text

end SynapseOS.Execution
