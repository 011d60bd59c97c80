import SynapseOS.Execution.AsciiJson
import SynapseOS.Lib.PrefixCode

/-! Reading back what the ASCII escapes of `json.dumps` stand for. -/

namespace SynapseOS.Execution

section Points

def hexUnit (digit : Nat) : Nat := if digit ≤ 0x39 then digit - 0x30 else digit - 0x57

def unitOf (first second third fourth : Nat) : Nat :=
  hexUnit first * 4096 + hexUnit second * 256 + hexUnit third * 16 + hexUnit fourth

def shortOf (mark : Nat) : Nat :=
  if mark = 0x6E then 0x0A else if mark = 0x72 then 0x0D else if mark = 0x74 then 0x09
  else if mark = 0x66 then 0x0C else if mark = 0x62 then 0x08 else mark

def readAscii : PyStr → Option (Nat × PyStr)
  | [] => none
  | point :: rest =>
      if point ≠ 0x5C then some (point, rest)
      else
        match rest with
        | 0x75 :: a :: b :: c :: d :: more =>
            if unitOf a b c d < 0xD800 ∨ 0xDBFF < unitOf a b c d then some (unitOf a b c d, more)
            else
              match more with
              | 0x5C :: 0x75 :: e :: f :: g :: h :: last =>
                  some (0x10000 + (unitOf a b c d - 0xD800) * 0x400 + (unitOf e f g h - 0xDC00),
                    last)
              | _ => none
        | mark :: more => some (shortOf mark, more)
        | [] => none

theorem hexUnit_hexDigit : ∀ digit < 16, hexUnit (hexDigit digit) = digit := by decide

theorem unitOf_digits {unit : Nat} (small : unit < 0x10000) : unitOf (hexDigit (unit / 4096 % 16))
    (hexDigit (unit / 256 % 16)) (hexDigit (unit / 16 % 16)) (hexDigit (unit % 16)) = unit := by
  rw [unitOf, hexUnit_hexDigit _ (Nat.mod_lt _ (by decide)),
    hexUnit_hexDigit _ (Nat.mod_lt _ (by decide)),
    hexUnit_hexDigit _ (Nat.mod_lt _ (by decide)), hexUnit_hexDigit _ (Nat.mod_lt _ (by decide))]
  omega

theorem readAscii_unit {unit : Nat} (small : unit < 0x10000) (plain : unit < 0xD800 ∨ 0xDBFF < unit)
    (rest : PyStr) : readAscii (unitEscape unit ++ rest) = some (unit, rest) := by
  show readAscii (0x5C :: 0x75 :: hexDigit (unit / 4096 % 16) :: hexDigit (unit / 256 % 16) ::
    hexDigit (unit / 16 % 16) :: hexDigit (unit % 16) :: rest) = _
  rw [readAscii.eq_def]
  simp only [unitOf_digits small, if_pos plain]
  rfl

theorem readAscii_pair {high low : Nat} (first : 0xD800 ≤ high ∧ high ≤ 0xDBFF)
    (second : low < 0x10000) (rest : PyStr) :
    readAscii (unitEscape high ++ unitEscape low ++ rest) =
      some (0x10000 + (high - 0xD800) * 0x400 + (low - 0xDC00), rest) := by
  show readAscii (0x5C :: 0x75 :: hexDigit (high / 4096 % 16) :: hexDigit (high / 256 % 16) ::
    hexDigit (high / 16 % 16) :: hexDigit (high % 16) :: 0x5C :: 0x75 :: hexDigit
      (low / 4096 % 16) ::
    hexDigit (low / 256 % 16) :: hexDigit (low / 16 % 16) :: hexDigit (low % 16) :: rest) = _
  rw [readAscii]
  simp only [unitOf_digits (show high < 0x10000 by omega), unitOf_digits second]
  rw [if_neg (by decide), if_neg (by omega)]

theorem readAscii_point {point : Nat} (valid : point < 0x110000 ∧ surrogate point = false)
    (rest : PyStr) : readAscii (asciiPoint point ++ rest) = some (point, rest) := by
  obtain ⟨top, whole⟩ := valid
  have apart : ¬ (0xD800 ≤ point ∧ point ≤ 0xDFFF) := of_decide_eq_false whole
  by_cases short : shortEscape point = true
  · unfold shortEscape at short
    simp only [List.contains_iff_mem, List.mem_cons, List.not_mem_nil, or_false] at short
    rcases short with rfl | rfl | rfl | rfl | rfl | rfl | rfl <;> rfl
  · unfold shortEscape at short
    simp only [List.contains_iff_mem, List.mem_cons, List.not_mem_nil, or_false, not_or] at short
    obtain ⟨quoted, slash, feed, carriage, tab, form, back⟩ := short
    rw [asciiPoint, if_neg quoted, if_neg slash, if_neg feed, if_neg carriage, if_neg tab,
      if_neg form, if_neg back]
    split
    · show readAscii (point :: rest) = _
      rw [readAscii.eq_def]
      exact if_pos slash
    · split
      · next narrow => exact readAscii_unit narrow (by omega) rest
      · next wide =>
          have value : 0x10000 + (0xD800 + (point - 0x10000) / 0x400 - 0xD800) * 0x400 +
              (0xDC00 + (point - 0x10000) % 0x400 - 0xDC00) = point := by omega
          rw [readAscii_pair (by omega) (by omega), value]

theorem asciiPoint_starts (point : Nat) :
    ∃ head tail, asciiPoint point = head :: tail ∧ head ≠ 0x22 := by
  unfold asciiPoint
  split
  · exact ⟨0x5C, _, rfl, by decide⟩
  split
  · exact ⟨0x5C, _, rfl, by decide⟩
  split
  · exact ⟨0x5C, _, rfl, by decide⟩
  split
  · exact ⟨0x5C, _, rfl, by decide⟩
  split
  · exact ⟨0x5C, _, rfl, by decide⟩
  split
  · exact ⟨0x5C, _, rfl, by decide⟩
  split
  · exact ⟨0x5C, _, rfl, by decide⟩
  split
  · next quoted _ _ _ _ _ _ _ => exact ⟨point, _, rfl, quoted⟩
  split
  · exact ⟨0x5C, _, rfl, by decide⟩
  · exact ⟨0x5C, _, rfl, by decide⟩

end Points

section Strings

def asciiText (text : String) : PyStr := asciiQuote (.ofString text)

theorem char_valid (char : Char) : char.toNat < 0x110000 ∧ surrogate char.toNat = false := by
  rcases char.valid with low | ⟨high, top⟩
  · have small : char.toNat < 0xD800 := low
    exact ⟨by omega, decide_eq_false (by omega)⟩
  · have above : 0xDFFF < char.toNat := high
    exact ⟨top, decide_eq_false (by omega)⟩

theorem char_delimits (char : Char) : Delimits (fun char : Char => asciiPoint char.toNat) char := by
  intro other rest behind same
  obtain ⟨points, later⟩ := delimits_read (fun point rest valid => readAscii_point valid rest)
    (char_valid char) (char_valid other) same
  exact ⟨Char.toNat_inj.mp points, later⟩

theorem asciiText_eq (text : String) (rest : PyStr) : asciiText text ++ rest =
    0x22 :: (text.toList.flatMap (fun char => asciiPoint char.toNat) ++ 0x22 :: rest) := by
  rw [asciiText, asciiQuote, PyStr.ofString, List.flatMap_map]
  simp

/-- The quoted text of a string ends at its quote. -/
theorem asciiText_delimits (text : String) : Delimits asciiText text := by
  intro other rest behind same
  rw [asciiText_eq, asciiText_eq] at same
  have apart : StartsApart (fun char : Char => asciiPoint char.toNat) 0x22 := fun char =>
    asciiPoint_starts char.toNat
  obtain ⟨chars, later⟩ := flatMap_delimits apart (fun char _ => char_delimits char)
    (List.cons.inj same).2
  exact ⟨String.toList_inj.mp chars, later⟩

end Strings

end SynapseOS.Execution
