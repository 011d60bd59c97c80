import Mathlib.Tactic

/-! Texts, their UTF-8 bytes, and an ASCII separator in them. -/

namespace SynapseOS.Utf8

def encode (text : List Char) : List UInt8 := text.flatMap String.utf8EncodeChar

section Encoding

variable (text rest : List Char) (char : Char)

@[simp] theorem encode_nil : encode [] = [] := rfl

@[simp] theorem encode_cons : encode (char :: text) = String.utf8EncodeChar char ++ encode text :=
  rfl

@[simp] theorem encode_append : encode (text ++ rest) = encode text ++ encode rest :=
  List.flatMap_append

theorem encode_eq_nil {text : List Char} : encode text = [] ↔ text = [] := by
  cases text with
  | nil => simp
  | cons char text => simp

theorem encode_utf8Encode : text.utf8Encode = ⟨(encode text).toArray⟩ := by
  apply ByteArray.ext
  exact List.data_toByteArray

theorem toByteArray_ofList : (String.ofList text).toByteArray = ⟨(encode text).toArray⟩ := by
  rw [String.toByteArray_ofList, encode_utf8Encode]

theorem fromUTF8_encode : String.fromUTF8? ⟨(encode text).toArray⟩ = some (String.ofList text) := by
  have valid := (String.ofList text).isValidUTF8
  rw [toByteArray_ofList] at valid
  unfold String.fromUTF8?
  rw [dif_pos valid]
  congr 1
  rw [← String.toByteArray_inj, toByteArray_ofList]
  rfl

theorem encode_of_fromUTF8 {bytes : List UInt8} {string : String}
    (decoded : String.fromUTF8? ⟨bytes.toArray⟩ = some string) : bytes = encode string.toList := by
  unfold String.fromUTF8? at decoded
  split at decoded
  · cases decoded
    rename_i valid
    have same := toByteArray_ofList (String.fromUTF8 ⟨bytes.toArray⟩ valid).toList
    rw [String.ofList_toList] at same
    exact congrArg (fun bytes : ByteArray => bytes.data.toList) same
  · cases decoded

theorem encode_injective : Function.Injective encode := by
  intro first second same
  have texts := fromUTF8_encode first
  rw [same, fromUTF8_encode] at texts
  exact String.ofList_injective (Option.some.inj texts).symm

end Encoding

theorem splitOn_along {α β : Type} [BEq α] [LawfulBEq α] [BEq β] [LawfulBEq β]
    {write : List α → List β} {first : α} {second : β}
    (joins : ∀ before after, write (before ++ first :: after) = write before ++
      second :: write after)
    (inside : ∀ text, second ∈ write text → first ∈ text) (text : List α) :
    (write text).splitOn second = (text.splitOn first).map write := by
  induction size : text.length using Nat.strong_induction_on generalizing text with
  | _ size ih =>
      by_cases found : first ∈ text
      · rcases List.eq_append_cons_of_mem found with ⟨before, after, rfl, apart⟩
        have later :=
          ih after.length (by rw [← size, List.length_append, List.length_cons]; omega) after rfl
        rw [joins, List.splitOn_append_cons_self_of_not_mem apart,
          List.splitOn_append_cons_self_of_not_mem fun among => apart (inside before among), later]
        rfl
      · rw [List.splitOn_eq_singleton found, List.splitOn_eq_singleton fun among =>
          found (inside text among)]
        rfl

section Separator

variable {separator : Char} {byte : UInt8} (marked : String.utf8EncodeChar separator = [byte])

include marked

theorem separator_narrow : separator.utf8Size = 1 := by
  rw [← String.length_utf8EncodeChar, marked]
  rfl

theorem separator_value : separator.val.toUInt8 = byte := by
  have bytes := String.utf8EncodeChar_eq_singleton (separator_narrow marked)
  rw [marked] at bytes
  exact (List.singleton_inj.mp bytes).symm

theorem separator_small : separator.val.toNat ≤ 0x7F := by
  have small := Char.utf8Size_eq_one_iff.mp (separator_narrow marked)
  rwa [UInt32.le_iff_toNat_le] at small

theorem byte_toNat : byte.toNat = separator.val.toNat := by
  have small := separator_small marked
  rw [← separator_value marked, UInt32.toNat_toUInt8]
  omega

theorem byte_wide (value : UInt8) {mask : UInt8} (high : 0x80 ≤ mask.toNat) :
    byte ≠ value ||| mask := by
  intro same
  have small := separator_small marked
  have bound : mask.toNat ≤ byte.toNat := by
    rw [same, UInt8.toNat_or]
    exact Nat.right_le_or
  rw [byte_toNat marked] at bound
  omega

theorem eq_separator {char : Char} (inside : byte ∈ String.utf8EncodeChar char) :
    char = separator := by
  have sizes : char.utf8Size = 1 ∨ char.utf8Size = 2 ∨ char.utf8Size = 3 ∨ char.utf8Size = 4 := by
    have lower := char.utf8Size_pos
    have upper := char.utf8Size_le_four
    omega
  rcases sizes with one | two | three | four
  · rw [String.utf8EncodeChar_eq_singleton one, List.mem_singleton] at inside
    have small := Char.utf8Size_eq_one_iff.mp one
    rw [UInt32.le_iff_toNat_le] at small
    have value := byte_toNat marked
    rw [inside, UInt32.toNat_toUInt8] at value
    have least : char.val.toNat ≤ 0x7F := small
    apply Char.ext
    apply UInt32.toNat_inj.mp
    omega
  · rw [String.utf8EncodeChar_eq_cons_cons two] at inside
    simp only [List.mem_cons, List.not_mem_nil, or_false] at inside
    rcases inside with first | second
    · exact absurd first (byte_wide marked _ (by decide))
    · exact absurd second (byte_wide marked _ (by decide))
  · rw [String.utf8EncodeChar_eq_cons_cons_cons three] at inside
    simp only [List.mem_cons, List.not_mem_nil, or_false] at inside
    rcases inside with first | second | third
    · exact absurd first (byte_wide marked _ (by decide))
    · exact absurd second (byte_wide marked _ (by decide))
    · exact absurd third (byte_wide marked _ (by decide))
  · rw [String.utf8EncodeChar_eq_cons_cons_cons_cons four] at inside
    simp only [List.mem_cons, List.not_mem_nil, or_false] at inside
    rcases inside with first | second | third | fourth
    · exact absurd first (byte_wide marked _ (by decide))
    · exact absurd second (byte_wide marked _ (by decide))
    · exact absurd third (byte_wide marked _ (by decide))
    · exact absurd fourth (byte_wide marked _ (by decide))

theorem mem_encode {text : List Char} : byte ∈ encode text ↔ separator ∈ text := by
  constructor
  · intro inside
    rcases List.mem_flatMap.mp inside with ⟨char, among, inside⟩
    rw [← eq_separator marked inside]
    exact among
  · intro among
    exact List.mem_flatMap.mpr ⟨separator, among, by rw [marked]; exact List.mem_singleton.mpr rfl⟩

/-- A text whose bytes split at the separator's splits there. -/
theorem encode_split {text : List Char} {front back : List UInt8}
    (split : encode text = front ++ byte :: back) :
    ∃ before after, text = before ++ separator :: after ∧ front = encode before ∧
    back = encode after := by
  induction text generalizing front with
  | nil =>
      rw [encode_nil] at split
      exact absurd split.symm (List.append_ne_nil_of_right_ne_nil _ (List.cons_ne_nil _ _))
  | cons char rest ih =>
      rw [encode_cons] at split
      by_cases same : char = separator
      · rw [same, marked] at split
        cases front with
        | nil =>
            rw [List.nil_append, List.singleton_append] at split
            exact ⟨[], rest, by rw [same]; rfl, rfl, (List.cons.inj split).2.symm⟩
        | cons first front =>
            rw [List.singleton_append, List.cons_append] at split
            rcases List.cons.inj split with ⟨rfl, later⟩
            rcases ih later with ⟨before, after, rfl, rfl, rfl⟩
            refine ⟨separator :: before, after, by rw [same]; rfl, ?_, rfl⟩
            rw [encode_cons, marked]
            rfl
      · rcases List.append_eq_append_iff.mp
          split with ⟨middle, whole, later⟩ | ⟨middle, whole, later⟩
        · rcases ih later with ⟨before, after, rfl, rfl, rfl⟩
          exact ⟨char :: before, after, rfl, whole, rfl⟩
        · cases middle with
          | nil =>
              rw [List.append_nil] at whole
              have next : encode rest = [] ++ byte :: back := later.symm
              rcases ih next with ⟨before, after, rfl, empty, rfl⟩
              refine ⟨char :: before, after, rfl, ?_, rfl⟩
              rw [encode_cons, ← empty, List.append_nil]
              exact whole.symm
          | cons first middle =>
              rcases List.cons.inj later with ⟨rfl, later⟩
              have inside : byte ∈ String.utf8EncodeChar char := by
                rw [whole]
                exact List.mem_append.mpr (.inr List.mem_cons_self)
              exact absurd (eq_separator marked inside) same

theorem encode_join (before after : List Char) :
    encode (before ++ separator :: after) = encode before ++ byte :: encode after := by
  rw [encode_append, encode_cons, marked]
  rfl

theorem encode_splitOn (text : List Char) :
    (encode text).splitOn byte = (text.splitOn separator).map encode :=
  splitOn_along (encode_join marked) (fun _ => (mem_encode marked).mp) text

end Separator

end SynapseOS.Utf8
