import SynapseOS.LocalGit.Output
import SynapseOS.Lib.Utf8

/-! The texts in the bytes that git writes. -/

namespace SynapseOS.LocalGit

open Execution

def points (text : List Char) : PyStr := text.map Char.toNat

def printed (text : List Char) : ByteArray := ⟨(Utf8.encode text).toArray⟩

section Points

@[simp] theorem points_nil : points [] = [] := rfl

@[simp] theorem points_cons (char : Char) (text : List Char) :
    points (char :: text) = char.toNat :: points text := rfl

@[simp] theorem points_append (text rest : List Char) :
    points (text ++ rest) = points text ++ points rest :=
  List.map_append

theorem points_injective : Function.Injective points :=
  List.map_injective_iff.mpr fun _ _ same => Char.toNat_inj.mp same

theorem mem_points {char : Char} {text : List Char} : char.toNat ∈ points text ↔ char ∈ text :=
  List.mem_map_of_injective fun _ _ same => Char.toNat_inj.mp same

theorem points_splitOn (separator : Char) (text : List Char) :
    (points text).splitOn separator.toNat = (text.splitOn separator).map points :=
  Utf8.splitOn_along (fun before after => points_append before (separator :: after))
    (fun _ => mem_points.mp) text

theorem ofString_points (text : String) : PyStr.ofString text = points text.toList := rfl

end Points

section Decoding

theorem decode_printed (text : List Char) : decode (printed text) = .ok (points text) := by
  unfold decode printed
  rw [Utf8.fromUTF8_encode]
  show Except.ok (PyStr.ofString (String.ofList text)) = _
  rw [PyStr.ofString_ofList]
  rfl

theorem decode_ok_iff {bytes : List UInt8} {value : PyStr} :
    decode ⟨bytes.toArray⟩ = .ok value ↔ ∃ text, bytes = Utf8.encode text ∧
    value = points text := by
  constructor
  · intro decoded
    unfold decode at decoded
    split at decoded
    · rename_i string read
      cases decoded
      exact ⟨string.toList, Utf8.encode_of_fromUTF8 read, rfl⟩
    · cases decoded
  · rintro ⟨text, rfl, rfl⟩
    exact decode_printed text

theorem decode_error {data : ByteArray} {raised : Raised} (failed : decode data = .error raised) :
    raised = .git .gitFailed := by
  unfold decode at failed
  split at failed
  · cases failed
  · cases failed
    rfl

end Decoding

theorem splitTwice_three (separator : Nat) {first second : PyStr} (third : PyStr)
    (before : separator ∉ first) (between : separator ∉ second) :
    splitTwice separator (first ++ separator :: (second ++ separator :: third)) = [first,
      second, third] := by
  unfold splitTwice
  rw [List.splitOn_append_cons_self_of_not_mem before,
    List.splitOn_append_cons_self_of_not_mem between]
  rcases pieces : third.splitOn separator with _ | ⟨piece, rest⟩
  · exact absurd pieces (List.splitOn_ne_nil separator third)
  · dsimp only
    rw [← pieces, List.intercalate_splitOn]

section Nul

theorem nul_marked : String.utf8EncodeChar '\x00' = [0] := rfl

variable {text : List Char} (without : '\x00' ∉ text)

include without

theorem nul_points : (0 : Nat) ∉ points text := fun among =>
  without (mem_points.mp (among : '\x00'.toNat ∈ points text))

theorem nul_bytes : (0 : UInt8) ∉ Utf8.encode text := fun inside =>
  without ((Utf8.mem_encode nul_marked).mp inside)

end Nul

def terminated (records : List (List Char)) : List Char := records.flatMap fun record =>
    record ++ ['\x00']

section Terminated

theorem terminated_cons (record : List Char) (records : List (List Char)) :
    terminated (record :: records) = record ++ '\x00' :: terminated records := by
  unfold terminated
  rw [List.flatMap_cons, List.append_assoc]
  rfl

theorem terminated_split {records : List (List Char)}
    (whole : ∀ record ∈ records, '\x00' ∉ record) :
    (points (terminated records)).splitOn 0 = records.map points ++ [[]] := by
  induction records with
  | nil => rfl
  | cons record rest ih =>
      rw [terminated_cons, points_append, points_cons]
      change List.splitOn 0 (points record ++ 0 :: points (terminated rest)) = _
      rw [List.splitOn_append_cons_self_of_not_mem (nul_points (whole record List.mem_cons_self)),
        ih fun other among => whole other (List.mem_cons_of_mem _ among)]
      rfl

theorem terminated_pieces {records : List (List Char)} (whole : ∀ record ∈ records, '\x00' ∉ record)
    (some_ : ∀ record ∈ records, record ≠ []) :
    ((points (terminated records)).splitOn 0).filter (fun piece => !piece.isEmpty) =
      records.map points := by
  rw [terminated_split whole, List.filter_append]
  have kept : (records.map points).filter (fun piece => !piece.isEmpty) = records.map points := by
    rw [List.filter_eq_self]
    intro piece among
    rcases List.mem_map.mp among with ⟨record, inside, rfl⟩
    simpa [points] using some_ record inside
  rw [kept]
  simp

end Terminated

section Blocks

theorem partitionZeros_cons {first : UInt8} (other : first ≠ 0) (rest : List UInt8) :
    partitionZeros (first :: rest) =
      (partitionZeros rest).map fun parts => (first :: parts.1, parts.2) := by
  cases rest with
  | nil => rfl
  | cons second rest => rw [partitionZeros, if_neg fun both => other both.1]

theorem partitionZeros_run {run : List UInt8} (without : 0 ∉ run) (rest : List UInt8) :
    partitionZeros (run ++ rest) =
      (partitionZeros rest).map fun parts => (run ++ parts.1, parts.2) := by
  induction run with
  | nil => simp
  | cons first run ih =>
      rw [List.mem_cons, not_or] at without
      rw [List.cons_append, partitionZeros_cons fun same => without.1 same.symm, ih without.2,
        Option.map_map]
      rfl

theorem partitionZeros_single {next : UInt8} (other : next ≠ 0) (rest : List UInt8) :
    partitionZeros (0 :: next :: rest) =
      (partitionZeros (next :: rest)).map fun parts => (0 :: parts.1, parts.2) := by
  rw [partitionZeros, if_neg fun both => other both.2]

def terminatedBytes (records : List (List UInt8)) : List UInt8 :=
  records.flatMap fun record => record ++ [0]

theorem terminatedBytes_cons (record : List UInt8) (records : List (List UInt8))
    (rest : List UInt8) :
    terminatedBytes (record :: records) ++ rest = record ++ 0 ::
      (terminatedBytes records ++ rest) := by
  unfold terminatedBytes
  rw [List.flatMap_cons, List.append_assoc, List.append_assoc]
  rfl

theorem encode_terminated (records : List (List Char)) :
    Utf8.encode (terminated records) = terminatedBytes (records.map Utf8.encode) := by
  induction records with
  | nil => rfl
  | cons record rest ih =>
      have bytes := terminatedBytes_cons (Utf8.encode record) (rest.map Utf8.encode) []
      rw [List.append_nil, List.append_nil] at bytes
      rw [terminated_cons, Utf8.encode_join nul_marked, ih, List.map_cons, bytes]

theorem partition_records {records : List (List UInt8)} (present : records ≠ [])
    (whole : ∀ record ∈ records, record ≠ [] ∧ 0 ∉ record) :
    ∃ front, terminatedBytes records = front ++ [0] ∧ ∀ patch,
      partitionZeros (terminatedBytes records ++ 0 :: patch) = some (front, patch) := by
  induction records with
  | nil => exact absurd rfl present
  | cons record rest ih =>
      have first := whole record List.mem_cons_self
      have bytes := terminatedBytes_cons record rest []
      rw [List.append_nil, List.append_nil] at bytes
      cases rest with
      | nil =>
          refine ⟨record, bytes, ?_⟩
          intro patch
          rw [terminatedBytes_cons, partitionZeros_run first.2]
          show (partitionZeros (0 :: 0 :: patch)).map _ = _
          rw [partitionZeros, if_pos ⟨rfl, rfl⟩, Option.map_some, List.append_nil]
      | cons second rest =>
          rcases ih (List.cons_ne_nil _ _) fun other among =>
            whole other (List.mem_cons_of_mem _ among) with
            ⟨front, block, splits⟩
          refine ⟨record ++ 0 :: front, ?_, ?_⟩
          · rw [bytes, block, List.append_assoc]
            rfl
          · intro patch
            have found := splits patch
            have later := whole second (List.mem_cons_of_mem _ List.mem_cons_self)
            rcases second with _ | ⟨next, tail⟩
            · exact absurd rfl later.1
            · have other : next ≠ 0 := fun zero => later.2 (zero ▸ List.mem_cons_self)
              rw [terminatedBytes_cons _ _ (0 :: patch), List.cons_append] at found
              rw [terminatedBytes_cons, partitionZeros_run first.2, terminatedBytes_cons,
                List.cons_append,
                partitionZeros_single other, found, Option.map_some, Option.map_some]

theorem partitionZeros_some {bytes front rest : List UInt8}
    (found : partitionZeros bytes = some (front, rest)) :
    bytes = front ++ 0 :: 0 :: rest := by
  induction bytes generalizing front with
  | nil => cases found
  | cons first bytes ih =>
      cases bytes with
      | nil => cases found
      | cons second bytes =>
          rw [partitionZeros] at found
          split at found
          · rename_i zeros
            cases found
            rw [zeros.1, zeros.2]
            rfl
          · rcases Option.map_eq_some_iff.mp found with ⟨parts, inner, same⟩
            cases same
            rw [ih inner]
            rfl

theorem partitionZeros_append {bytes front rest : List UInt8}
    (found : partitionZeros bytes = some (front, rest))
    (more : List UInt8) : partitionZeros (bytes ++ more) = some (front, rest ++ more) := by
  induction bytes generalizing front with
  | nil => cases found
  | cons first bytes ih =>
      cases bytes with
      | nil => cases found
      | cons second bytes =>
          rw [partitionZeros] at found
          rw [List.cons_append, List.cons_append, partitionZeros]
          split at found
          · rename_i zeros
            cases found
            rw [if_pos zeros]
          · rename_i other
            rcases Option.map_eq_some_iff.mp found with ⟨parts, inner, same⟩
            cases same
            have later := ih inner
            rw [List.cons_append] at later
            rw [if_neg other, later]
            rfl

end Blocks

section Decimals

def decimal (value : Nat) : List Char := Nat.toDigits 10 value

theorem decimal_digit {char : Char} {value : Nat} (among : char ∈ decimal value) :
    0x30 ≤ char.toNat ∧ char.toNat ≤ 0x39 := by
  have found := Nat.isDigit_of_mem_toDigits (by decide) (by decide) among
  simp only [Char.isDigit, Bool.and_eq_true, decide_eq_true_eq, ge_iff_le, UInt32.le_iff_toNat_le]
    at found
  exact found

theorem nul_decimal (value : Nat) : '\x00' ∉ decimal value := by
  intro among
  have digit := decimal_digit among
  simp at digit

theorem fold_decimal (text : List Char) (start : Nat) :
    (points text).foldl (fun value point => 10 * value + (point - 0x30)) start =
      Nat.ofDigitChars 10 text start := by
  rw [Nat.ofDigitChars_eq_foldl, points, List.foldl_map]
  rfl

theorem digits_decimal {value : Nat} (small : value < 2 ^ 64) :
    digits (points (decimal value)) = some value := by
  have short : (decimal value).length ≤ 20 :=
    (Nat.length_toDigits_le_iff (by decide) (by decide)).mpr (small.trans (by decide))
  have every : (points (decimal value)).all digit = true := by
    rw [List.all_eq_true]
    intro point among
    rcases List.mem_map.mp among with ⟨char, inside, rfl⟩
    exact decide_eq_true (decimal_digit inside)
  unfold digits
  rw [if_pos, fold_decimal]
  · exact congrArg some Nat.ofDigitChars_ten_toDigits
  · refine ⟨?_, ?_, every⟩
    · intro empty
      exact Nat.toDigits_ne_nil (List.map_eq_nil_iff.mp empty)
    · rw [points, List.length_map]
      exact short.trans (by decide)

end Decimals

/-- A path as git reports it: it has a character, and none is a NUL. -/
structure ReportedPath where
  text : List Char
  some_ : text ≠ []
  whole : '\x00' ∉ text

def ReportedPath.points (path : ReportedPath) : PyStr := LocalGit.points path.text

end SynapseOS.LocalGit
