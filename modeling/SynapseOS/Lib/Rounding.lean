import Mathlib.Data.Int.Log
import Mathlib.Data.Rat.Floor
import Mathlib.Tactic

/-! Rounding of rationals, as decimal and binary floating point do it. -/

namespace SynapseOS

namespace Rounding

def halfEven (q : ℚ) : ℤ :=
  if q - ⌊q⌋ < 1 / 2 then ⌊q⌋
  else if 1 / 2 < q - ⌊q⌋ then ⌊q⌋ + 1
  else if ⌊q⌋ % 2 = 0 then ⌊q⌋
  else ⌊q⌋ + 1

def halfUp (q : ℚ) : ℤ := ⌊q + 1 / 2⌋

/-- To so many significant digits in a base. -/
def significant (base digits : Nat) (q : ℚ) : ℚ :=
  if q = 0 then 0
  else
    let shift : ℤ := digits - 1 - Int.log base |q|
    halfEven (q * (base : ℚ) ^ shift) / (base : ℚ) ^ shift

theorem halfEven_le {q : ℚ} {n : ℤ} (bounded : q ≤ n) : halfEven q ≤ n := by
  have floor : ⌊q⌋ ≤ n := Int.cast_le.mp ((Int.floor_le q).trans bounded)
  unfold halfEven
  split
  · exact floor
  · next high =>
      have strict : ⌊q⌋ < n := by
        refine lt_of_le_of_ne floor fun same => ?_
        rw [same] at high
        linarith
      split
      · omega
      · split
        · exact floor
        · omega

theorem le_halfEven {q : ℚ} {n : ℤ} (bounded : n ≤ q) : n ≤ halfEven q := by
  have floor : n ≤ ⌊q⌋ := Int.le_floor.mpr bounded
  unfold halfEven
  split
  · exact floor
  · split
    · omega
    · split
      · exact floor
      · omega

theorem halfEven_int (n : ℤ) : halfEven n = n := by
  have low : halfEven n ≤ n := halfEven_le le_rfl
  have high : n ≤ halfEven n := le_halfEven le_rfl
  omega

theorem halfEven_mono {a b : ℚ} (le : a ≤ b) : halfEven a ≤ halfEven b := by
  rcases (Int.floor_le_floor le).lt_or_eq with below | same
  · calc
      halfEven a ≤ ⌊a⌋ + 1 := halfEven_le (by push_cast; exact (Int.lt_floor_add_one a).le)
      _ ≤ ⌊b⌋ := below
      _ ≤ halfEven b := le_halfEven (Int.floor_le b)
  · unfold halfEven
    rw [same]
    split_ifs
    all_goals first | omega | (exfalso; linarith)

theorem halfEven_neg (q : ℚ) : halfEven (-q) = -halfEven q := by
  rcases (Int.floor_le q).lt_or_eq with between | whole
  · have flip : ⌊-q⌋ = -⌊q⌋ - 1 := by
      have next := Int.lt_floor_add_one q
      rw [Int.floor_eq_iff]
      push_cast
      constructor
      · linarith
      · linarith
    unfold halfEven
    rw [flip]
    push_cast
    split_ifs
    all_goals first | omega | (exfalso; linarith)
  · rw [← whole, ← Int.cast_neg, halfEven_int, halfEven_int]

theorem halfUp_mono {a b : ℚ} (le : a ≤ b) : halfUp a ≤ halfUp b :=
  Int.floor_le_floor (by linarith)

theorem significant_neg (base digits : Nat) (q : ℚ) :
    significant base digits (-q) = -significant base digits q := by
  unfold significant
  by_cases zero : q = 0
  · rw [if_pos zero, if_pos (neg_eq_zero.mpr zero), neg_zero]
  · rw [if_neg zero, if_neg (neg_ne_zero.mpr zero), abs_neg]
    dsimp only
    rw [neg_mul, halfEven_neg, Int.cast_neg, neg_div]

section Digits

variable {base digits : Nat} (proper : 1 < base) (some_ : 1 ≤ digits)

include proper

/-- A value that has no more digits is not rounded. -/
theorem significant_exact {q : ℚ} {n : ℤ}
    (whole : q * (base : ℚ) ^ ((digits : ℤ) - 1 - Int.log base |q|) = n) :
    significant base digits q = q := by
  have nonzero : (base : ℚ) ≠ 0 := by positivity
  unfold significant
  split
  · next zero => exact zero.symm
  · dsimp only
    rw [whole, halfEven_int, ← whole]
    exact mul_div_cancel_right₀ q (zpow_ne_zero _ nonzero)

include some_

theorem significant_decade {q : ℚ} (positive : 0 < q) :
    (base : ℚ) ^ Int.log base q ≤ significant base digits q ∧
      significant base digits q ≤ (base : ℚ) ^ (Int.log base q + 1) := by
  have nonzero : (base : ℚ) ≠ 0 := by positivity
  have low : (base : ℚ) ^ Int.log base q ≤ q := Int.zpow_log_le_self proper positive
  have high : q < (base : ℚ) ^ (Int.log base q + 1) := Int.lt_zpow_succ_log_self proper q
  unfold significant
  rw [if_neg positive.ne', abs_of_pos positive]
  generalize Int.log base q = exponent at low high ⊢
  dsimp only
  obtain ⟨rest, rfl⟩ : ∃ rest, digits = rest + 1 := ⟨digits - 1, by omega⟩
  have scale : (0 : ℚ) < (base : ℚ) ^ (((rest + 1 : Nat) : ℤ) - 1 - exponent) := by positivity
  have lower : (base : ℚ) ^ exponent * (base : ℚ) ^ (((rest + 1 : Nat) : ℤ) - 1 - exponent) =
      ((base ^ rest : Nat) : ℤ) := by
    rw [← zpow_add₀ nonzero]
    push_cast
    rw [← zpow_natCast]
    congr 1
    ring
  have upper : (base : ℚ) ^ (exponent + 1) * (base : ℚ) ^ (((rest + 1 : Nat) : ℤ) - 1 - exponent) =
      ((base ^ (rest + 1) : Nat) : ℤ) := by
    rw [← zpow_add₀ nonzero]
    push_cast
    rw [← zpow_natCast]
    congr 1
    push_cast
    ring
  constructor
  · rw [le_div_iff₀ scale, lower, Int.cast_le]
    apply le_halfEven
    rw [← lower]
    exact mul_le_mul_of_nonneg_right low scale.le
  · rw [div_le_iff₀ scale, upper, Int.cast_le]
    apply halfEven_le
    rw [← upper]
    exact mul_le_mul_of_nonneg_right high.le scale.le

theorem significant_pos {q : ℚ} (positive : 0 < q) : 0 < significant base digits q := by
  have least : 0 < (base : ℚ) ^ Int.log base q := by positivity
  exact least.trans_le (significant_decade proper some_ positive).1

theorem significant_mono_pos {a b : ℚ} (positive : 0 < a) (le : a ≤ b) :
    significant base digits a ≤ significant base digits b := by
  have above : 0 < b := positive.trans_le le
  rcases (Int.log_mono_right (b := base) positive le).lt_or_eq with below | same
  · calc
      significant base digits a ≤ (base : ℚ) ^ (Int.log base a + 1) :=
        (significant_decade proper some_ positive).2
      _ ≤ (base : ℚ) ^ Int.log base b :=
        zpow_le_zpow_right₀ (by exact_mod_cast proper.le) below
      _ ≤ significant base digits b := (significant_decade proper some_ above).1
  · unfold significant
    rw [if_neg positive.ne', if_neg above.ne', abs_of_pos positive, abs_of_pos above, same]
    have scale : (0 : ℚ) < (base : ℚ) ^ ((digits : ℤ) - 1 - Int.log base b) := by positivity
    apply div_le_div_of_nonneg_right _ scale.le
    rw [Int.cast_le]
    exact halfEven_mono (mul_le_mul_of_nonneg_right le scale.le)

theorem significant_nonneg {q : ℚ} (nonneg : 0 ≤ q) : 0 ≤ significant base digits q := by
  rcases nonneg.eq_or_lt with rfl | positive
  · rw [significant, if_pos rfl]
  · exact (significant_pos proper some_ positive).le

theorem significant_mono {a b : ℚ} (le : a ≤ b) :
    significant base digits a ≤ significant base digits b := by
  rcases lt_or_ge 0 a with positive | nonpos
  · exact significant_mono_pos proper some_ positive le
  · have opposite : significant base digits a = -significant base digits (-a) := by
      rw [significant_neg, neg_neg]
    rcases lt_or_ge b 0 with negative | nonneg
    · have turned : significant base digits b = -significant base digits (-b) := by
        rw [significant_neg, neg_neg]
      rw [opposite, turned]
      exact neg_le_neg (significant_mono_pos proper some_ (neg_pos.mpr negative) (neg_le_neg le))
    · calc
        significant base digits a = -significant base digits (-a) := opposite
        _ ≤ 0 := neg_nonpos.mpr (significant_nonneg proper some_ (neg_nonneg.mpr nonpos))
        _ ≤ significant base digits b := significant_nonneg proper some_ nonneg

end Digits

section Unit

variable {q : ℚ} (nonneg : 0 ≤ q) (small : q ≤ 1)

include nonneg small

theorem halfUp_unit (scale : Nat) : 0 ≤ halfUp (q * scale) ∧ halfUp (q * scale) ≤ scale := by
  have positive : (0 : ℚ) ≤ scale := Nat.cast_nonneg scale
  have above : q * scale ≤ scale := mul_le_of_le_one_left positive small
  unfold halfUp
  constructor
  · apply Int.floor_nonneg.mpr
    positivity
  · apply Int.lt_add_one_iff.mp
    apply Int.floor_lt.mpr
    push_cast
    linarith

theorem significant_unit {base digits : Nat} (proper : 1 < base) (some : 1 ≤ digits) :
    0 ≤ significant base digits q ∧ significant base digits q ≤ 1 := by
  unfold significant
  split
  · norm_num
  · next nonzero =>
      have positive : 0 < q := lt_of_le_of_ne nonneg (Ne.symm nonzero)
      have log : Int.log base |q| ≤ 0 := by
        rw [abs_of_pos positive]
        have mono := Int.log_mono_right (b := base) positive small
        simpa using mono
      obtain ⟨shift, shifts⟩ := Int.eq_ofNat_of_zero_le
        (show 0 ≤ (digits : ℤ) - 1 - Int.log base |q| by omega)
      have scale : (0 : ℚ) < (base : ℚ) ^ shift := by positivity
      have power : (((base ^ shift : Nat) : ℤ) : ℚ) = (base : ℚ) ^ shift := by push_cast; rfl
      dsimp only
      rw [shifts, zpow_natCast]
      constructor
      · apply div_nonneg _ scale.le
        have low : ((0 : ℤ) : ℚ) ≤ q * (base : ℚ) ^ shift := by
          push_cast
          positivity
        exact_mod_cast le_halfEven low
      · rw [div_le_one scale, ← power]
        have high : q * (base : ℚ) ^ shift ≤ ((base ^ shift : Nat) : ℤ) := by
          rw [power]
          exact mul_le_of_le_one_left scale.le small
        rw [← power] at high
        exact_mod_cast halfEven_le high

end Unit

end Rounding

end SynapseOS
