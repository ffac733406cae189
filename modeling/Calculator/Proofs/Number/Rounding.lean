/-
# Calculator.Proofs.Number.Rounding — quotients as rational numbers, and floats that need no rounding

Rounding works on a numerator and a denominator.  Here such a pair is read as the rational number it
stands for (`value`), where shifting is multiplication by a power of two and the binade of a number
is an inequality (`floorLog2_spec`).

The result is about the numbers that are floats already.  A significand with its unit is its own
nearest float (`nearest_of_value_eq`), so rounding what some bits stand for gives these bits back
(`nearest_of_bits`).  How other numbers are rounded is not looked at.
-/

import Calculator.Number.Binary64
import Mathlib.Algebra.Order.Field.Rat

namespace Calculator.Binary64

/-! ## Quotients and their binades -/

/-- The number that a numerator and a denominator stand for. -/
def value (quotient : Nat × Nat) : ℚ := (quotient.1 : ℚ) / quotient.2

theorem two_zpow_pos (e : ℤ) : (0 : ℚ) < 2 ^ e := zpow_pos two_pos e

/-- The two parts of an integer exponent, as a numerator and a denominator have them. -/
theorem pow_toNat {b : ℚ} (h : b ≠ 0) (e : ℤ) : b ^ e.toNat = b ^ e * b ^ (-e).toNat := by
  rw [← zpow_natCast, ← zpow_natCast, ← zpow_add₀ h]
  congr 1
  omega

theorem value_scaled (num den : Nat) (shift : ℤ) :
    value (scaled num den shift) = value (num, den) * 2 ^ shift := by
  have split := pow_toNat (two_ne_zero (α := ℚ)) shift
  have pos : (0 : ℚ) < 2 ^ (-shift).toNat := pow_pos two_pos _
  unfold value scaled
  simp only [Nat.shiftLeft_eq]
  push_cast
  rw [split, div_mul_eq_mul_div, ← mul_assoc, mul_div_mul_right _ _ pos.ne']

theorem value_lt_one_iff {quotient : Nat × Nat} (pos : 0 < quotient.2) :
    value quotient < 1 ↔ quotient.1 < quotient.2 := by
  rw [value, div_lt_one₀ (by exact_mod_cast pos)]
  exact Nat.cast_lt

theorem scaled_den_pos {num den : Nat} (pos : 0 < den) (shift : ℤ) :
    0 < (scaled num den shift).2 := by
  show 0 < den <<< (-shift).toNat
  rw [Nat.shiftLeft_eq]
  exact Nat.mul_pos pos (Nat.two_pow_pos _)

theorem scaled_lt_iff {num den : Nat} (pos : 0 < den) (e : ℤ) :
    (scaled num den (-e)).1 < (scaled num den (-e)).2 ↔ value (num, den) < 2 ^ e := by
  have denPos : 0 < (scaled num den (-e)).2 := scaled_den_pos pos (-e)
  rw [← value_lt_one_iff denPos, value_scaled, zpow_neg, ← div_eq_mul_inv,
    div_lt_one₀ (two_zpow_pos e)]

/-- **`floorLog2` names the binade of a quotient.** -/
theorem floorLog2_spec {num den : Nat} (numPos : 0 < num) (denPos : 0 < den) :
    (2 : ℚ) ^ floorLog2 num den ≤ value (num, den)
      ∧ value (num, den) < 2 ^ (floorLog2 num den + 1) := by
  have numLow : (2 : ℚ) ^ (num.log2 : ℤ) ≤ num := by
    rw [zpow_natCast]
    exact_mod_cast Nat.log2_self_le numPos.ne'
  have numHigh : (num : ℚ) < 2 ^ (num.log2 + 1 : ℤ) := by
    exact_mod_cast Nat.lt_log2_self (n := num)
  have denLow : (2 : ℚ) ^ (den.log2 : ℤ) ≤ den := by
    rw [zpow_natCast]
    exact_mod_cast Nat.log2_self_le denPos.ne'
  have denHigh : (den : ℚ) < 2 ^ (den.log2 + 1 : ℤ) := by
    exact_mod_cast Nat.lt_log2_self (n := den)
  have denCast : (0 : ℚ) < den := by exact_mod_cast denPos
  have low : (2 : ℚ) ^ ((num.log2 : ℤ) - den.log2 - 1) ≤ value (num, den) := by
    rw [sub_sub, zpow_sub₀ two_ne_zero, value]
    exact div_le_div₀ (Nat.cast_nonneg num) numLow denCast denHigh.le
  have high : value (num, den) < 2 ^ ((num.log2 : ℤ) - den.log2 + 1) := by
    rw [sub_add_eq_add_sub, zpow_sub₀ two_ne_zero, value]
    exact div_lt_div₀ numHigh denLow (two_zpow_pos _).le (two_zpow_pos _)
  unfold floorLog2
  simp only [scaled_lt_iff denPos]
  split
  · rename_i below
    rw [sub_add_cancel]
    exact ⟨low, below⟩
  · rename_i notBelow
    exact ⟨not_lt.mp notBelow, high⟩

/-! ## Numbers that need no rounding -/

theorem roundHalfEven_mul (m : Nat) {den : Nat} (pos : 0 < den) : roundHalfEven (m * den) den = m := by
  unfold roundHalfEven
  simp only [Nat.mul_div_cancel m pos, Nat.mul_mod_left, Nat.mul_zero, if_pos pos]

theorem eq_mul_of_value_eq {quotient : Nat × Nat} {m : Nat} (pos : 0 < quotient.2)
    (h : value quotient = m) : quotient.1 = m * quotient.2 := by
  have denCast : (quotient.2 : ℚ) ≠ 0 := by exact_mod_cast pos.ne'
  rw [value, div_eq_iff denCast] at h
  exact_mod_cast h

/-- **A number that is a float is its own nearest float.**  The significand is either full or counts
the smallest unit there is. -/
theorem nearest_of_value_eq {num den m : Nat} {e : ℤ} (pos : 0 < den)
    (h : value (num, den) = m * 2 ^ e) (width : m < 2 ^ 53) (lowest : -1074 ≤ e)
    (full : 2 ^ 52 ≤ m ∨ e = -1074) :
    nearest num den = min ((e + 1074).toNat * leadingOne + m) infinity := by
  by_cases zero : num = 0
  · have none : m = 0 := by
      have product : (m : ℚ) * 2 ^ e = 0 := by rw [← h, value, zero, Nat.cast_zero, zero_div]
      exact_mod_cast (mul_eq_zero.mp product).resolve_right (two_zpow_pos e).ne'
    have smallest : e = -1074 := full.resolve_left (by omega)
    rw [nearest, if_pos zero, none, smallest]
    rfl
  · obtain ⟨low, high⟩ := floorLog2_spec (Nat.pos_of_ne_zero zero) pos
    have below : floorLog2 num den < 53 + e := by
      have bound : (m : ℚ) < 2 ^ (53 : ℤ) := by exact_mod_cast width
      have : (2 : ℚ) ^ floorLog2 num den < 2 ^ (53 + e) := by
        rw [zpow_add₀ two_ne_zero]
        exact low.trans_lt (h ▸ mul_lt_mul_of_pos_right bound (two_zpow_pos e))
      exact (zpow_lt_zpow_iff_right₀ one_lt_two).mp this
    -- a full significand reaches the top of its binade; otherwise the unit is the smallest anyway
    have unit : max (floorLog2 num den - 52) (-1074) = e := by
      rcases full with full | smallest
      · have bound : (2 : ℚ) ^ (52 : ℤ) ≤ m := by exact_mod_cast full
        have : (2 : ℚ) ^ (52 + e) < 2 ^ (floorLog2 num den + 1) := by
          rw [zpow_add₀ two_ne_zero]
          exact (mul_le_mul_of_nonneg_right bound (two_zpow_pos e).le).trans_lt (h ▸ high)
        have above := (zpow_lt_zpow_iff_right₀ (one_lt_two (α := ℚ))).mp this
        omega
      · omega
    have whole : value (scaled num den (-e)) = m := by
      rw [value_scaled, h, mul_assoc, ← zpow_add₀ two_ne_zero, add_neg_cancel, zpow_zero, mul_one]
    have denPos : 0 < (scaled num den (-e)).2 := scaled_den_pos pos (-e)
    rw [nearest, if_neg zero]
    simp only [unit]
    rw [eq_mul_of_value_eq denPos whole, roundHalfEven_mul m denPos]

theorem significand_lt (bits : Nat) : significand bits < 2 ^ 53 := by
  unfold significand leadingOne
  split <;> omega

theorem exponent_ge (bits : Nat) : -1074 ≤ exponent bits := by
  unfold exponent leadingOne
  omega

theorem full_or_smallest (bits : Nat) : 2 ^ 52 ≤ significand bits ∨ exponent bits = -1074 := by
  unfold significand exponent leadingOne
  split
  · right
    omega
  · left
    omega

/-- The bits of a magnitude from its significand and exponent.  A full significand carries its
leading one into the exponent. -/
theorem bits_eq (bits : Nat) :
    (exponent bits + 1074).toNat * leadingOne + significand bits = bits := by
  unfold significand exponent leadingOne
  split <;> omega

/-- Rounding the number that some bits stand for gives the bits. -/
theorem nearest_of_bits {num den bits : Nat} (pos : 0 < den) (finite : bits < infinity)
    (h : value (num, den) = significand bits * 2 ^ exponent bits) : nearest num den = bits := by
  rw [nearest_of_value_eq pos h (significand_lt bits) (exponent_ge bits) (full_or_smallest bits),
    bits_eq, Nat.min_eq_left finite.le]

end Calculator.Binary64
