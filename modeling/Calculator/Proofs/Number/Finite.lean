/-
# Calculator.Proofs.Number.Finite — quotients that do not overflow

Rounding may go up, and a quotient just below the range of the floats may round out of it.  One binade
below the end there is room enough: a quotient below `2 ^ 1023` has a finite nearest float
(`nearest_lt_infinity`).  No sharper bound is needed for the numbers that are drawn or typed in small
parts.
-/

import Calculator.Proofs.Number.Rounding

namespace Calculator.Binary64

theorem roundHalfEven_le (num den : Nat) : roundHalfEven num den ≤ num / den + 1 := by
  unfold roundHalfEven
  simp only
  split
  · omega
  · split <;> omega

theorem lt_mul_of_value_lt {quotient : Nat × Nat} {bound : Nat} (pos : 0 < quotient.2)
    (h : value quotient < bound) : quotient.1 < quotient.2 * bound := by
  have denCast : (0 : ℚ) < quotient.2 := by exact_mod_cast pos
  rw [value, div_lt_iff₀' denCast] at h
  exact_mod_cast h

/-- A quotient counts fewer units than there are significands, so it rounds to at most one more than
the largest of them. -/
theorem roundHalfEven_scaled_le {num den : Nat} (unit : ℤ) (numPos : 0 < num) (denPos : 0 < den)
    (coarse : floorLog2 num den - 52 ≤ unit) :
    roundHalfEven (scaled num den (-unit)).1 (scaled num den (-unit)).2 ≤ 2 ^ 53 := by
  obtain ⟨-, high⟩ := floorLog2_spec numPos denPos
  have pos : 0 < (scaled num den (-unit)).2 := scaled_den_pos denPos (-unit)
  have small : value (scaled num den (-unit)) < (2 ^ 53 : ℕ) := by
    rw [value_scaled]
    calc value (num, den) * 2 ^ (-unit)
        < 2 ^ (floorLog2 num den + 1) * 2 ^ (-unit) :=
          mul_lt_mul_of_pos_right high (two_zpow_pos _)
      _ = 2 ^ (floorLog2 num den + 1 - unit) := by rw [← zpow_add₀ two_ne_zero, sub_eq_add_neg]
      _ ≤ 2 ^ (53 : ℤ) := zpow_le_zpow_right₀ one_le_two (by omega)
      _ = (2 ^ 53 : ℕ) := by norm_cast
  have below := Nat.div_lt_of_lt_mul (lt_mul_of_value_lt pos small)
  have := roundHalfEven_le (scaled num den (-unit)).1 (scaled num den (-unit)).2
  omega

/-- **A quotient below `2 ^ 1023` has a finite nearest float.** -/
theorem nearest_lt_infinity {num den : Nat} (pos : 0 < den) (small : value (num, den) < 2 ^ (1023 : ℤ)) :
    nearest num den < infinity := by
  unfold nearest
  split
  · decide
  · rename_i notZero
    have numPos : 0 < num := Nat.pos_of_ne_zero notZero
    obtain ⟨low, -⟩ := floorLog2_spec numPos pos
    have binade : floorLog2 num den < 1023 :=
      (zpow_lt_zpow_iff_right₀ one_lt_two).mp (low.trans_lt small)
    have rounded := roundHalfEven_scaled_le (max (floorLog2 num den - 52) (-1074)) numPos pos
      (le_max_left _ _)
    simp only
    unfold infinity leadingOne
    omega

end Calculator.Binary64
