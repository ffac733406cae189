/-
# Calculator.Proofs.Number.ReadBack — the text of a float reads as the float

A decimal that the search for the shortest text returns was tested: its nearest float is the float it
was searched for.  What is left is the decimal that takes over when no grid succeeds, the exact value,
and that one needs no rounding.  So the text of every finite float without a sign is a literal, and
reading it gives the float (`value?_chars_of_finite`).

The literals themselves never have a sign and are never what is not a number, but they may be
infinite (`value?_bounds`); and infinity is shown as a word, which is no literal.
-/

import Calculator.Number.Shortest
import Calculator.Proofs.Number.Bits
import Calculator.Proofs.Number.Positional
import Calculator.Proofs.Number.Rounding
import Mathlib.Tactic.NormNum

namespace Calculator

/-! ## Decimals as rational numbers -/

namespace Decimal

theorem value_ratio (d : Decimal) :
    Binary64.value d.ratio = d.digits * (10 : ℚ) ^ d.exponent := by
  have split := Binary64.pow_toNat (b := (10 : ℚ)) (by norm_num) d.exponent
  have pos : (0 : ℚ) < 10 ^ (-d.exponent).toNat := pow_pos (by norm_num) _
  unfold Binary64.value ratio
  simp only [Nat.pow_eq]
  push_cast
  rw [split, ← mul_assoc, mul_div_cancel_right₀ _ pos.ne']

theorem ratio_den_pos (d : Decimal) : 0 < d.ratio.2 := Nat.pow_pos (by decide)

end Decimal

namespace Shortest

/-! ## Candidates are tested, the exact value needs no test -/

theorem nearest_of_candidate? {bits : Nat} {step : Int} {d : Decimal}
    (h : candidate? bits step = some d) : d.nearest = bits := by
  unfold candidate? at h
  simp only at h
  split at h
  · rename_i below
    split at h
    · rename_i above
      exact Option.some.inj h ▸ above.1
    · exact Option.some.inj h ▸ below
  · split at h
    · rename_i above
      exact Option.some.inj h ▸ above
    · exact absurd h (by simp)

theorem value_exact (bits : Nat) :
    Binary64.value (exact bits).ratio = Binary64.significand bits * 2 ^ Binary64.exponent bits := by
  rw [Decimal.value_ratio]
  unfold exact
  simp only
  split
  · rename_i whole
    rw [Nat.shiftLeft_eq]
    push_cast
    rw [mul_one, ← zpow_natCast, Int.toNat_of_nonneg whole]
  · rename_i small
    have five : (5 : ℚ) ^ (-Binary64.exponent bits).toNat * 10 ^ Binary64.exponent bits
        = 2 ^ Binary64.exponent bits := by
      have cast : ((-Binary64.exponent bits).toNat : ℤ) = -Binary64.exponent bits := by omega
      have ten : (10 : ℚ) = 5 * 2 := by norm_num
      have some : (5 : ℚ) ^ Binary64.exponent bits ≠ 0 := zpow_ne_zero _ (by norm_num)
      rw [← zpow_natCast, cast, zpow_neg, ten, mul_zpow, inv_mul_cancel_left₀ some]
    rw [Nat.pow_eq]
    push_cast
    rw [mul_assoc, five]

theorem nearest_exact {bits : Nat} (finite : bits < Binary64.infinity) :
    (exact bits).nearest = bits :=
  Binary64.nearest_of_bits (Decimal.ratio_den_pos _) finite (value_exact bits)

/-- **The shortest decimal of a finite magnitude has it as its nearest float.** -/
theorem nearest_shortest {bits : Nat} (finite : bits < Binary64.infinity) :
    (shortest bits).nearest = bits := by
  unfold shortest
  by_cases zero : bits = 0
  · rw [if_pos zero, zero]
    rfl
  · rw [if_neg zero]
    simp only
    cases found : (List.range 18).findSome? fun (count : Nat) => candidate? bits
        (ceilLog10 (ratio bits).1 (ratio bits).2 - (count : Int)) with
    | none => exact nearest_exact finite
    | some d =>
        obtain ⟨count, -, hit⟩ := List.exists_of_findSome?_eq_some found
        exact nearest_of_candidate? hit

end Shortest

/-! ## Floats -/

namespace Binary64

variable {x : Float}

theorem chars_of_finite (sign : isNegative x = false) (finite : magnitude x < infinity) :
    chars x = (Shortest.shortest (magnitude x)).chars := by
  unfold chars magnitudeChars
  rw [if_neg (Nat.lt_asymm finite), if_neg (by rw [sign]; exact Bool.false_ne_true),
    if_neg (Nat.ne_of_lt finite)]

theorem chars_of_infinity (sign : isNegative x = false) (infinite : magnitude x = infinity) :
    chars x = ['i', 'n', 'f'] := by
  unfold chars magnitudeChars
  rw [if_neg (infinite ▸ Nat.lt_irrefl _), if_neg (by rw [sign]; exact Bool.false_ne_true),
    if_pos infinite]

/-- **The text of a finite float without a sign reads as the float.** -/
theorem value?_chars_of_finite (sign : isNegative x = false) (finite : magnitude x < infinity) :
    Literal.value? (chars x) = some x := by
  rw [chars_of_finite sign finite, Decimal.value?_chars, Decimal.toFloat,
    Shortest.nearest_shortest finite, ← sign, ofMagnitude_magnitude]

theorem nearest_le (num den : Nat) : nearest num den ≤ infinity := by
  unfold nearest
  split
  · exact Nat.zero_le _
  · exact Nat.min_le_right ..

/-- What a literal stands for has no sign and is a number, perhaps an infinite one. -/
theorem value?_bounds {cs : List Char} (h : Literal.value? cs = some x) :
    isNegative x = false ∧ magnitude x ≤ infinity := by
  obtain ⟨d, -, rfl⟩ := Option.map_eq_some_iff.mp h
  have bound : d.nearest ≤ infinity := nearest_le ..
  rw [Decimal.toFloat, isNegative_ofMagnitude bound, magnitude_ofMagnitude bound]
  exact ⟨rfl, bound⟩

end Binary64

end Calculator
