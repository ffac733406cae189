/-
# Calculator.Proofs.Number.NotANumber — what is not a number stays so

The floats have one value that is not a number.  Each arithmetic operation gives it back whichever
side it comes from, with one exception: a power with exponent zero is one, whatever its base
(`power_zero`).  So the value goes through every operation but that (`apply_notANumber_left`,
`apply_notANumber_right`).

The power of the standard has a second exception, a base of one, whose power is one also where the
exponent is not a number.  The guard around it takes that one away (`power_notANumber_right`): a base
that equals one is its own magnitude.
-/

import Calculator.Operator
import Calculator.Proofs.Number.Bits

namespace Calculator.Binary64

open Float.Model

/-! ## The value itself -/

theorem unpack_notANumber : notANumber.toModel.unpack = .notANumber := rfl

theorem ofModel_pack_notANumber : Float.ofModel (Float.Model.pack .notANumber) = notANumber := by
  decide

theorem isNaN_notANumber : notANumber.isNaN = true := by decide

theorem beq_notANumber (x : Float) : (notANumber == x) = false := by
  show notANumber.toModel.unpack.beq x.toModel.unpack = false
  rw [unpack_notANumber]
  rfl

theorem infinity_lt_magnitude_notANumber : infinity < magnitude notANumber := by decide

/-! ## Operations

The four operations of the floats take both sides apart, compute on what they find and put the result
together again. -/

theorem pack_notANumber_left (f : UnpackedFloat → UnpackedFloat → UnpackedFloat)
    (keeps : ∀ v, f .notANumber v = .notANumber) (y : Float) :
    Float.ofModel (.pack (f notANumber.toModel.unpack y.toModel.unpack)) = notANumber := by
  rw [unpack_notANumber, keeps]
  exact ofModel_pack_notANumber

theorem pack_notANumber_right (f : UnpackedFloat → UnpackedFloat → UnpackedFloat)
    (keeps : ∀ u, f u .notANumber = .notANumber) (x : Float) :
    Float.ofModel (.pack (f x.toModel.unpack notANumber.toModel.unpack)) = notANumber := by
  rw [unpack_notANumber, keeps]
  exact ofModel_pack_notANumber

theorem remainder_notANumber_left (y : Float) : remainder notANumber y = notANumber := by
  rw [remainder, if_pos (Or.inl (Nat.le_of_lt infinity_lt_magnitude_notANumber))]

theorem remainder_notANumber_right (x : Float) : remainder x notANumber = notANumber := by
  rw [remainder, if_pos (Or.inr (Or.inl infinity_lt_magnitude_notANumber))]

/-! ## Powers -/

/-- What is compared with zero as equal is finite. -/
theorem isFinite_of_beq_zero {x : Float} (zero : (x == 0) = true) : x.isFinite = true := by
  have unpacked : (0 : Float).toModel.unpack = .zero .positive := rfl
  change x.toModel.unpack.beq (0 : Float).toModel.unpack = true at zero
  rw [unpacked] at zero
  show x.toModel.unpack.isFinite = true
  cases same : x.toModel.unpack with
  | notANumber => exact absurd zero (by rw [same]; decide)
  | infinity sign => exact absurd zero (by rw [same]; cases sign <;> decide)
  | _ => rfl

/-- What is compared with one as equal is its own magnitude. -/
theorem abs_of_beq_one {x : Float} (one : (x == 1) = true) : x.abs = x := by
  have unpacked : (1 : Float).toModel.unpack = .finite .positive (2 ^ 52) (-52) (by decide) := rfl
  change x.toModel.unpack.beq (1 : Float).toModel.unpack = true at one
  rw [unpacked] at one
  have same : x.toModel.unpack.abs = x.toModel.unpack := by
    cases apart : x.toModel.unpack with
    | finite sign m e pos =>
        cases sign with
        | positive => rfl
        | negative => exact absurd one (by rw [apart]; simp [UnpackedFloat.beq, UnpackedFloat.compare])
    | notANumber => rfl
    | infinity sign => exact absurd one (by rw [apart]; cases sign <;> decide)
    | zero sign => exact absurd one (by rw [apart]; cases sign <;> decide)
  show Float.ofModel (.pack x.toModel.unpack.abs) = x
  rw [same]
  exact ofBits_toBits x

/-- A power with exponent zero is one, also where the base is not a number. -/
theorem power_zero (base : Float) {exponent : Float} (zero : (exponent == 0) = true) :
    power base exponent = 1 := by
  rw [power, isFinite_of_beq_zero zero, Bool.not_true, Bool.and_false, if_neg Bool.false_ne_true,
    ieeePower, if_pos zero]

theorem ieeePower_notANumber_left {exponent : Float} (positive : (exponent == 0) = false) :
    ieeePower notANumber exponent = notANumber := by
  rw [ieeePower, if_neg (ne_true_of_eq_false positive), if_neg (ne_true_of_eq_false (beq_notANumber 1)),
    isNaN_notANumber, Bool.true_or, if_pos rfl]

theorem ieeePower_notANumber_right {base : Float} (other : (base == 1) = false) :
    ieeePower base notANumber = notANumber := by
  rw [ieeePower, if_neg (ne_true_of_eq_false (beq_notANumber 0)), if_neg (ne_true_of_eq_false other),
    isNaN_notANumber, Bool.or_true, if_pos rfl]

theorem power_notANumber_left {exponent : Float} (positive : (exponent == 0) = false) :
    power notANumber exponent = notANumber := by
  rw [power]
  split
  · rfl
  · exact ieeePower_notANumber_left positive

/-- **The guard keeps an exponent that is not a number**, where the base is one as everywhere else. -/
theorem power_notANumber_right (base : Float) : power base notANumber = notANumber := by
  have infinite : notANumber.isFinite = false := by decide
  rw [power, infinite, Bool.not_false, Bool.and_true]
  split
  · rfl
  · rename_i unguarded
    apply ieeePower_notANumber_right
    apply eq_false_of_ne_true
    intro one
    rw [abs_of_beq_one one] at unguarded
    exact unguarded one

/-- **What is not a number goes through an operation from the left**, if the operation is no power or
the exponent is not zero. -/
theorem apply_notANumber_left (operation : Arithmetic) {y : Float}
    (kept : operation = .pow → (y == 0) = false) : operation.apply notANumber y = notANumber := by
  cases operation with
  | add => exact pack_notANumber_left (.add Format.binary64) (fun _ => rfl) y
  | sub => exact pack_notANumber_left (.sub Format.binary64) (fun _ => rfl) y
  | mul => exact pack_notANumber_left (.mul Format.binary64) (fun _ => rfl) y
  | div => exact pack_notANumber_left (.div Format.binary64) (fun _ => rfl) y
  | pow => exact power_notANumber_left (kept rfl)
  | mod => exact remainder_notANumber_left y

/-- **What is not a number goes through every operation from the right.** -/
theorem apply_notANumber_right (operation : Arithmetic) (x : Float) :
    operation.apply x notANumber = notANumber := by
  cases operation with
  | add => exact pack_notANumber_right (.add Format.binary64) (by rintro (_ | _ | _ | _) <;> rfl) x
  | sub => exact pack_notANumber_right (.sub Format.binary64) (by rintro (_ | _ | _ | _) <;> rfl) x
  | mul => exact pack_notANumber_right (.mul Format.binary64) (by rintro (_ | _ | _ | _) <;> rfl) x
  | div => exact pack_notANumber_right (.div Format.binary64) (by rintro (_ | _ | _ | _) <;> rfl) x
  | pow => exact power_notANumber_right x
  | mod => exact remainder_notANumber_right x

end Calculator.Binary64
