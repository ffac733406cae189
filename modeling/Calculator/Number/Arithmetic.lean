/-
# Calculator.Number.Arithmetic — remainder and power

Addition, subtraction, multiplication and division are those of the floats.  The other two need
words of their own.

The remainder is exact: both operands are counted in the finer of their two units, and what division
leaves over is again a float.  Its sign is the dividend's, also on zero.

A power follows the standard for floats (`ieeePower`), where an exponent of zero and a base of one give
one even beside what is not a number.  One guard stands in front of it: a base of magnitude one has no
power with an exponent that is not finite (`power`).  So an exponent that is not a number always shows
in the result, and a base that is not a number shows unless the exponent is zero.
-/

import Calculator.Number.Binary64

namespace Calculator.Binary64

/-- The result of an operation that has none. -/
def notANumber : Float := Float.ofBits 0x7FF8000000000000

/-! ## Remainder -/

/-- The bits of what is left of one finite magnitude after taking away another as often as it goes;
both are counted in the smaller of their units. -/
def remainderMagnitude (dividend divisor : Nat) : Nat :=
  let unit := min (exponent dividend) (exponent divisor)
  let m := significand dividend <<< (exponent dividend - unit).toNat
  let n := significand divisor <<< (exponent divisor - unit).toNat
  let (num, den) := scaled (m % n) 1 unit
  nearest num den

/-- What is left of `x` after taking away `y` as often as it goes, with the sign of `x`.  Nothing can
be taken from what is not finite, zero cannot be taken away, and infinity goes into no finite number. -/
def remainder (x y : Float) : Float :=
  if infinity ≤ magnitude x ∨ infinity < magnitude y ∨ magnitude y = 0 then notANumber
  else if magnitude y = infinity then x
  else ofMagnitude (isNegative x) (remainderMagnitude (magnitude x) (magnitude y))

/-! ## Power -/

/-- `base` to the power of `exponent` as IEEE 754 has it.  The rules about ones and about what is not a
number come first; the other powers are those of the machine. -/
def ieeePower (base exponent : Float) : Float :=
  if exponent == 0 then 1
  else if base == 1 then 1
  else if base.isNaN || exponent.isNaN then notANumber
  else if base == -1 && exponent.isInf then 1
  else Float.pow base exponent

/-- `base` to the power of `exponent`, where a base of magnitude one takes finite exponents only. -/
def power (base exponent : Float) : Float :=
  if base.abs == 1 && !exponent.isFinite then notANumber
  else ieeePower base exponent

end Calculator.Binary64
