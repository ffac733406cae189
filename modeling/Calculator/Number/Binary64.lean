/-
# Calculator.Number.Binary64 — binary64 numbers as bits, and the nearest one to a quotient

Every number of the calculator is a binary64 float.  This module reads one apart into its sign and
the bits below it, and says in exact arithmetic on `Nat` which float is nearest to a quotient of two
naturals.  Reading decimals, choosing digits to print and the remainder all rest on these two.

The bits of a magnitude (a float without its sign) grow with the number they stand for: the next
larger magnitude always has the next larger bits, across binades and up to infinity.  `nearest` uses
this, since a significand that rounds up to the next power of two carries into the exponent by plain
addition.
-/

namespace Calculator.Binary64

/-! ## A float apart -/

/-- The bits of infinity; larger magnitudes are not numbers. -/
def infinity : Nat := 0x7FF0000000000000

/-- The weight of the sign bit. -/
def signBit : Nat := 0x8000000000000000

/-- The weight of the leading one of a significand, and the number of significands in a binade. -/
def leadingOne : Nat := 0x10000000000000

/-- Whether the sign bit is set, which zeros and infinities have as well. -/
def isNegative (x : Float) : Bool :=
  signBit ≤ x.toBits.toNat

/-- The bits below the sign. -/
def magnitude (x : Float) : Nat :=
  x.toBits.toNat % signBit

/-- The float with a given sign and given bits below it. -/
def ofMagnitude (negative : Bool) (bits : Nat) : Float :=
  Float.ofBits (UInt64.ofNat (if negative then signBit + bits else bits))

/-- A finite magnitude is `significand bits * 2 ^ exponent bits`.  Below the first full binade the
leading one of the significand is absent. -/
def significand (bits : Nat) : Nat :=
  if bits < leadingOne then bits else leadingOne + bits % leadingOne

/-- The power of two that the significand of a finite magnitude counts. -/
def exponent (bits : Nat) : Int :=
  (max (bits / leadingOne) 1 : Nat) - 1075

/-! ## A quotient to the nearest float -/

/-- `num / den` to the nearest natural, a half to the even neighbour. -/
def roundHalfEven (num den : Nat) : Nat :=
  let quotient := num / den
  let twice := 2 * (num % den)
  if twice < den then quotient
  else if den < twice then quotient + 1
  else quotient + quotient % 2

/-- The numerator and denominator of `num / den * 2 ^ shift`. -/
def scaled (num den : Nat) (shift : Int) : Nat × Nat :=
  (num <<< shift.toNat, den <<< (-shift).toNat)

/-- The exponent of the power of two at or below a positive quotient. -/
def floorLog2 (num den : Nat) : Int :=
  let guess : Int := num.log2 - den.log2
  let (n, d) := scaled num den (-guess)
  if n < d then guess - 1 else guess

/-- The bits of the magnitude nearest to `num / den`, a half to the even significand, and infinity
where the largest finite magnitude is too far away. -/
def nearest (num den : Nat) : Nat :=
  if num = 0 then 0
  else
    let unit : Int := max (floorLog2 num den - 52) (-1074)
    let (n, d) := scaled num den (-unit)
    min ((unit + 1074).toNat * leadingOne + roundHalfEven n d) infinity

/-- The float nearest to `num / den`; its sign bit is clear. -/
def ofRatio (num den : Nat) : Float :=
  ofMagnitude false (nearest num den)

end Calculator.Binary64
