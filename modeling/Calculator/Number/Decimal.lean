/-
# Calculator.Number.Decimal — decimal numbers, their positional text and their nearest float

A decimal is a whole number of some power of ten.  It is what a literal says and what the text of a
float shows; a float comes from it by one correct rounding.  Its text is always positional: zeros
fill the places up to the point on either side, and no exponent is ever written.
-/

import Calculator.Number.Binary64

namespace Calculator

/-- The number `digits * 10 ^ exponent`. -/
structure Decimal where
  digits : Nat
  exponent : Int
  deriving DecidableEq

namespace Decimal

/-! ## The nearest float -/

/-- The number as a quotient of two naturals. -/
def ratio (d : Decimal) : Nat × Nat :=
  (d.digits * Nat.pow 10 d.exponent.toNat, Nat.pow 10 (-d.exponent).toNat)

/-- The bits of the nearest magnitude. -/
def nearest (d : Decimal) : Nat :=
  Binary64.nearest d.ratio.1 d.ratio.2

/-- The nearest float, a half to the even significand, infinity beyond the largest. -/
def toFloat (d : Decimal) : Float :=
  Binary64.ofMagnitude false d.nearest

/-! ## Positional text -/

/-- Digits with the point before the last `places` of them and at least one digit in front of it. -/
def withPoint (digits : List Char) (places : Nat) : List Char :=
  let padded := List.replicate (places + 1 - digits.length) '0' ++ digits
  let whole := padded.length - places
  padded.take whole ++ '.' :: padded.drop whole

/-- Digits followed by the zeros that a positive exponent stands for, or with the point that a
negative one asks for. -/
def chars (d : Decimal) : List Char :=
  let digits := Nat.toDigits 10 d.digits
  if d.exponent < 0 then withPoint digits (-d.exponent).toNat
  else digits ++ List.replicate d.exponent.toNat '0'

end Decimal

end Calculator
