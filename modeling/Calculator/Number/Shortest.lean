/-
# Calculator.Number.Shortest — the fewest digits that read back, and the text of a float

A float is shown by the shortest decimal whose nearest float it is.  The search tries the grids of
one digit, two digits and so on below the first power of ten above the number.  If any point of a
grid reads back, so does one of the two points around the number itself, so these two are the only
candidates of each grid.  The first grid with a candidate that reads back wins; of two candidates
the nearer one is taken, and the upper one when both are equally near.

Reading back is tested and not argued: whatever `shortest` returns has the number as its nearest
float.  Should no grid of at most seventeen digits do, the exact decimal expansion takes their place.
-/

import Calculator.Number.Decimal

namespace Calculator

namespace Shortest

/-! ## The number and its grids -/

/-- The quotient of two naturals that a finite magnitude stands for. -/
def ratio (bits : Nat) : Nat × Nat :=
  Binary64.scaled (Binary64.significand bits) 1 (Binary64.exponent bits)

/-- How many decimal digits a positive natural has. -/
def digitCount (n : Nat) : Nat :=
  (Nat.toDigits 10 n).length

/-- The least exponent of a power of ten that lies above the positive quotient `num / den`. -/
def ceilLog10 (num den : Nat) : Int :=
  if den ≤ num then digitCount (num / den)
  else 1 - (digitCount ((den - 1) / num) : Int)

/-- The numerator and denominator of a quotient counted in steps of `10 ^ step`. -/
def inSteps (num den : Nat) (step : Int) : Nat × Nat :=
  (num * Nat.pow 10 (-step).toNat, den * Nat.pow 10 step.toNat)

/-! ## Candidates -/

/-- The candidate of the grid of steps `10 ^ step`: of the points just below and just above the
number, those that read back, and the nearer if both do. -/
def candidate? (bits : Nat) (step : Int) : Option Decimal :=
  let (num, den) := ratio bits
  let (n, d) := inSteps num den step
  let below : Decimal := ⟨n / d, step⟩
  let above : Decimal := ⟨n / d + 1, step⟩
  if below.nearest = bits then
    if above.nearest = bits ∧ d ≤ 2 * (n % d) then some above else some below
  else if above.nearest = bits then some above
  else none

/-- The exact value of a finite magnitude as a decimal. -/
def exact (bits : Nat) : Decimal :=
  let m := Binary64.significand bits
  let e := Binary64.exponent bits
  if 0 ≤ e then ⟨m <<< e.toNat, 0⟩ else ⟨m * Nat.pow 5 (-e).toNat, e⟩

/-- The shortest decimal that reads back as a finite magnitude, and among those of its length the
nearest to it. -/
def shortest (bits : Nat) : Decimal :=
  if bits = 0 then ⟨0, 0⟩
  else
    let (num, den) := ratio bits
    let top := ceilLog10 num den
    ((List.range 18).findSome? fun (count : Nat) => candidate? bits (top - (count : Int))).getD (exact bits)

end Shortest

/-! ## The text of a float -/

/-- The text of a magnitude: the positional text of its shortest decimal, a word for infinity. -/
def Binary64.magnitudeChars (bits : Nat) : List Char :=
  if bits = Binary64.infinity then ['i', 'n', 'f'] else (Shortest.shortest bits).chars

/-- The characters of a float's text.  A set sign bit is shown on zero and on infinity as well; what
is not a number has no sign. -/
def Binary64.chars (x : Float) : List Char :=
  if Binary64.infinity < Binary64.magnitude x then ['N', 'a', 'N']
  else if Binary64.isNegative x then '-' :: Binary64.magnitudeChars (Binary64.magnitude x)
  else Binary64.magnitudeChars (Binary64.magnitude x)

/-- The text that shows a float. -/
def Binary64.text (x : Float) : String :=
  String.ofList (Binary64.chars x)

end Calculator
