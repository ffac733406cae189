/-
# Calculator.Number.Literal — the words that are numbers

A literal is a run of ASCII digits with at most one point, before, inside or after it, and then
perhaps an exponent:

    D+ ('.' D*)? E?   or   '.' D+ E?      with E = [eE] [+-]? D+

There is no sign in front.  A literal always has a value: a number too large for the floats is read
as infinity, one too small as zero.
-/

import Calculator.Number.Decimal

namespace Calculator.Literal

/-! ## Exponents -/

/-- Exponents are counted up to here, far beyond what any float reaches; the digits after that are
checked and not counted. -/
def exponentLimit : Nat := 65536

/-- The value of a run of exponent digits. -/
def exponentValue (digits : List Char) : Nat :=
  digits.foldl (fun n c => if n < exponentLimit then 10 * n + (c.toNat - '0'.toNat) else n) 0

/-- The value of a non-empty run of digits, and nothing for any other text. -/
def exponentDigits? (cs : List Char) : Option Nat :=
  if cs ≠ [] ∧ cs.all Char.isDigit then some (exponentValue cs) else none

/-- Exponent digits behind an optional sign. -/
def signedExponent? : List Char → Option Int
  | '-' :: cs => (exponentDigits? cs).map fun n => -(n : Int)
  | '+' :: cs => (exponentDigits? cs).map Int.ofNat
  | cs => (exponentDigits? cs).map Int.ofNat

/-- The exponent that ends a literal; nothing at all stands for zero. -/
def exponent? : List Char → Option Int
  | [] => some 0
  | c :: cs => if c = 'e' ∨ c = 'E' then signedExponent? cs else none

/-! ## Literals -/

/-- The decimal with the given digits before and after its point. -/
def decimal (whole fraction : List Char) (exponent : Int) : Decimal :=
  ⟨Nat.ofDigitChars 10 (whole ++ fraction) 0, exponent - fraction.length⟩

/-- The digits a text begins with. -/
def leadingDigits (cs : List Char) : List Char := cs.takeWhile Char.isDigit

/-- What follows the digits a text begins with. -/
def afterDigits (cs : List Char) : List Char := cs.dropWhile Char.isDigit

/-- The decimal that a literal stands for, and nothing for any other text. -/
def read? (cs : List Char) : Option Decimal :=
  let whole := leadingDigits cs
  match afterDigits cs with
  | '.' :: rest =>
    let fraction := leadingDigits rest
    if whole = [] ∧ fraction = [] then none
    else (exponent? (afterDigits rest)).map (decimal whole fraction)
  | rest => if whole = [] then none else (exponent? rest).map (decimal whole [])

/-- The float that a literal stands for: the nearest to its decimal. -/
def value? (cs : List Char) : Option Float :=
  (read? cs).map Decimal.toFloat

end Calculator.Literal
