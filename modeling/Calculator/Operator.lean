/-
# Calculator.Operator — the seven operators

Six operators compute a number from two numbers.  The seventh, assignment, gives a variable the value
of its right side; it is kept apart because its left side is not a value.
-/

import Calculator.Number.Arithmetic

namespace Calculator

/-- The operators that compute a number from two numbers. -/
inductive Arithmetic where
  | add
  | sub
  | mul
  | div
  | pow
  | mod
  deriving DecidableEq

/-- An operator between the two sides of a bracketed expression. -/
inductive Operator where
  | arithmetic (operation : Arithmetic)
  | assign
  deriving DecidableEq

/-- The number that an arithmetic operator makes of its two sides. -/
def Arithmetic.apply : Arithmetic → Float → Float → Float
  | .add, x, y => x + y
  | .sub, x, y => x - y
  | .mul, x, y => x * y
  | .div, x, y => x / y
  | .pow, x, y => Binary64.power x y
  | .mod, x, y => Binary64.remainder x y

namespace Operator

/-! ## Symbols and names -/

/-- The character that writes an operator. -/
def symbol : Operator → Char
  | arithmetic .add => '+'
  | arithmetic .sub => '-'
  | arithmetic .mul => '*'
  | arithmetic .div => '/'
  | arithmetic .pow => '^'
  | arithmetic .mod => '%'
  | assign => '='

/-- The word for an operator in the canonical text of an expression. -/
def name : Operator → String
  | arithmetic .add => "Add"
  | arithmetic .sub => "Sub"
  | arithmetic .mul => "Mul"
  | arithmetic .div => "Div"
  | arithmetic .pow => "Pow"
  | arithmetic .mod => "Mod"
  | assign => "Assign"

/-- All operators. -/
def all : List Operator :=
  [arithmetic .add, arithmetic .sub, arithmetic .mul, arithmetic .div, arithmetic .pow,
   arithmetic .mod, assign]

/-- The operator that a character writes. -/
def ofSymbol? (c : Char) : Option Operator :=
  all.find? fun operator => operator.symbol == c

@[simp]
theorem ofSymbol?_symbol (operator : Operator) : ofSymbol? operator.symbol = some operator := by
  rcases operator with ⟨⟨⟩⟩ | ⟨⟩ <;> rfl

theorem symbol_of_ofSymbol? {c : Char} {operator : Operator} (h : ofSymbol? c = some operator) :
    operator.symbol = c := by
  simpa using List.find?_some h

theorem ofSymbol?_eq_some_iff {c : Char} {operator : Operator} :
    ofSymbol? c = some operator ↔ operator.symbol = c :=
  ⟨symbol_of_ofSymbol?, fun h => h ▸ ofSymbol?_symbol operator⟩

end Operator

end Calculator
