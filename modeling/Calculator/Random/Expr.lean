/-
# Calculator.Random.Expr — random names, operators and expressions

Everything is drawn with a size.  The size of an expression bounds how deep it is nested and how long
its names are; going one level down takes one from it, and an expression of size one or less is a leaf.
Only what can be typed is drawn: names are ASCII letters, numbers are not negative, and an assignment
has a variable on its left.
-/

import Calculator.Expr
import Calculator.Random.Source

namespace Calculator.Random

variable {σ : Type} [WordSource σ]

/-! ## Names and operators -/

/-- The letters that names are made of. -/
def letters : List Char :=
  "abcdefghijklmnopqrstuvwxyzABCDEFGHIJKLMNOPQRSTUVWXYZ".toList

/-- A letter. -/
def letter : Draw σ Char := do
  return letters.getD (← pick letters.length) 'a'

/-- So many letters. -/
def lettersOf : Nat → Draw σ (List Char)
  | 0 => pure []
  | count + 1 => do
    let first ← letter
    let rest ← lettersOf count
    return first :: rest

/-- A name of at least one letter and at most `size` of them, if `size` is positive. -/
def name (size : Nat) : Draw σ Name := do
  let length := 1 + (← pick (max size 1))
  return ⟨String.ofList (← lettersOf length)⟩

/-- An operator. -/
def operator : Draw σ Operator := do
  return Operator.all.getD (← pick 7) .assign

/-! ## Expressions -/

/-- A number: a whole number below `2 ^ 16` over one of a few divisors. -/
def number : Draw σ Float := do
  let divisor ← choose 1 [2, 4, 10, 1000]
  return Binary64.ofRatio (← narrow) divisor

/-- A number or a variable. -/
def leaf (size : Nat) : Draw σ Expr := do
  if (← pick 2) = 0 then return .number (← number)
  else return .name (← name size)

/-- The left side of an operator: a variable for an assignment, else what `operand` draws. -/
def leftSide (operator : Operator) (size : Nat) (operand : Draw σ Expr) : Draw σ Expr := do
  if operator = .assign then return .name (← name size)
  else operand

/-- An expression. -/
def expr : Nat → Draw σ Expr
  | 0 => leaf 0
  | 1 => leaf 0
  | size + 2 => do
    if (← pick 2) = 0 then leaf (size + 1)
    else
      let operator ← operator
      let left ← leftSide operator (size + 1) (expr (size + 1))
      let right ← expr (size + 1)
      return .operation operator left right

end Calculator.Random
