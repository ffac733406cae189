/-
# Calculator.Expr — expressions and their two texts

An expression is a number, a variable, or an operator between two expressions.  Nothing in the type
keeps an assignment from having a left side that is not a variable: such an expression can be made by
hand, and the evaluator has an answer for it.

The canonical text shows the tree (`Add(Num(1), Var('x'))`).  The source text is what a person would
type, with a bracket around every operator (`(1 + x)`), and `tokens` is what scanning it gives when
all its numbers and names can be written.
-/

import Calculator.Name
import Calculator.Operator
import Calculator.Token

namespace Calculator

/-- An expression. -/
inductive Expr where
  | number (value : Float)
  | name (name : Name)
  | operation (operator : Operator) (left right : Expr)
  deriving DecidableEq

namespace Expr

/-! ## Texts -/

/-- The text that shows the tree. -/
def canonical : Expr → String
  | number value => "Num(" ++ Binary64.text value ++ ")"
  | name n => "Var('" ++ n.text ++ "')"
  | operation operator left right =>
    operator.name ++ "(" ++ left.canonical ++ ", " ++ right.canonical ++ ")"

/-- The text that can be typed. -/
def source : Expr → String
  | number value => Binary64.text value
  | name n => n.text
  | operation operator left right =>
    "(" ++ left.source ++ " " ++ String.singleton operator.symbol ++ " " ++ right.source ++ ")"

/-- The tokens of the source text. -/
def tokens : Expr → List Token
  | number value => [.number value]
  | name n => [.word n.text]
  | operation operator left right =>
    .symbol '(' :: (left.tokens ++ .symbol operator.symbol :: (right.tokens ++ [.symbol ')']))

/-! ## Structure -/

/-- How many brackets enclose the most deeply bracketed part. -/
def nesting : Expr → Nat
  | number _ => 0
  | name _ => 0
  | operation _ left right => max left.nesting right.nesting + 1

/-- Whether an expression is a variable, the only thing that can be assigned to. -/
def isName : Expr → Bool
  | name _ => true
  | _ => false

/-- Comparison with numbers taken as numbers. -/
def equal : Expr → Expr → Bool
  | number x, number y => x == y
  | name m, name n => m == n
  | operation o l r, operation p l' r' => o == p && equal l l' && equal r r'
  | _, _ => false

instance : BEq Expr := ⟨equal⟩

/-- The expressions to try in place of one that fails a check: the sides of an operator, of an
assignment only the right one. -/
def shrink : Expr → List Expr
  | operation .assign _ right => [right]
  | operation (.arithmetic _) left right => [left, right]
  | _ => []

end Expr

end Calculator
