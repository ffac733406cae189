/-
# Calculator.Parse.Operand — from tokens to one expression

An operand is a number, a name, or a bracket with an operator between two operands:

    operand  =  number  |  name  |  '(' operand operator operand ')'

Reading goes from left to right and looks at one token at a time, so the first token that cannot be
right decides the error.  Brackets may be `maxDepth` deep.  The reader counts the levels that are
still free; an opening bracket takes one, and the count falls on the way into an operand, which is why
the recursion ends.

An operator may come as a symbol or as a word of its single character: separators that lack it leave
it a word when it stands alone.  Whether an assignment has a variable on its left is looked at when
its bracket closes, after the pair has been reported.
-/

import Calculator.Parse.Event

namespace Calculator.Parse

/-- How deep brackets may be nested. -/
def maxDepth : Nat := 256

/-! ## The parts of a bracket -/

/-- The single character of a symbol or of a one-character word. -/
def operatorChar? : Token → Option Char
  | .symbol c => some c
  | .word text =>
    match text.toList with
    | [c] => some c
    | _ => none
  | .number _ => none

/-- The operator that a token stands for. -/
def operator? (token : Token) : Option Operator :=
  (operatorChar? token).bind Operator.ofSymbol?

/-- The operator at the front of the tokens, and the tokens behind it. -/
def operator : List Token → Traced (Operator × List Token)
  | [] => .fail .malformedExpression
  | token :: rest =>
    match operator? token with
    | some operator => .ok (operator, rest)
    | none => .fail (.unknownOperator token)

/-- The operation whose closing bracket is at the front of the tokens, and the tokens behind it. -/
def close (left : Expr) (operator : Operator) (right : Expr) :
    List Token → Traced (Expr × List Token)
  | .symbol ')' :: rest => do
    .report (.group left operator right)
    if operator = .assign ∧ left.isName = false then .fail (.invalidAssignmentTarget left)
    else return (.operation operator left right, rest)
  | _ => .fail .malformedExpression

/-! ## Operands and whole expressions -/

/-- The operand at the front of the tokens, and the tokens behind it, with so many levels of brackets
still free. -/
def operand : Nat → List Token → Traced (Expr × List Token)
  | _, .number value :: rest => .ok (.number value, rest)
  | _, .word text :: rest =>
    if Name.isValid text then .ok (.name ⟨text⟩, rest)
    else .fail (.invalidToken (some (.word text)))
  | 0, .symbol '(' :: _ => .fail (.tooDeep maxDepth)
  | levels + 1, .symbol '(' :: rest => do
    let (left, rest) ← operand levels rest
    let (operator, rest) ← operator rest
    let (right, rest) ← operand levels rest
    close left operator right rest
  | _, tokens => .fail (.invalidToken tokens.head?)

/-- The expression at the front of the tokens.  What follows it is reported and otherwise ignored. -/
def expression (tokens : List Token) : Traced Expr := do
  let (expr, rest) ← operand maxDepth tokens
  .report (.expression expr)
  if rest ≠ [] then
    .report (.remaining rest)
  return expr

end Calculator.Parse
