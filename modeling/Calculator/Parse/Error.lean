/-
# Calculator.Parse.Error — why tokens are no expression

Each cause of failure carries what its message shows, and nothing else.
-/

import Calculator.Expr

namespace Calculator.Parse

/-- Why tokens are no expression. -/
inductive Error where
  /-- A number, a name or an opening bracket was due; another token, or no token, stood there. -/
  | invalidToken (token : Option Token)
  /-- An operator was due and another token stood there. -/
  | unknownOperator (token : Token)
  /-- The tokens ended before an operator, or a closing bracket was due and did not stand there. -/
  | malformedExpression
  /-- The left side of an assignment is not a variable. -/
  | invalidAssignmentTarget (target : Expr)
  /-- A bracket was opened inside as many brackets as are allowed. -/
  | tooDeep (limit : Nat)
  deriving DecidableEq

namespace Error

/-- The text of a token, or of its absence. -/
def describe : Option Token → String
  | some token => token.text
  | none => "end of input"

/-- The message that reports an error. -/
def message : Error → String
  | invalidToken token => "invalid token: " ++ describe token
  | unknownOperator token => "unknown operator: " ++ token.text
  | malformedExpression => "invalid expression: missing closing bracket?"
  | invalidAssignmentTarget target => "cannot assign to " ++ target.canonical
  | tooDeep limit => "expression nested deeper than " ++ toString limit ++ " brackets"

end Error

end Calculator.Parse
