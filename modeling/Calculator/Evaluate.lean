/-
# Calculator.Evaluate — the value of an expression

Evaluation reads and changes an environment.  The left side of an arithmetic operator is evaluated
before the right one, so an assignment on the left is seen on the right.  An assignment has the value
of its right side, and makes it the value of the variable once that side is evaluated.

An assignment to anything but a variable fails before its right side is looked at.  Whatever was
assigned before a failure stays assigned, which is why an environment comes back in either case.
-/

import Calculator.Environment

namespace Calculator

namespace Evaluate

/-- Why an expression has no value. -/
inductive Error where
  /-- The left side of an assignment is not a variable. -/
  | invalidAssignmentTarget (target : Expr)
  deriving DecidableEq

/-- The message that reports an error. -/
def Error.message : Error → String
  | invalidAssignmentTarget target => "cannot assign to " ++ target.canonical

end Evaluate

/-- The value of an expression, or why it has none, and the environment afterwards. -/
def Expr.evaluate : Expr → Environment → Except Evaluate.Error Float × Environment
  | .number value, env => (.ok value, env)
  | .name n, env => (.ok (env.lookup n), env)
  | .operation (.arithmetic arithmetic) left right, env =>
    match left.evaluate env with
    | (.error error, env) => (.error error, env)
    | (.ok x, env) =>
      match right.evaluate env with
      | (.error error, env) => (.error error, env)
      | (.ok y, env) => (.ok (arithmetic.apply x y), env)
  | .operation .assign (.name n) right, env =>
    match right.evaluate env with
    | (.error error, env) => (.error error, env)
    | (.ok value, env) => (.ok value, env.assign n value)
  | .operation .assign target _, env => (.error (.invalidAssignmentTarget target), env)

end Calculator
