/-
# Calculator.Interpret — one line of text against an environment

A line is scanned, parsed and evaluated.  A line that is no expression leaves the environment alone.
-/

import Calculator.Evaluate
import Calculator.Parse.Operand
import Calculator.Token.Scan

namespace Calculator

/-- Why a line has no value. -/
inductive Error where
  | parse (error : Parse.Error)
  | evaluation (error : Evaluate.Error)
  deriving DecidableEq

/-- The message that reports an error. -/
def Error.message : Error → String
  | parse error => error.message
  | evaluation error => error.message

/-- What parsing a text reports and gives. -/
def Separators.parse (separators : Separators) (text : String) : Parse.Traced Expr :=
  Parse.expression (separators.tokens text)

/-- The value of a line, or why it has none, and the environment afterwards. -/
def Separators.interpret (separators : Separators) (text : String) (env : Environment) :
    Except Error Float × Environment :=
  match (separators.parse text).result with
  | .error error => (.error (.parse error), env)
  | .ok expr =>
    match expr.evaluate env with
    | (.error error, env) => (.error (.evaluation error), env)
    | (.ok value, env) => (.ok value, env)

/-- The value of a line under the standard separators. -/
def interpret (text : String) (env : Environment) : Except Error Float × Environment :=
  Separators.standard.interpret text env

end Calculator
