/-
# Calculator.Log — records of what happened

A record is a line of text with a level.  The levels in use tell apart single steps, results, and what
a user should be warned about.
-/

namespace Calculator.Log

/-- How much a record matters. -/
inductive Level where
  | trace
  | debug
  | warn
  deriving DecidableEq

/-- The word for a level. -/
def Level.name : Level → String
  | trace => "TRACE"
  | debug => "DEBUG"
  | warn => "WARN"

/-- A line of text with its level. -/
structure Record where
  level : Level
  text : String
  deriving DecidableEq

end Calculator.Log
