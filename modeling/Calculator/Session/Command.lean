/-
# Calculator.Session.Command — what a line asks for

A line loses the blanks at its ends first.  A few words are commands of their own; every other text is
an expression to evaluate, with those blanks gone.
-/

import Calculator.Text.Blank

namespace Calculator

/-- What a line asks for. -/
inductive Command where
  | empty
  | environment
  | history
  | quit
  | evaluate (text : String)
  deriving DecidableEq

namespace Command

/-- What a text without blanks at its ends asks for. -/
def ofTrimmed (text : String) : Command :=
  if text = "" then empty
  else if text = "env" then environment
  else if text = "history" then history
  else if text = "quit" ∨ text = "exit" then quit
  else evaluate text

/-- What a line asks for. -/
def ofLine (line : String) : Command :=
  ofTrimmed (Text.trim line)

end Command

end Calculator
