/-
# Calculator.Token — the pieces of a line

A line falls into numbers, words and symbols.  Tokens are compared in two ways.  Identity (`=`) tells
apart any two tokens that are not the same.  The comparison `==` looks at numbers as numbers: zero
equals minus zero, and what is not a number differs from everything.
-/

import Calculator.Number.Literal
import Calculator.Number.Shortest

namespace Calculator

/-- A piece of a line. -/
inductive Token where
  | number (value : Float)
  | word (text : String)
  | symbol (char : Char)
  deriving DecidableEq

namespace Token

/-- The text of a token: the text of the number, the word itself, the symbol itself. -/
def text : Token → String
  | number value => Binary64.text value
  | word text => text
  | symbol char => String.singleton char

/-- Comparison with numbers taken as numbers. -/
def equal : Token → Token → Bool
  | number x, number y => x == y
  | word v, word w => v == w
  | symbol c, symbol d => c == d
  | _, _ => false

instance : BEq Token := ⟨equal⟩

/-- The token of a run of characters that are neither blank nor separators: a number if it is a
literal, else a word. -/
def ofRun (run : List Char) : Token :=
  match Literal.value? run with
  | some value => number value
  | none => word (String.ofList run)

end Token

end Calculator
