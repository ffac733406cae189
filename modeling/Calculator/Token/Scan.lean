/-
# Calculator.Token.Scan — from the text of a line to its tokens

The text is read from its end to its beginning.  What has been read so far is a run of characters that
may still grow on its left, and the finished tokens after it.  A blank finishes the run and leaves
nothing of its own; a separator finishes it and becomes a symbol; any other character joins it.  A
blank is a blank even in a set of separators that contains it.

Every character is either blank, a separator or part of a run, so the scan never fails and leaves no
text behind.
-/

import Calculator.Text.Blank
import Calculator.Token
import Calculator.Separators

namespace Calculator

/-- A scan in progress: the characters of the run that is still open, and the tokens behind it. -/
structure Scan where
  run : List Char
  tokens : List Token

namespace Scan

/-- The scan of the empty text. -/
def empty : Scan := ⟨[], []⟩

/-- The tokens of a scan once its run is finished; an empty run is no token. -/
def finish (scan : Scan) : List Token :=
  if scan.run = [] then scan.tokens else Token.ofRun scan.run :: scan.tokens

/-- The scan with one more character in front. -/
def push (separators : Separators) (c : Char) (scan : Scan) : Scan :=
  if Text.isBlank c then ⟨[], scan.finish⟩
  else if separators.contains c then ⟨[], .symbol c :: scan.finish⟩
  else ⟨c :: scan.run, scan.tokens⟩

/-- The scan of a whole text. -/
def ofChars (separators : Separators) (cs : List Char) : Scan :=
  cs.foldr (push separators) empty

end Scan

namespace Separators

/-- The tokens of a text. -/
def tokens (separators : Separators) (text : String) : List Token :=
  (Scan.ofChars separators text.toList).finish

end Separators

end Calculator
