/-
# Calculator.Text.Line — bytes into lines, and lines into text

Input is a sequence of bytes.  A line ends at a line feed, and a carriage return directly in front of
that is part of the end.  Bytes behind the last line feed are a line too.  Lines are found before
anything is known about the encoding, so one line that is not UTF-8 does not touch the others.
-/

namespace Calculator.Text

/-- The byte that ends a line. -/
def lineFeed : UInt8 := 0x0A

/-- The byte that may stand in front of a line feed. -/
def carriageReturn : UInt8 := 0x0D

/-- A line in reverse without the carriage return at its end. -/
def dropReturn : List UInt8 → List UInt8
  | [] => []
  | byte :: rest => if byte = carriageReturn then rest else byte :: rest

/-- The lines of some bytes behind an open line, which is given in reverse. -/
def linesFrom (line : List UInt8) : List UInt8 → List (List UInt8)
  | [] => if line = [] then [] else [line.reverse]
  | byte :: rest =>
    if byte = lineFeed then (dropReturn line).reverse :: linesFrom [] rest
    else linesFrom (byte :: line) rest

/-- The lines of some bytes, without their ends. -/
def lines (bytes : List UInt8) : List (List UInt8) := linesFrom [] bytes

/-- The text that bytes encode in UTF-8, if they encode one. -/
def decode? (bytes : List UInt8) : Option String :=
  String.fromUTF8? ⟨bytes.toArray⟩

end Calculator.Text
