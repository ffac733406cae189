/-
# Calculator.CommandLine — what the program prints

The program has two ways of running a session.  Given expressions, it answers each in turn and stops
with an error at the first one that has no value.  Without expressions it is a prompt: it reads lines,
prints errors among the answers and goes on, until a line asks it to quit or there are no more.

A run is described by its `Transcript`: the lines on the two outputs and the exit status.  The prompt
is a chain of `Turn`s, one for each line, so it can be run line by line as well as all at once.

Nothing in the prompt depends on how the bytes of a line become a text, so a prompt can be run with any
`LineReader`.  The program has one of its own, `readText`.
-/

import Calculator.Random.Expr
import Calculator.Random.Xoshiro
import Calculator.Session
import Calculator.Text.Backspace
import Calculator.Text.Line

namespace Calculator

/-! ## Printed lines -/

/-- What a run of the program prints, line by line, and the status it ends with. -/
structure Transcript where
  output : List String := []
  errors : List String := []
  status : Nat := 0
  deriving DecidableEq

/-- Lines as one text, with a line feed behind each. -/
def unlines (lines : List String) : String :=
  String.join (lines.map (· ++ "\n"))

/-- A transcript with more lines in front of its output. -/
def Transcript.after (lines : List String) (transcript : Transcript) : Transcript :=
  { transcript with output := lines ++ transcript.output }

/-- The last line of a session that was left or came to its end. -/
def farewell : String := "bye!"

/-- The lines that show the answer to a line. -/
def Reply.lines : Reply → List String
  | nothing => []
  | value x => [Binary64.text x]
  | environment text => ["ENV = " ++ text]
  | history entries => "HISTORY:" :: (entries.map ("\t" ++ ·) ++ ["END"])
  | quit => [farewell]

/-- The line that reports a message of failure. -/
def failureLine (message : String) : String := "error: " ++ message

namespace CommandLine

/-! ## Options -/

/-- What the program is asked to do. -/
structure Options where
  expressions : List String := []
  historySize : Nat := History.defaultCapacity
  legacySeparators : Bool := false
  deriving DecidableEq

/-- The session that the options ask for. -/
def Options.session (options : Options) : Session :=
  .start
    { separators := if options.legacySeparators then .legacy else .standard
      historySize := options.historySize }

/-! ## Expressions in turn -/

/-- The run that answers expressions in turn. -/
def answerAll : Session → List String → Transcript
  | _, [] => {}
  | session, text :: rest =>
    match session.handle text with
    | (.error error, _) => { errors := [failureLine error.message], status := 1 }
    | (.ok .quit, _) => { output := Reply.quit.lines }
    | (.ok reply, session) => (answerAll session rest).after reply.lines

/-! ## The prompt -/

/-- What one line does to the prompt: it prints and goes on with a session, or it is the last. -/
inductive Turn where
  | next (output : List String) (session : Session)
  | last (transcript : Transcript)

/-- Why a line of input has no text. -/
inductive InputError where
  | notUtf8
  /-- A backspace would erase a part of a character. -/
  | splitCharacter
  deriving DecidableEq

/-- The description of the error.  A run in which a character is split is aborted, and the machine prints
a report of its own then; the second text only stands in its place. -/
def InputError.message : InputError → String
  | notUtf8 => "stream did not contain valid UTF-8"
  | splitCharacter => "backspace splits a character"

/-- The status of a run that the error ends. -/
def InputError.status : InputError → Nat
  | notUtf8 => 1
  | splitCharacter => 101

/-- A way to read lines of input: the text of a line, or why it has none. -/
abbrev LineReader := List UInt8 → Except InputError String

/-- The text of a line of input, once its backspaces have done their work. -/
def readText : LineReader := fun line =>
  match Text.decode? line with
  | none => .error .notUtf8
  | some typed =>
    match Text.applyBackspaces? typed with
    | none => .error .splitCharacter
    | some text => .ok text

namespace LineReader

variable (read : LineReader)

/-- The turn of a line of input.  A line without a text ends the run. -/
def turn (session : Session) (line : List UInt8) : Turn :=
  match read line with
  | .error error => .last { errors := [failureLine error.message], status := error.status }
  | .ok text =>
    match session.handle text with
    | (.error error, session) => .next [failureLine error.message] session
    | (.ok .quit, _) => .last { output := Reply.quit.lines }
    | (.ok reply, session) => .next reply.lines session

/-- The run of the prompt on lines of input. -/
def prompt : Session → List (List UInt8) → Transcript
  | _, [] => { output := Reply.quit.lines }
  | session, line :: rest =>
    match read.turn session line with
    | .next output session => (prompt session rest).after output
    | .last transcript => transcript

/-- The run of the program on the bytes of its input, which are not looked at when expressions are
given. -/
def run (options : Options) (input : List UInt8) : Transcript :=
  if options.expressions = [] then read.prompt options.session (Text.lines input)
  else answerAll options.session options.expressions

end LineReader

/-- The turn of a line as the program reads it. -/
def turn : Session → List UInt8 → Turn := readText.turn

/-- The prompt on lines as the program reads them. -/
def prompt : Session → List (List UInt8) → Transcript := readText.prompt

/-- The run of the program on the bytes of its input. -/
def run : Options → List UInt8 → Transcript := readText.run

/-! ## Random expressions -/

/-- The run that prints a random expression of a size, drawn from a seed of thirty-two bytes. -/
def generate (size : Nat) (seed : List UInt8) : Transcript :=
  let expr := (Random.expr size (Random.Xoshiro.ofSeed seed)).1
  { output := [expr.source]
    errors := ["Generating an expression of size " ++ toString size] }

end CommandLine

end Calculator
