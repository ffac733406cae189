/-
# Calculator.CommandLine.Arguments — the words after the program's name

`--eval TEXT` or `-e TEXT`, any number of times, gives expressions to answer; `--history-size N` sets
the room of the history and `--legacy-separators` chooses the smaller set of separators.  A long option
and its value may also be one word, as in `--eval=TEXT`.  `generate N` alone asks for a random
expression of size `N`.
-/

import Calculator.CommandLine

namespace Calculator.CommandLine

/-- What the program is asked for. -/
inductive Request where
  | run (options : Options)
  | generate (size : Nat)
  deriving DecidableEq

/-- The number that a word spells: ASCII digits, behind a plus sign or not, of a number that fits into
64 bits. -/
def number? (word : String) : Option Nat :=
  let digits :=
    match word.toList with
    | '+' :: rest => rest
    | cs => cs
  let number := Nat.ofDigitChars 10 digits 0
  if digits ≠ [] ∧ digits.all Char.isDigit ∧ number < UInt64.size then some number else none

/-- The value in a word that joins an option and its value by an equals sign. -/
def joined? (option : String) (word : String) : Option String :=
  let lead := (option ++ "=").toList
  if word.toList.take lead.length = lead then some (String.ofList (word.toList.drop lead.length))
  else none

/-- The options that a list of words spells, on top of given ones. -/
def options? (options : Options) : List String → Option Options
  | [] => some options
  | "--legacy-separators" :: rest => options? { options with legacySeparators := true } rest
  | "--eval" :: text :: rest | "-e" :: text :: rest =>
    options? { options with expressions := options.expressions ++ [text] } rest
  | "--history-size" :: word :: rest =>
    (number? word).bind fun size => options? { options with historySize := size } rest
  | word :: rest =>
    match joined? "--eval" word, joined? "--history-size" word with
    | some text, _ => options? { options with expressions := options.expressions ++ [text] } rest
    | none, some word =>
      (number? word).bind fun size => options? { options with historySize := size } rest
    | none, none => none

/-- What a list of words asks for. -/
def request? : List String → Option Request
  | ["generate", word] => (number? word).map .generate
  | words => (options? {} words).map .run

end Calculator.CommandLine
