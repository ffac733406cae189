/-
# Calculator.Main — the program

Reads bytes, hands them over and writes lines.  Everything that decides anything is a plain function
of `Calculator.CommandLine`.
-/

import Calculator.CommandLine.Arguments

namespace Calculator

/-- Writes lines and lets them be seen. -/
def printLines (stream : IO.FS.Stream) (lines : List String) : IO Unit := do
  stream.putStr (unlines lines)
  stream.flush

/-- Writes the lines of a finished run and gives its exit status. -/
def Transcript.print (transcript : Transcript) : IO UInt32 := do
  printLines (← IO.getStdout) transcript.output
  printLines (← IO.getStderr) transcript.errors
  return transcript.status.toUInt32

namespace CommandLine

/-- Reads the bytes up to the next line feed, or to the end of the input, behind those already
read. -/
partial def readLine (stream : IO.FS.Stream) (line : ByteArray) : IO ByteArray := do
  let bytes ← stream.read 1
  if bytes.isEmpty then return line
  let line := line ++ bytes
  if bytes.data.contains Text.lineFeed then return line
  readLine stream line

/-- Runs the prompt on the standard input, one line after another. -/
partial def promptLoop (session : Session) : IO UInt32 := do
  match Text.lines (← readLine (← IO.getStdin) .empty).toList with
  | [] => (prompt session []).print
  | line :: _ =>
    match turn session line with
    | .next output session =>
      printLines (← IO.getStdout) output
      promptLoop session
    | .last transcript => transcript.print

/-- Runs what was asked for. -/
def Request.perform : Request → IO UInt32
  | .run options =>
    if options.expressions = [] then promptLoop options.session
    else (answerAll options.session options.expressions).print
  | .generate size => do
    let seed ← IO.getRandomBytes 32
    (CommandLine.generate size seed.toList).print

end CommandLine

end Calculator

/-- The program. -/
def main (arguments : List String) : IO UInt32 := do
  match Calculator.CommandLine.request? arguments with
  | some request => request.perform
  | none =>
    let stderr ← IO.getStderr
    stderr.putStrLn "usage: [--eval TEXT]... [--history-size N] [--legacy-separators] | generate N"
    return 2
