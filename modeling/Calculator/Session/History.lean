/-
# Calculator.Session.History — the last lines that had a value

A history keeps its most recent entries, oldest first, up to a fixed number of them.  A line that
repeats the latest entry is not recorded again.  A history without room records every line and keeps
none of them.
-/

namespace Calculator

/-- The most recent lines, oldest first. -/
structure History where
  capacity : Nat
  entries : List String
  within : entries.length ≤ capacity

namespace History

/-- The history without entries that has room for a number of them.  The room is made at once, so the
number has to be one that memory has room for; a larger one aborts the program before it has a history,
which is not told here. -/
def empty (capacity : Nat) : History := ⟨capacity, [], Nat.zero_le capacity⟩

/-- The last elements of a list, at most so many. -/
def lastEntries (count : Nat) (entries : List String) : List String :=
  entries.drop (entries.length - count)

theorem length_lastEntries_le (count : Nat) (entries : List String) :
    (lastEntries count entries).length ≤ count := by
  simp only [lastEntries, List.length_drop]
  omega

/-- Whether a line differs from the latest entry and so gets recorded. -/
def accepts (history : History) (line : String) : Bool :=
  history.entries.getLast? != some line

/-- The history after a line. -/
def push (history : History) (line : String) : History :=
  if history.accepts line then
    ⟨history.capacity, lastEntries history.capacity (history.entries ++ [line]),
      length_lastEntries_le ..⟩
  else history

/-- How many entries there are. -/
def size (history : History) : Nat := history.entries.length

/-- Whether there are no entries. -/
def isEmpty (history : History) : Bool := history.entries.isEmpty

end History

end Calculator
