/-
# Calculator.Proofs.CommandLine.Framing — no input breaks the lines of the output

Some of what is printed comes from the input: a message shows a token or an expression, the environment
shows names, and the history shows whole lines.  None of this can bring a line feed into the output.
Messages and names are safe whatever the input is, since a line feed is a blank to the scanner and no
letter.  For the history it takes an invariant: its entries are lines that were handled, so they are
safe as long as those were (`Framed.run`).

So each answer is printed as a number of whole lines that is known beforehand, one for most of them
(`printed_in_lines`).  Lines of input never have a line feed in them, and backspaces bring none in, so
a run of the prompt prints whole lines only, on any bytes (`isLine_of_mem_run`).
-/

import Calculator.Proofs.CommandLine.Modes
import Calculator.Proofs.Parse.Message
import Calculator.Proofs.Session.History
import Calculator.Proofs.Session.Variables
import Calculator.Proofs.Text.Backspace

namespace Calculator

open Text (IsLine)

/-! ## Whole lines -/

/-- A text of so many lines: there are so many line feeds, and one of them at the end. -/
def IsLines (count : Nat) (text : String) : Prop :=
  text.toList.count '\n' = count ∧ (text = "" ∨ text.toList.getLast? = some '\n')

theorem isLines_unlines {lines : List String} (all : ∀ line ∈ lines, IsLine line) :
    IsLines lines.length (unlines lines) := by
  induction lines with
  | nil => exact ⟨by decide, Or.inl rfl⟩
  | cons line lines ih =>
      obtain ⟨first, later⟩ := List.forall_mem_cons.mp all
      obtain ⟨count, ends⟩ := ih later
      rw [unlines_cons]
      constructor
      · rw [String.toList_append, String.toList_append, List.count_append, List.count_append, count,
          List.count_eq_zero_of_not_mem first, List.length_cons]
        exact Nat.add_comm _ _
      · refine Or.inr ?_
        rcases ends with none | feed
        · simp [none]
        · rw [String.toList_append, List.getLast?_append, feed]
          rfl

/-! ## Sessions -/

theorem Environment.isLine_text {env : Environment} (names : env.NamesValid) : IsLine env.text := by
  rw [text, Text.isLine_append, Text.isLine_append]
  refine ⟨⟨by decide, Text.isLine_intercalate (by decide) ?_⟩, by decide⟩
  intro shown mem
  obtain ⟨entry, inside, rfl⟩ := List.mem_map.mp mem
  rw [entryText, Text.isLine_append, Text.isLine_append]
  have valid := names entry.1 (List.mem_map_of_mem inside)
  exact ⟨⟨Name.isLine_of_isValid valid, by decide⟩, Binary64.isLine_text entry.2⟩

theorem History.mem_of_mem_push {history : History} {line entry : String}
    (mem : entry ∈ (history.push line).entries) : entry ∈ history.entries ∨ entry = line := by
  rw [entries_push] at mem
  split at mem
  · have inside := (List.drop_suffix _ _).mem mem
    rwa [List.mem_append, List.mem_singleton] at inside
  · exact Or.inl mem

namespace Session

/-- What a session may show of earlier lines has no line feed in it: its names can be typed, and each
entry of its history is on one line. -/
structure Framed (session : Session) : Prop where
  names : session.environment.NamesValid
  entries : ∀ entry ∈ session.history.entries, IsLine entry

theorem framed_start (config : Config) : (start config).Framed where
  names := Environment.namesValid_empty
  entries _ mem := absurd mem List.not_mem_nil

variable {session : Session}

theorem Framed.handle (h : session.Framed) {line : String} (isLine : IsLine line) :
    (session.handle line).2.Framed where
  names := namesValid_handle h.names line
  entries := by
    rw [handle_history]
    split
    · intro entry mem
      rcases History.mem_of_mem_push mem with old | rfl
      · exact h.entries entry old
      · exact isLine.trim
    · exact h.entries

/-- **Lines without a line feed leave a session that shows none.** -/
theorem Framed.run (h : session.Framed) {lines : List String} (all : ∀ line ∈ lines, IsLine line) :
    (session.run lines).2.Framed := by
  induction lines generalizing session with
  | nil => exact h
  | cons line lines ih =>
      obtain ⟨first, later⟩ := List.forall_mem_cons.mp all
      rw [run_cons]
      exact ih (h.handle first) later

/-! ## Answers -/

theorem rejected_of_handle {line : String} {error : Parse.Error}
    (failed : (session.handle line).1 = .error (.parse error)) :
    (session.separators.parse (Text.trim line)).result = .error error := by
  unfold handle at failed
  cases asked : Command.ofLine line with
  | evaluate text =>
      rw [← Command.eq_trim_of_ofLine asked]
      apply Separators.parse_of_interpret_error
      simp only [asked, evaluate] at failed
      split at failed
      · rename_i found _ run
        rw [run]
        exact congrArg _ (Except.error.inj failed)
      · exact absurd failed (by simp)
  | _ => exact absurd failed (by simp [asked])

/-- What the reply shows of the session is what the session holds. -/
def Gives (session : Session) : Reply → Prop
  | .environment text => text = session.environment.text
  | .history entries => entries = session.history.entries
  | _ => True

theorem gives_of_handle {line : String} {reply : Reply}
    (answered : (session.handle line).1 = .ok reply) : session.Gives reply := by
  unfold handle at answered
  cases asked : Command.ofLine line with
  | evaluate text =>
      simp only [asked, evaluate] at answered
      split at answered
      · exact absurd answered (by simp)
      · obtain rfl := Except.ok.inj answered
        trivial
  | environment =>
      rw [asked] at answered
      exact (Except.ok.inj answered) ▸ rfl
  | history =>
      rw [asked] at answered
      exact (Except.ok.inj answered) ▸ rfl
  | _ =>
      rw [asked] at answered
      exact (Except.ok.inj answered) ▸ trivial

/-- **The message for a line without a value is on one line**, also if the line itself is not. -/
theorem isLine_message {line : String} {error : Error}
    (failed : (session.handle line).1 = .error error) : IsLine error.message := by
  obtain ⟨cause, rfl⟩ := parse_of_handle_error failed
  exact Separators.isLine_message (rejected_of_handle failed)

end Session

namespace CommandLine

variable {session : Session} {text : String} {line : List UInt8}

/-- How many lines show an answer of the session. -/
def lineCount (session : Session) : Except Error Reply → Nat
  | .error _ => 1
  | .ok .nothing => 0
  | .ok (.value _) => 1
  | .ok (.environment _) => 1
  | .ok (.history _) => session.history.size + 2
  | .ok .quit => 1

theorem length_shown (session : Session) (text : String) :
    (shown (session.handle text).1).length = lineCount session (session.handle text).1 := by
  cases answer : (session.handle text).1 with
  | error error => rfl
  | ok reply =>
      have gives := Session.gives_of_handle answer
      cases reply with
      | history entries =>
          obtain rfl : entries = session.history.entries := gives
          simp [shown, Reply.lines, lineCount, History.size]
      | _ => rfl

theorem isLine_of_mem_shown (framed : session.Framed) {printed : String}
    (mem : printed ∈ shown (session.handle text).1) : IsLine printed := by
  cases answer : (session.handle text).1 with
  | error error =>
      rw [answer] at mem
      obtain rfl := List.mem_singleton.mp mem
      exact Text.isLine_append.mpr ⟨by decide, Session.isLine_message answer⟩
  | ok reply =>
      have gives := Session.gives_of_handle answer
      rw [answer] at mem
      cases reply with
      | nothing => exact absurd mem List.not_mem_nil
      | value value =>
          obtain rfl := List.mem_singleton.mp mem
          exact Binary64.isLine_text value
      | environment text =>
          obtain rfl := List.mem_singleton.mp mem
          obtain rfl : text = session.environment.text := gives
          exact Text.isLine_append.mpr ⟨by decide, Environment.isLine_text framed.names⟩
      | history entries =>
          obtain rfl : entries = session.history.entries := gives
          simp only [shown, Reply.lines, List.mem_cons, List.mem_append, List.mem_map,
            List.not_mem_nil, or_false] at mem
          rcases mem with rfl | ⟨entry, inside, rfl⟩ | rfl
          · decide
          · exact Text.isLine_append.mpr ⟨by decide, framed.entries entry inside⟩
          · decide
      | quit =>
          obtain rfl := List.mem_singleton.mp mem
          decide

/-! ## The prompt -/

/-- What a turn prints among the answers. -/
def Turn.output : Turn → List String
  | .next output _ => output
  | .last transcript => transcript.output

/-- A turn prints the answer to the text of its line, also if it is the last one. -/
theorem output_turn (read : readText line = .ok text) :
    (turn session line).output = shown (session.handle text).1 := by
  by_cases asked : Command.ofLine text = .quit
  · rw [turn, LineReader.turn_of_quit read asked, Session.handle_of_quit asked]
    rfl
  · rw [turn, LineReader.turn_of_text read asked]
    rfl

theorem isLine_of_readText (free : Text.lineFeed ∉ line) (read : readText line = .ok text) :
    IsLine text := by
  unfold readText at read
  split at read
  · exact absurd read (by simp)
  · rename_i typed decoded
    split at read
    · exact absurd read (by simp)
    · rename_i left erased
      obtain rfl := Except.ok.inj read
      intro mem
      exact Text.isLine_of_decode? decoded free (Text.mem_of_applyBackspaces? erased mem)

theorem isLine_of_mem_prompt (framed : session.Framed) {lines : List (List UInt8)}
    (free : ∀ line ∈ lines, Text.lineFeed ∉ line) {printed : String}
    (mem : printed ∈ (prompt session lines).output ++ (prompt session lines).errors) :
    IsLine printed := by
  induction lines generalizing session with
  | nil =>
      obtain rfl := List.mem_singleton.mp mem
      decide
  | cons line lines ih =>
      obtain ⟨freeFirst, freeLater⟩ := List.forall_mem_cons.mp free
      cases read : readText line with
      | error error =>
          rw [prompt, LineReader.prompt_of_unread read] at mem
          obtain rfl := List.mem_singleton.mp mem
          cases error <;> decide
      | ok text =>
          by_cases asked : Command.ofLine text = .quit
          · rw [prompt, LineReader.prompt_of_quit read asked] at mem
            obtain rfl := List.mem_singleton.mp mem
            decide
          · rw [prompt, LineReader.prompt_of_text read asked] at mem
            simp only [Transcript.after, List.append_assoc, List.mem_append] at mem
            rcases mem with here | later
            · exact isLine_of_mem_shown framed here
            · exact ih (framed.handle (isLine_of_readText freeFirst read)) freeLater
                (List.mem_append.mpr later)

/-- **The prompt prints whole lines**, whatever bytes it is given. -/
theorem isLine_of_mem_run (options : Options) (input : List UInt8) {printed : String}
    (mem : printed ∈ (run { options with expressions := [] } input).output
      ++ (run { options with expressions := [] } input).errors) : IsLine printed := by
  rw [run, LineReader.run_eq_prompt] at mem
  exact isLine_of_mem_prompt (Session.framed_start _)
    (fun _ inside => Text.lineFeed_notMem_of_mem_lines inside) mem

/-- **Each answer is printed in lines of its own.**  Take any session that is reached by handling lines
without a line feed, with any separators, and any further text.  What the prompt prints for the text is
as many lines as its answer takes (`lineCount`): one for a value, the environment, farewell and every
error, none for a line of blanks, and two more than there are entries for the history.  There is no line
feed in the text of a value, in what shows the environment, in a message or in an entry. -/
theorem printed_in_lines (config : Session.Config) {earlier : List String}
    (isLines : ∀ line ∈ earlier, '\n' ∉ line.toList) (text : String) :
    let session := ((Session.start config).run earlier).2
    let answer := (session.handle text).1
    let printed := unlines (shown answer)
    (∀ line, readText line = .ok text → (turn session line).output = shown answer)
    ∧ IsLines (lineCount session answer) printed
    ∧ (Text.trim text = "" → printed = "")
    ∧ (∀ value, answer = .ok (.value value) → '\n' ∉ (Binary64.text value).toList)
    ∧ '\n' ∉ session.environment.text.toList
    ∧ (∀ error, answer = .error error → '\n' ∉ error.message.toList)
    ∧ ∀ entry ∈ session.history.entries, '\n' ∉ entry.toList := by
  intro session answer printed
  have framed : session.Framed := (Session.framed_start config).run isLines
  refine ⟨?_, ?_, ?_, ?_, Environment.isLine_text framed.names, ?_, framed.entries⟩
  · intro line read
    exact output_turn read
  · have whole : ∀ shownLine ∈ shown answer, IsLine shownLine := by
      intro shownLine mem
      exact isLine_of_mem_shown framed mem
    have count : (shown answer).length = lineCount session answer := length_shown session text
    rw [← count]
    exact isLines_unlines whole
  · intro blank
    have nothing : answer = .ok .nothing := by
      show (session.handle text).1 = _
      rw [Session.handle, Command.ofLine, blank]
      rfl
    show unlines (shown answer) = ""
    rw [nothing]
    rfl
  · intro value _
    exact Binary64.isLine_text value
  · intro error failed
    exact Session.isLine_message failed

/-- The separators are the brackets, the sign of assignment and a line feed.  The history has room for two
of the three lines that had a value; a word with a quote in it is shown in a message. -/
theorem printed_in_lines_two :
    let config : Session.Config := ⟨.ofString "()=\n", 2⟩
    let earlier := ["7", " (a = 1)", "\t", "(a = 2)\r"]
    let session := ((Session.start config).run earlier).2
    (∀ line ∈ earlier, '\n' ∉ line.toList)
      ∧ IsLines 4 (unlines (shown (session.handle " history").1))
      ∧ IsLines 1 (unlines (shown (session.handle "(\"\r\u2028").1))
      ∧ '\n' ∉ session.environment.text.toList := by
  intro config earlier session
  have free : ∀ line ∈ earlier, '\n' ∉ line.toList := by decide
  obtain ⟨-, history, -, -, dump, -, -⟩ := printed_in_lines config free " history"
  obtain ⟨-, message, -, -, -, -, -⟩ := printed_in_lines config free "(\"\r\u2028"
  have four : lineCount session (session.handle " history").1 = 4 := by decide +kernel
  have one : lineCount session (session.handle "(\"\r\u2028").1 = 1 := by decide +kernel
  rw [four] at history
  rw [one] at message
  exact ⟨free, history, message, dump⟩

end CommandLine

end Calculator
