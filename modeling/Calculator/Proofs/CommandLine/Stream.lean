/-
# Calculator.Proofs.CommandLine.Stream — the prompt and the bytes it is given

The prompt takes its input line by line and keeps nothing of it but the session.  So input may be cut
wherever a line has ended: what is printed for both parts is what is printed for the first, without
farewell, and then what a prompt prints that is given the second part and the session that the first
has left (`prompt_append_of_goesOn`).

Three things end a run: the end of the input, a line that asks to quit and a line that has no text.
The first two print farewell and end well, the third is an error (`prompt_outcome`), and nothing behind
a line that ends the run is looked at (`prompt_append_of_stops`).

Where lines end is settled by `Text.lines`; how a line becomes a text is left open.  All that is assumed
of a reader is that it has a text for each line in UTF-8 and refuses all others (`ReadsUtf8`).  The
program's own reader does so for every line in which no backspace splits a character, and there it
reads as `lenient`, which does so for all (`readText_eq_lenient`).  A split takes a cluster of 256 bytes
or more.
-/

import Calculator.Proofs.CommandLine.Modes
import Calculator.Proofs.Number.Shown
import Calculator.Proofs.Text.Backspace

namespace Calculator

/-! ## Lines that end a run -/

theorem Command.ofLine_eq_quit_iff {text : String} :
    ofLine text = .quit ↔ Text.trim text = "quit" ∨ Text.trim text = "exit" := by
  unfold ofLine ofTrimmed
  constructor
  · intro asked
    split at asked
    · exact absurd asked (by simp)
    · split at asked
      · exact absurd asked (by simp)
      · split at asked
        · exact absurd asked (by simp)
        · split at asked
          · assumption
          · exact absurd asked (by simp)
  · rintro (quit | exit)
    · rw [quit]
      decide
    · rw [exit]
      decide

namespace CommandLine

namespace LineReader

variable {read : LineReader} {session : Session} {text : String} {line : List UInt8}
  {lines before rest : List (List UInt8)}

/-- **What is assumed of a reader**: it has a text for each line in UTF-8, which need not be what was
typed, and it refuses every other line for not being UTF-8. -/
structure ReadsUtf8 (read : LineReader) : Prop where
  accepts : ∀ line, Text.decode? line ≠ none → ∃ text, read line = .ok text
  refuses : ∀ line, Text.decode? line = none → read line = .error .notUtf8

/-- The line is one of the two words that end a run, up to blanks around it. -/
def AsksToQuit (read : LineReader) (line : List UInt8) : Prop :=
  ∃ text, read line = .ok text ∧ (Text.trim text = "quit" ∨ Text.trim text = "exit")

/-- The line has a text that is answered, and the prompt goes on. -/
def GoesOn (read : LineReader) (line : List UInt8) : Prop :=
  ∃ text, read line = .ok text ∧ Command.ofLine text ≠ .quit

/-- A line that is not UTF-8 comes before any line that asks to quit. -/
def InvalidBeforeQuit (read : LineReader) (lines : List (List UInt8)) : Prop :=
  ∃ before line rest, lines = before ++ line :: rest ∧ Text.decode? line = none
    ∧ ∀ earlier ∈ before, ¬ read.AsksToQuit earlier

theorem asksToQuit_iff (reads : read line = .ok text) :
    read.AsksToQuit line ↔ Command.ofLine text = .quit := by
  rw [Command.ofLine_eq_quit_iff]
  constructor
  · rintro ⟨other, reads', asks⟩
    obtain rfl := Except.ok.inj (reads.symm.trans reads')
    exact asks
  · intro asks
    exact ⟨text, reads, asks⟩

instance (read : LineReader) : DecidablePred read.AsksToQuit := fun line =>
  match reads : read line with
  | .ok _ => decidable_of_iff _ (asksToQuit_iff reads).symm
  | .error _ => isFalse fun ⟨_, reads', _⟩ => nomatch reads.symm.trans reads'

theorem GoesOn.not_asksToQuit (h : read.GoesOn line) : ¬ read.AsksToQuit line := by
  obtain ⟨text, reads, goesOn⟩ := h
  rwa [asksToQuit_iff reads]

namespace ReadsUtf8

variable (assumed : read.ReadsUtf8)
include assumed

theorem valid_of_read (reads : read line = .ok text) : Text.decode? line ≠ none := by
  intro invalid
  exact absurd (reads.symm.trans (assumed.refuses line invalid)) (by simp)

theorem valid_of_asksToQuit (h : read.AsksToQuit line) : Text.decode? line ≠ none :=
  h.elim fun _ found => assumed.valid_of_read found.1

theorem valid_of_goesOn (h : read.GoesOn line) : Text.decode? line ≠ none :=
  h.elim fun _ found => assumed.valid_of_read found.1

theorem goesOn_of_valid (valid : Text.decode? line ≠ none) (noQuit : ¬ read.AsksToQuit line) :
    read.GoesOn line := by
  obtain ⟨text, reads⟩ := assumed.accepts line valid
  rw [asksToQuit_iff reads] at noQuit
  exact ⟨text, reads, noQuit⟩

/-- A line is not UTF-8, or asks to quit, or lets the prompt go on. -/
theorem line_cases (line : List UInt8) :
    Text.decode? line = none ∨ read.AsksToQuit line ∨ read.GoesOn line := by
  by_cases invalid : Text.decode? line = none
  · exact Or.inl invalid
  · by_cases asks : read.AsksToQuit line
    · exact Or.inr (Or.inl asks)
    · exact Or.inr (Or.inr (assumed.goesOn_of_valid invalid asks))

end ReadsUtf8

theorem invalidBeforeQuit_cons : read.InvalidBeforeQuit (line :: lines)
    ↔ Text.decode? line = none ∨ ¬ read.AsksToQuit line ∧ read.InvalidBeforeQuit lines := by
  constructor
  · rintro ⟨before, invalidLine, rest, same, invalid, never⟩
    cases before with
    | nil =>
        obtain ⟨rfl, -⟩ := List.cons.inj same
        exact Or.inl invalid
    | cons first before =>
        obtain ⟨rfl, behind⟩ := List.cons.inj same
        obtain ⟨neverFirst, neverLater⟩ := List.forall_mem_cons.mp never
        exact Or.inr ⟨neverFirst, before, invalidLine, rest, behind, invalid, neverLater⟩
  · rintro (invalid | ⟨neverFirst, before, invalidLine, rest, rfl, invalid, neverLater⟩)
    · exact ⟨[], line, lines, rfl, invalid, fun _ mem => absurd mem List.not_mem_nil⟩
    · exact ⟨line :: before, invalidLine, rest, rfl, invalid,
        List.forall_mem_cons.mpr ⟨neverFirst, neverLater⟩⟩

theorem not_invalidBeforeQuit_nil : ¬ read.InvalidBeforeQuit [] := by
  rintro ⟨before, line, rest, same, -⟩
  exact absurd same (by simp)

instance decidableInvalidBeforeQuit (read : LineReader) : DecidablePred read.InvalidBeforeQuit
  | [] => isFalse not_invalidBeforeQuit_nil
  | _ :: lines =>
    haveI := decidableInvalidBeforeQuit read lines
    decidable_of_iff _ invalidBeforeQuit_cons.symm

/-! ## A run cut in two -/

/-- The texts of lines, without the lines that have none. -/
def texts (read : LineReader) (lines : List (List UInt8)) : List String :=
  lines.filterMap fun line => (read line).toOption

/-- **The prompt goes on from the session that the first lines have left**, if none of them ends the
run. -/
theorem prompt_append_of_goesOn (session : Session) (goesOn : ∀ line ∈ before, read.GoesOn line)
    (rest : List (List UInt8)) :
    read.prompt session (before ++ rest)
      = (read.prompt (session.run (read.texts before)).2 rest).after
          ((session.run (read.texts before)).1.flatMap shown) := by
  induction before generalizing session with
  | nil => rfl
  | cons line before ih =>
      obtain ⟨⟨text, reads, noQuit⟩, later⟩ := List.forall_mem_cons.mp goesOn
      have inTurn : read.texts (line :: before) = text :: read.texts before := by
        rw [texts, List.filterMap_cons_some (by rw [reads]; rfl)]
        rfl
      rw [List.cons_append, prompt_of_text reads noQuit, ih _ later, after_after, inTurn,
        Session.run_cons, List.flatMap_cons]

/-- **What is behind a line that ends the run has no effect.** -/
theorem prompt_append_of_stops (assumed : read.ReadsUtf8)
    (stops : ∃ line ∈ before, read.AsksToQuit line ∨ Text.decode? line = none)
    (rest : List (List UInt8)) :
    read.prompt session (before ++ rest) = read.prompt session before := by
  induction before generalizing session with
  | nil =>
      obtain ⟨line, mem, -⟩ := stops
      exact absurd mem List.not_mem_nil
  | cons line before ih =>
      rw [List.cons_append]
      rcases assumed.line_cases line with invalid | ⟨text, reads, asks⟩ | goesOn
      · have unread := assumed.refuses line invalid
        rw [prompt_of_unread unread, prompt_of_unread unread]
      · have asked := Command.ofLine_eq_quit_iff.mpr asks
        rw [prompt_of_quit reads asked, prompt_of_quit reads asked]
      · have later : ∃ line ∈ before, read.AsksToQuit line ∨ Text.decode? line = none := by
          obtain ⟨stop, mem, ends⟩ := stops
          rcases List.mem_cons.mp mem with rfl | mem
          · exact absurd ends (not_or.mpr ⟨goesOn.not_asksToQuit, assumed.valid_of_goesOn goesOn⟩)
          · exact ⟨stop, mem, ends⟩
        obtain ⟨text, reads, noQuit⟩ := goesOn
        rw [prompt_of_text reads noQuit, prompt_of_text reads noQuit, ih later]

end LineReader

variable {session : Session} {text : String}

/-! ## How a run ends -/

/-- The run ends without an error, and farewell is its last line. -/
def EndsWell (transcript : Transcript) : Prop :=
  transcript.status = 0 ∧ transcript.errors = [] ∧ transcript.output.getLast? = some farewell

/-- The run is cut off by a line that is not UTF-8, and farewell is not printed. -/
def IsCutOff (transcript : Transcript) : Prop :=
  transcript.status = 1 ∧ transcript.errors = [failureLine InputError.notUtf8.message]
    ∧ farewell ∉ transcript.output

theorem EndsWell.after {transcript : Transcript} (h : EndsWell transcript) (printed : List String) :
    EndsWell (transcript.after printed) := by
  obtain ⟨status, errors, last⟩ := h
  refine ⟨status, errors, ?_⟩
  rw [Transcript.after, List.getLast?_append, last]
  rfl

theorem IsCutOff.after {transcript : Transcript} (h : IsCutOff transcript) {printed : List String}
    (free : farewell ∉ printed) : IsCutOff (transcript.after printed) := by
  obtain ⟨status, errors, never⟩ := h
  refine ⟨status, errors, ?_⟩
  rw [Transcript.after, List.mem_append, not_or]
  exact ⟨free, never⟩

theorem ne_farewell {printed : String} (other : printed.toList.head? ≠ some 'b') :
    farewell ≠ printed := by
  rintro rfl
  exact other (by decide)

/-- No answer looks like farewell, except to a text that asks to quit. -/
theorem farewell_notMem_shown (goesOn : Command.ofLine text ≠ .quit) :
    farewell ∉ shown (session.handle text).1 := by
  cases answer : (session.handle text).1 with
  | error error =>
      rw [shown, List.mem_singleton]
      exact ne_farewell (by simp [failureLine])
  | ok reply =>
      cases reply with
      | nothing => exact List.not_mem_nil
      | value value =>
          intro mem
          have inside : 'b' ∈ (Binary64.text value).toList := by
            have same : farewell = Binary64.text value := List.mem_singleton.mp mem
            rw [← same]
            decide
          rw [Binary64.text, String.toList_ofList] at inside
          exact absurd (Binary64.isShown_of_mem_chars inside) (by decide)
      | environment text =>
          rw [shown, Reply.lines, List.mem_singleton]
          exact ne_farewell (by simp)
      | history entries =>
          simp only [shown, Reply.lines, List.mem_cons, List.mem_append, List.mem_map,
            List.not_mem_nil, or_false]
          rintro (heading | ⟨entry, -, same⟩ | ending)
          · exact absurd heading (by decide)
          · exact ne_farewell (by simp) same.symm
          · exact absurd ending (by decide)
      | quit => exact absurd (Session.quit_of_handle answer) goesOn

namespace LineReader

variable {read : LineReader} {line : List UInt8}

/-- **How a run ends**: it is cut off if a line that is not UTF-8 is reached, and otherwise it ends
well. -/
theorem prompt_outcome (assumed : read.ReadsUtf8) (session : Session) (lines : List (List UInt8)) :
    (read.InvalidBeforeQuit lines ∧ IsCutOff (read.prompt session lines))
    ∨ (¬ read.InvalidBeforeQuit lines ∧ EndsWell (read.prompt session lines)) := by
  induction lines generalizing session with
  | nil => exact Or.inr ⟨not_invalidBeforeQuit_nil, rfl, rfl, rfl⟩
  | cons line lines ih =>
      rw [invalidBeforeQuit_cons]
      rcases assumed.line_cases line with invalid | asks | goesOn
      · rw [prompt_of_unread (assumed.refuses line invalid)]
        exact Or.inl ⟨Or.inl invalid, rfl, rfl, List.not_mem_nil⟩
      · have never :
            ¬ (Text.decode? line = none ∨ ¬ read.AsksToQuit line ∧ read.InvalidBeforeQuit lines) :=
          not_or.mpr ⟨assumed.valid_of_asksToQuit asks, fun invalid => invalid.1 asks⟩
        obtain ⟨text, reads, asked⟩ := asks
        rw [prompt_of_quit reads (Command.ofLine_eq_quit_iff.mpr asked)]
        exact Or.inr ⟨never, rfl, rfl, rfl⟩
      · rw [or_iff_right (assumed.valid_of_goesOn goesOn), and_iff_right goesOn.not_asksToQuit]
        obtain ⟨text, reads, noQuit⟩ := goesOn
        rw [prompt_of_text reads noQuit]
        rcases ih (session.handle text).2 with ⟨invalid, cutOff⟩ | ⟨never, well⟩
        · exact Or.inl ⟨invalid, cutOff.after (farewell_notMem_shown noQuit)⟩
        · exact Or.inr ⟨never, well.after _⟩

/-! ## The program's own reader -/

/-- Readers that read some lines alike print the same for them. -/
theorem prompt_congr {other : LineReader} {lines : List (List UInt8)}
    (alike : ∀ line ∈ lines, read line = other line) (session : Session) :
    read.prompt session lines = other.prompt session lines := by
  induction lines generalizing session with
  | nil => rfl
  | cons line lines ih =>
      obtain ⟨here, later⟩ := List.forall_mem_cons.mp alike
      rw [prompt, prompt, turn, turn, here]
      split
      · rw [ih later]
      · rfl

/-- Reads as the program does, except that a line stays as it was typed where a backspace in it would
split a character. -/
def lenient : LineReader := fun line =>
  match Text.decode? line with
  | none => .error .notUtf8
  | some typed => .ok ((Text.applyBackspaces? typed).getD typed)

theorem readsUtf8_lenient : lenient.ReadsUtf8 where
  accepts line valid := by
    obtain ⟨typed, decoded⟩ := Option.ne_none_iff_exists'.mp valid
    exact ⟨_, by rw [lenient, decoded]⟩
  refuses line invalid := by rw [lenient, invalid]

/-- **The program reads as `lenient` does** a line that has no backspace, or no cluster of 256 bytes or
more. -/
theorem readText_eq_lenient (short : ∀ typed, Text.decode? line = some typed →
    Text.backspace ∉ typed.toList
      ∨ ∀ cluster ∈ Text.clusters typed.toList, Text.utf8Size cluster < 256) :
    readText line = lenient line := by
  cases decoded : Text.decode? line with
  | none => rw [readText, lenient, decoded]
  | some typed =>
      have left : ∃ text, Text.applyBackspaces? typed = some text := by
        rcases short typed decoded with free | small
        · exact ⟨typed, Text.applyBackspaces?_of_not_mem typed free⟩
        · exact Text.exists_applyBackspaces? small
      obtain ⟨text, erased⟩ := left
      simp only [readText, lenient, decoded, erased, Option.getD_some]

end LineReader

/-! ## Input as a stream -/

open LineReader

/-- **The prompt handles its input as a stream.**  Take any reader that has a text for each line in
UTF-8 and refuses all others.  Cut the input where a line has ended, and let all lines in front of the
cut be UTF-8 and none ask to quit: what is printed is what the first part alone prints, without
farewell, and then what a prompt prints that is given the second part and the session reached, with the
errors and the status of that.  A run is cut off by an error exactly if a line that is not UTF-8 comes
before any line that asks to quit; all other runs end well, with farewell as the last line.  What is
behind the line that ends a run has no effect.

The program itself is such a prompt on all input whose lines its own reader reads alike. -/
theorem prompt_streams (options : Options) {read : LineReader} (assumed : read.ReadsUtf8) :
    let program := read.run { options with expressions := [] }
    (∀ first second, Text.IsClosed first →
      (∀ line ∈ Text.lines first, Text.decode? line ≠ none ∧ ¬ read.AsksToQuit line) →
      ∃ printed, program first = { output := printed ++ [farewell] }
        ∧ program (first ++ second)
            = (read.prompt (options.session.run (read.texts (Text.lines first))).2
                (Text.lines second)).after printed)
    ∧ (∀ input, (IsCutOff (program input) ↔ read.InvalidBeforeQuit (Text.lines input))
        ∧ (¬ read.InvalidBeforeQuit (Text.lines input) → EndsWell (program input)))
    ∧ (∀ first second, Text.IsClosed first →
        (∃ line ∈ Text.lines first, read.AsksToQuit line ∨ Text.decode? line = none) →
        program (first ++ second) = program first)
    ∧ ∀ input, (∀ line ∈ Text.lines input, readText line = read line) →
        run { options with expressions := [] } input = program input := by
  intro program
  have programIs : ∀ input, program input = read.prompt options.session (Text.lines input) := by
    intro input
    exact run_eq_prompt options input
  refine ⟨?_, ?_, ?_, ?_⟩
  · intro first second closed valid
    have goesOn : ∀ line ∈ Text.lines first, read.GoesOn line := by
      intro line mem
      exact assumed.goesOn_of_valid (valid line mem).1 (valid line mem).2
    refine ⟨(options.session.run (read.texts (Text.lines first))).1.flatMap shown, ?_, ?_⟩
    · have whole := prompt_append_of_goesOn options.session goesOn []
      rw [List.append_nil] at whole
      rw [programIs, whole]
      rfl
    · rw [programIs, Text.lines_append closed, prompt_append_of_goesOn options.session goesOn]
  · intro input
    rw [programIs]
    rcases prompt_outcome assumed options.session (Text.lines input) with
      ⟨invalid, cutOff⟩ | ⟨never, well⟩
    · exact ⟨iff_of_true cutOff invalid, fun never => absurd invalid never⟩
    · refine ⟨iff_of_false ?_ never, fun _ => well⟩
      intro cutOff
      exact absurd (well.1.symm.trans cutOff.1) (by decide)
  · intro first second closed stops
    rw [programIs, programIs, Text.lines_append closed, prompt_append_of_stops assumed stops]
  · intro input alike
    rw [programIs, run, run_eq_prompt, prompt_congr alike]

/-- A cut behind an assignment and a line with a backspace in it.  The second part reads what was
assigned, and its second line is not UTF-8; a request to quit in front of it all hides it.  The program
reads these lines as `lenient` does. -/
theorem prompt_streams_cut :
    let options : Options := { legacySeparators := true }
    let program := run { options with expressions := [] }
    let quit := Text.encode "quit\n"
    let first := Text.encode "(x = 1)\ny\x08\r\n"
    let second := Text.encode "x\n" ++ [0xFF, Text.lineFeed] ++ Text.encode "exit\n2"
    let cutOff : Transcript :=
      { output := ["1", "1"], errors := ["error: stream did not contain valid UTF-8"], status := 1 }
    lenient.ReadsUtf8 ∧ Text.IsClosed first
      ∧ (∀ line ∈ Text.lines first, Text.decode? line ≠ none ∧ ¬ lenient.AsksToQuit line)
      ∧ (∀ input ∈ [first, first ++ second, quit ++ (first ++ second)],
          ∀ line ∈ Text.lines input, readText line = lenient line)
      ∧ program first = { output := ["1", "bye!"] } ∧ program (first ++ second) = cutOff
      ∧ ¬ lenient.InvalidBeforeQuit (Text.lines first) ∧ EndsWell (program first)
      ∧ program (quit ++ (first ++ second)) = { output := ["bye!"] } := by
  intro options program quit first second cutOff
  have closed : Text.IsClosed first := by decide +kernel
  have valid : ∀ line ∈ Text.lines first, Text.decode? line ≠ none ∧ ¬ lenient.AsksToQuit line := by
    decide +kernel
  have alike : ∀ input ∈ [first, first ++ second, quit ++ (first ++ second)],
      ∀ line ∈ Text.lines input, readText line = lenient line := by decide +kernel
  have never : ¬ lenient.InvalidBeforeQuit (Text.lines first) := by decide +kernel
  have quits : ∃ line ∈ Text.lines quit,
      lenient.AsksToQuit line ∨ Text.decode? line = none := by decide +kernel
  obtain ⟨cut, outcome, unread, own⟩ := prompt_streams options readsUtf8_lenient
  have ownFirst := own first (alike first (by simp))
  have ownBoth := own (first ++ second) (alike (first ++ second) (by simp))
  have ownAll := own (quit ++ (first ++ second)) (alike (quit ++ (first ++ second)) (by simp))
  obtain ⟨printed, alone, both⟩ := cut first second closed valid
  have aloneIs : program first = { output := ["1", "bye!"] } := by decide +kernel
  have rest : lenient.prompt (options.session.run (lenient.texts (Text.lines first))).2
        (Text.lines second)
      = { output := ["1"], errors := ["error: stream did not contain valid UTF-8"], status := 1 } := by
    decide +kernel
  have printedIs : printed = ["1"] := by
    have outputs : printed ++ [farewell] = ["1"] ++ [farewell] :=
      congrArg Transcript.output (alone.symm.trans (ownFirst.symm.trans aloneIs))
    exact List.append_cancel_right outputs
  refine ⟨readsUtf8_lenient, closed, valid, alike, aloneIs, ?_, never, ?_, ?_⟩
  · refine (ownBoth.trans both).trans ?_
    rw [rest, printedIs]
    rfl
  · show EndsWell (run { options with expressions := [] } first)
    rw [ownFirst]
    exact (outcome first).2 never
  · refine (ownAll.trans (unread quit (first ++ second) (by decide +kernel) quits)).trans ?_
    decide +kernel

end CommandLine

end Calculator
