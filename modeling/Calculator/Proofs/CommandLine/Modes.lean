/-
# Calculator.Proofs.CommandLine.Modes — expressions in turn and texts at the prompt

The program answers the same texts in two ways, and this module says how far the two agree.  Both hand
one text after another to a session and print the answers (`shown`), so they print the same as long as
no text fails and none asks to quit: this is one step (`prompt_of_answer`, `answerAll_of_ok`) and then
a whole run (`prompt_append`, `answerAll_append`).

At a text that asks to quit both stop in the same way.  They part where the texts end, since only the
prompt says farewell there, and where a text fails: the prompt prints the error among the answers and
goes on, from a session that the failure has not changed, while the other run ends with the error
(`one_shot_agrees_with_prompt`).

What is typed at the prompt are bytes: the texts in UTF-8, each with a line feed behind it.  A text that
has a line feed or a backspace in it would not be read as it is, so these are left out.
-/

import Calculator.CommandLine
import Calculator.Proofs.Session.Run
import Calculator.Proofs.Text.Line

namespace Calculator

/-! ## What a text asks for -/

/-- The texts in front of the first one that asks to quit. -/
def untilQuit (texts : List String) : List String :=
  texts.takeWhile (Command.ofLine · ≠ .quit)

theorem Command.ofLine_withoutReturn (text : String) :
    ofLine (Text.withoutReturn text) = ofLine text := by
  rw [ofLine, ofLine, Text.trim_withoutReturn]

namespace Session

variable {session : Session} {text : String}

theorem handle_of_quit (asked : Command.ofLine text = .quit) :
    session.handle text = (.ok .quit, session) := by
  rw [handle, asked]

/-- Nothing else is answered in that way. -/
theorem quit_of_handle (answered : (session.handle text).1 = .ok .quit) :
    Command.ofLine text = .quit := by
  unfold handle at answered
  cases asked : Command.ofLine text with
  | quit => rfl
  | empty => exact absurd answered (by simp [asked])
  | environment => exact absurd answered (by simp [asked])
  | history => exact absurd answered (by simp [asked])
  | evaluate trimmed =>
      rw [asked] at answered
      simp only [evaluate] at answered
      split at answered <;> exact absurd answered (by simp)

theorem handle_withoutReturn (session : Session) (text : String) :
    session.handle (Text.withoutReturn text) = session.handle text := by
  rw [handle, handle, Command.ofLine_withoutReturn]

/-- If one of the lines of a run fails then there is a first one, which leaves the session as it is. -/
theorem exists_first_error {session : Session} {texts : List String} {error : Error}
    (failed : .error error ∈ (session.run texts).1) :
    ∃ before text later first, texts = before ++ text :: later
      ∧ (∀ e, .error e ∉ (session.run before).1)
      ∧ (session.run before).2.handle text = (.error first, (session.run before).2) := by
  induction texts generalizing session with
  | nil => exact absurd failed List.not_mem_nil
  | cons text texts ih =>
      cases answer : (session.handle text).1 with
      | error first =>
          have same : (session.handle text).2 = session := handle_of_not_value (by simp [answer])
          exact ⟨[], text, texts, first, rfl, fun e => List.not_mem_nil, Prod.ext answer same⟩
      | ok reply =>
          rw [run_cons, answer] at failed
          have inLater := (List.mem_cons.mp failed).resolve_left (by simp)
          obtain ⟨before, text', later, first, rfl, none, fails⟩ := ih inLater
          refine ⟨text :: before, text', later, first, rfl, ?_, ?_⟩
          · intro e
            rw [run_cons, answer, List.mem_cons, not_or]
            exact ⟨by simp, none e⟩
          · simp only [run_cons]
            exact fails

end Session

/-! ## Transcripts -/

theorem unlines_cons (line : String) (lines : List String) :
    unlines (line :: lines) = line ++ "\n" ++ unlines lines := by
  rw [unlines, List.map_cons, String.join_cons]
  rfl

namespace CommandLine

variable {session : Session} {text : String} {texts before rest : List String}

theorem after_after (first second : List String) (transcript : Transcript) :
    (transcript.after second).after first = transcript.after (first ++ second) := by
  simp [Transcript.after]

/-- The lines that show an answer at the prompt. -/
def shown : Except Error Reply → List String
  | .ok reply => reply.lines
  | .error error => [failureLine error.message]

/-! ## What is typed -/

/-- A text that is read as it is typed, up to a carriage return at its end. -/
def Typeable (text : String) : Prop :=
  '\n' ∉ text.toList ∧ Text.backspace ∉ text.toList

/-- The lines of input that texts make, each with a line feed behind it. -/
def typed (texts : List String) : List (List UInt8) :=
  Text.lines (Text.encode (unlines texts))

theorem typed_cons (typeable : Typeable text) (texts : List String) :
    typed (text :: texts) = Text.encode (Text.withoutReturn text) :: typed texts := by
  have feed : Text.encode "\n" = [Text.lineFeed] := by decide +kernel
  have bytes : Text.encode (unlines (text :: texts))
      = Text.encode text ++ Text.lineFeed :: Text.encode (unlines texts) := by
    rw [unlines_cons, Text.encode_append, Text.encode_append, feed, List.append_assoc,
      List.singleton_append]
  rw [typed, bytes, Text.lines_encode_line typeable.1]
  rfl

theorem readText_encode (typeable : Typeable text) :
    readText (Text.encode (Text.withoutReturn text)) = .ok (Text.withoutReturn text) := by
  have free : Text.backspace ∉ (Text.withoutReturn text).toList := fun mem =>
    typeable.2 (Text.mem_of_mem_withoutReturn mem)
  simp only [readText, Text.decode?_encode, Text.applyBackspaces?_of_not_mem _ free]

/-! ## The prompt -/

namespace LineReader

variable {read : LineReader} {line : List UInt8}

theorem turn_of_unread {error : InputError} (unread : read line = .error error) :
    read.turn session line
      = .last { errors := [failureLine error.message], status := error.status } := by
  rw [turn, unread]

theorem turn_of_quit (reads : read line = .ok text) (asked : Command.ofLine text = .quit) :
    read.turn session line = .last { output := [farewell] } := by
  rw [turn, reads]
  simp only [Session.handle_of_quit asked]
  rfl

/-- The prompt shows the answer, an error too, and goes on. -/
theorem turn_of_text (reads : read line = .ok text) (goesOn : Command.ofLine text ≠ .quit) :
    read.turn session line = .next (shown (session.handle text).1) (session.handle text).2 := by
  rw [turn, reads]
  dsimp only
  split
  · rename_i error next run
    rw [run]
    rfl
  · rename_i next run
    exact absurd (Session.quit_of_handle (congrArg Prod.fst run)) goesOn
  · rename_i reply next _ run
    rw [run]
    rfl

variable {lines : List (List UInt8)}

theorem prompt_of_unread {error : InputError} (unread : read line = .error error) :
    read.prompt session (line :: lines)
      = { errors := [failureLine error.message], status := error.status } := by
  rw [prompt, turn_of_unread unread]

theorem prompt_of_quit (reads : read line = .ok text) (asked : Command.ofLine text = .quit) :
    read.prompt session (line :: lines) = { output := [farewell] } := by
  rw [prompt, turn_of_quit reads asked]

/-- The prompt on a line that it goes on from, and on the lines behind it. -/
theorem prompt_of_text (reads : read line = .ok text) (goesOn : Command.ofLine text ≠ .quit) :
    read.prompt session (line :: lines)
      = (read.prompt (session.handle text).2 lines).after (shown (session.handle text).1) := by
  rw [prompt, turn_of_text reads goesOn]

/-- Without expressions the program is a prompt. -/
theorem run_eq_prompt (options : Options) (input : List UInt8) :
    read.run { options with expressions := [] } input
      = read.prompt options.session (Text.lines input) := by
  rw [run, if_pos rfl]
  rfl

end LineReader

theorem prompt_typed_nil (session : Session) : prompt session (typed []) = { output := [farewell] } :=
  rfl

theorem prompt_of_quit (typeable : Typeable text) (asked : Command.ofLine text = .quit) :
    prompt session (typed (text :: rest)) = { output := [farewell] } := by
  rw [← Command.ofLine_withoutReturn] at asked
  rw [typed_cons typeable, prompt, LineReader.prompt_of_quit (readText_encode typeable) asked]

theorem prompt_of_answer (typeable : Typeable text) (goesOn : Command.ofLine text ≠ .quit) :
    prompt session (typed (text :: rest))
      = (prompt (session.handle text).2 (typed rest)).after (shown (session.handle text).1) := by
  rw [← Command.ofLine_withoutReturn] at goesOn
  rw [typed_cons typeable, prompt, LineReader.prompt_of_text (readText_encode typeable) goesOn,
    Session.handle_withoutReturn]

theorem prompt_append (session : Session) (typeable : ∀ text ∈ before, Typeable text)
    (goesOn : ∀ text ∈ before, Command.ofLine text ≠ .quit) (rest : List String) :
    prompt session (typed (before ++ rest))
      = (prompt (session.run before).2 (typed rest)).after ((session.run before).1.flatMap shown) := by
  induction before generalizing session with
  | nil => rfl
  | cons text before ih =>
      obtain ⟨typeableFirst, typeableLater⟩ := List.forall_mem_cons.mp typeable
      obtain ⟨goesOnFirst, goesOnLater⟩ := List.forall_mem_cons.mp goesOn
      rw [List.cons_append, prompt_of_answer typeableFirst goesOnFirst,
        ih _ typeableLater goesOnLater, after_after, Session.run_cons, List.flatMap_cons]

/-! ## Expressions in turn -/

theorem answerAll_of_quit (asked : Command.ofLine text = .quit) :
    answerAll session (text :: rest) = { output := [farewell] } := by
  rw [answerAll, Session.handle_of_quit asked]
  rfl

theorem answerAll_of_error {error : Error} (fails : session.handle text = (.error error, session)) :
    answerAll session (text :: rest) = { errors := [failureLine error.message], status := 1 } := by
  rw [answerAll, fails]

/-- What has an answer, and does not ask to quit, is shown as it is at the prompt. -/
theorem answerAll_of_ok (goesOn : Command.ofLine text ≠ .quit)
    (noError : ∀ error, (session.handle text).1 ≠ .error error) :
    answerAll session (text :: rest)
      = (answerAll (session.handle text).2 rest).after (shown (session.handle text).1) := by
  rw [answerAll]
  split
  · rename_i error next run
    exact absurd (congrArg Prod.fst run) (noError error)
  · rename_i next run
    exact absurd (Session.quit_of_handle (congrArg Prod.fst run)) goesOn
  · rename_i reply next _ run
    rw [run]
    rfl

theorem answerAll_append (goesOn : ∀ text ∈ before, Command.ofLine text ≠ .quit)
    (noError : ∀ error, .error error ∉ (session.run before).1) (rest : List String) :
    answerAll session (before ++ rest)
      = (answerAll (session.run before).2 rest).after ((session.run before).1.flatMap shown) := by
  induction before generalizing session with
  | nil => rfl
  | cons text before ih =>
      obtain ⟨goesOnFirst, goesOnLater⟩ := List.forall_mem_cons.mp goesOn
      rw [Session.run_cons] at noError
      have noFirst : ∀ error, (session.handle text).1 ≠ .error error := by
        intro error failed
        exact noError error (failed ▸ List.mem_cons_self)
      have noLater : ∀ error, .error error ∉ ((session.handle text).2.run before).1 := by
        intro error mem
        exact noError error (List.mem_cons_of_mem _ mem)
      rw [List.cons_append, answerAll_of_ok goesOnFirst noFirst, ih goesOnLater noLater, after_after,
        Session.run_cons, List.flatMap_cons]

/-! ## The two runs -/

/-- Texts end, or go on with one that asks to quit. -/
theorem untilQuit_cases (texts : List String) :
    (∀ text ∈ untilQuit texts, Command.ofLine text ≠ .quit)
    ∧ ((untilQuit texts = texts ∧ ¬ ∃ text ∈ texts, Command.ofLine text = .quit)
      ∨ ∃ text rest, texts = untilQuit texts ++ text :: rest ∧ Command.ofLine text = .quit) := by
  have goesOn : ∀ text ∈ untilQuit texts, Command.ofLine text ≠ .quit := by
    intro text mem
    exact of_decide_eq_true (List.mem_takeWhile_imp (p := (Command.ofLine · ≠ .quit)) mem)
  refine ⟨goesOn, ?_⟩
  have split : untilQuit texts ++ texts.dropWhile (Command.ofLine · ≠ .quit) = texts :=
    List.takeWhile_append_dropWhile
  cases behind : texts.dropWhile (Command.ofLine · ≠ .quit) with
  | nil =>
      rw [behind, List.append_nil] at split
      refine Or.inl ⟨split, ?_⟩
      rintro ⟨text, mem, asked⟩
      rw [← split] at mem
      exact goesOn text mem asked
  | cons text rest =>
      rw [behind] at split
      refine Or.inr ⟨text, rest, split.symm, ?_⟩
      have stopped := List.head?_dropWhile_not (Command.ofLine · ≠ .quit) texts
      rw [behind] at stopped
      exact not_not.mp (of_decide_eq_false stopped)

/-- **What the prompt prints**: the answers to the texts in front of the first one that asks to quit,
and farewell. -/
theorem prompt_typed (typeable : ∀ text ∈ texts, Typeable text) :
    prompt session (typed texts)
      = { output := (session.run (untilQuit texts)).1.flatMap shown ++ [farewell] } := by
  obtain ⟨goesOn, ⟨all, -⟩ | ⟨text, rest, split, asked⟩⟩ := untilQuit_cases texts
  · rw [all] at goesOn ⊢
    have whole := prompt_append session typeable goesOn []
    rw [List.append_nil] at whole
    rw [whole, prompt_typed_nil]
    rfl
  · rw [split] at typeable
    obtain ⟨typeableBefore, typeableRest⟩ := List.forall_mem_append.mp typeable
    have whole := prompt_append session typeableBefore goesOn (text :: rest)
    rw [← split] at whole
    rw [whole, prompt_of_quit (typeableRest text List.mem_cons_self) asked]
    rfl

/-- What is printed for expressions none of which fails: farewell is left out at their end. -/
theorem answerAll_of_noError (noError : ∀ error, .error error ∉ (session.run (untilQuit texts)).1) :
    answerAll session texts
      = { output := (session.run (untilQuit texts)).1.flatMap shown
            ++ if ∃ text ∈ texts, Command.ofLine text = .quit then [farewell] else [] } := by
  obtain ⟨goesOn, ⟨all, never⟩ | ⟨text, rest, split, asked⟩⟩ := untilQuit_cases texts
  · rw [all] at goesOn noError ⊢
    have whole := answerAll_append goesOn noError []
    rw [List.append_nil] at whole
    rw [whole, if_neg never]
    rfl
  · have whole := answerAll_append goesOn noError (text :: rest)
    rw [← split] at whole
    have quits : ∃ text ∈ texts, Command.ofLine text = .quit := by
      refine ⟨text, ?_, asked⟩
      rw [split]
      exact List.mem_append_right _ List.mem_cons_self
    rw [whole, answerAll_of_quit asked, if_pos quits]
    rfl

/-! ## Where one fails -/

theorem answerAll_of_first_error {error : Error}
    (goesOn : ∀ text ∈ before, Command.ofLine text ≠ .quit)
    (noError : ∀ e, .error e ∉ (session.run before).1)
    (fails : (session.run before).2.handle text = (.error error, (session.run before).2))
    (later : List String) :
    answerAll session (before ++ text :: later)
      = { output := (session.run before).1.flatMap shown
          errors := [failureLine error.message], status := 1 } := by
  rw [answerAll_append goesOn noError, answerAll_of_error fails]
  simp [Transcript.after]

/-- The prompt goes on from the session that the text was given. -/
theorem prompt_of_error {error : Error}
    (typeable : ∀ earlier ∈ before ++ [text], Typeable earlier)
    (goesOn : ∀ earlier ∈ before ++ [text], Command.ofLine earlier ≠ .quit)
    (fails : (session.run before).2.handle text = (.error error, (session.run before).2))
    (later : List String) :
    prompt session (typed (before ++ text :: later))
      = (prompt (session.run before).2 (typed later)).after
          ((session.run before).1.flatMap shown ++ [failureLine error.message]) := by
  obtain ⟨typeableBefore, typeableText⟩ := List.forall_mem_append.mp typeable
  obtain ⟨goesOnBefore, goesOnText⟩ := List.forall_mem_append.mp goesOn
  rw [prompt_append session typeableBefore goesOnBefore,
    prompt_of_answer (typeableText text List.mem_cons_self)
      (goesOnText text List.mem_cons_self), fails, after_after]
  rfl

/-- **The two ways of running agree.**  Take any options, and texts that could be typed; give them as
expressions, or type them each with a line feed behind it.  If none of those in front of the first one
that asks to quit fails, then both runs end well, and the prompt prints what the other prints and, if
none asks to quit, farewell.  If one of them fails then the first such text ends the other run with an
error; at the prompt the error stands behind the same output, and behind it stands what a prompt prints
that is given the later texts and the session that the text was given. -/
theorem one_shot_agrees_with_prompt (options : Options) {texts : List String} (given : texts ≠ [])
    (typeable : ∀ text ∈ texts, '\n' ∉ text.toList ∧ Text.backspace ∉ text.toList)
    (unread : List UInt8) :
    let oneShot := run { options with expressions := texts } unread
    let prompted := run { options with expressions := [] } (Text.encode (unlines texts))
    let answers := (options.session.run (untilQuit texts)).1
    ((∀ error, .error error ∉ answers) →
      oneShot.status = 0 ∧ oneShot.errors = [] ∧ prompted.status = 0 ∧ prompted.errors = []
      ∧ prompted.output = oneShot.output
          ++ if ∃ text ∈ texts, Command.ofLine text = .quit then [] else [farewell])
    ∧ ((∃ error, .error error ∈ answers) →
      ∃ before text later error, texts = before ++ text :: later
        ∧ (∀ earlier ∈ before ++ [text], Command.ofLine earlier ≠ .quit)
        ∧ (∀ e, .error e ∉ (options.session.run before).1)
        ∧ (options.session.run before).2.handle text
            = (.error error, (options.session.run before).2)
        ∧ oneShot.status = 1 ∧ oneShot.errors = [failureLine error.message]
        ∧ prompted.status = 0 ∧ prompted.errors = []
        ∧ prompted.output = oneShot.output ++ failureLine error.message
            :: (prompt (options.session.run before).2
                (Text.lines (Text.encode (unlines later)))).output) := by
  intro oneShot prompted answers
  have oneShotIs : oneShot = answerAll options.session texts := if_neg given
  have promptedIs : prompted = prompt options.session (typed texts) :=
    LineReader.run_eq_prompt options _
  refine ⟨?_, ?_⟩
  · intro noError
    rw [oneShotIs, promptedIs, prompt_typed typeable, answerAll_of_noError noError]
    refine ⟨rfl, rfl, rfl, rfl, ?_⟩
    split <;> simp
  · rintro ⟨someError, failed⟩
    obtain ⟨before, text, between, error, front, noError, fails⟩ :=
      Session.exists_first_error failed
    obtain ⟨rest, whole⟩ : untilQuit texts <+: texts := List.takeWhile_prefix _
    have split : texts = before ++ text :: (between ++ rest) := by
      rw [← whole, front, List.append_assoc, List.cons_append]
    have goesOn : ∀ earlier ∈ before ++ [text], Command.ofLine earlier ≠ .quit := by
      intro earlier mem
      apply (untilQuit_cases texts).1
      rw [front, List.append_cons]
      exact List.mem_append_left _ mem
    have typeableFront : ∀ earlier ∈ before ++ [text], Typeable earlier := by
      intro earlier mem
      apply typeable
      rw [split, List.append_cons]
      exact List.mem_append_left _ mem
    have goesOnBefore := (List.forall_mem_append.mp goesOn).1
    have oneShotRun := answerAll_of_first_error goesOnBefore noError fails (between ++ rest)
    have promptedRun := prompt_of_error typeableFront goesOn fails (between ++ rest)
    rw [← split] at oneShotRun promptedRun
    refine ⟨before, text, between ++ rest, error, split, goesOn, noError, fails, ?_, ?_, ?_, ?_, ?_⟩
    · rw [oneShotIs, oneShotRun]
    · rw [oneShotIs, oneShotRun]
    · rw [promptedIs, prompt_typed typeable]
    · rw [promptedIs, prompt_typed typeable]
    · rw [oneShotIs, oneShotRun, promptedIs, promptedRun]
      simp [Transcript.after, typed]

/-- The third of these texts breaks off, the fourth reads what the first has assigned, and the last is
behind the one that asks to quit.  Without the third and the fourth nothing fails. -/
theorem one_shot_agrees_with_prompt_six :
    let texts := ["(a = 1)\r", " ", "(2 +", "a", " quit ", "b"]
    let fine := ["(a = 1)\r", " ", " quit ", "b"]
    let options : Options := { historySize := 1, legacySeparators := true }
    let oneShot (texts : List String) := run { options with expressions := texts } []
    let prompted (texts : List String) :=
      run { options with expressions := [] } (Text.encode (unlines texts))
    (∀ text ∈ texts ++ fine, '\n' ∉ text.toList ∧ Text.backspace ∉ text.toList)
      ∧ oneShot texts
          = { output := ["1"], errors := ["error: invalid token: end of input"], status := 1 }
      ∧ (prompted texts).status = 0 ∧ (prompted texts).errors = []
      ∧ (∃ behind, (prompted texts).output
          = ["1"] ++ "error: invalid token: end of input" :: behind)
      ∧ oneShot fine = { output := ["1", "bye!"] } ∧ (prompted fine).output = ["1", "bye!"] := by
  intro texts fine options oneShot prompted
  have typeable : ∀ text ∈ texts ++ fine, '\n' ∉ text.toList ∧ Text.backspace ∉ text.toList := by
    decide +kernel
  obtain ⟨typeableTexts, typeableFine⟩ := List.forall_mem_append.mp typeable
  have textsRun : oneShot texts
      = { output := ["1"], errors := ["error: invalid token: end of input"], status := 1 } := by
    decide +kernel
  have fineRun : oneShot fine = { output := ["1", "bye!"] } := by decide +kernel
  have failed : .error (.parse (.invalidToken none)) ∈ (options.session.run (untilQuit texts)).1 := by
    decide +kernel
  have fineAnswers : (options.session.run (untilQuit fine)).1 = [.ok (.value 1), .ok .nothing] := by
    decide +kernel
  have onTexts := one_shot_agrees_with_prompt options (by decide) typeableTexts []
  have onFine := one_shot_agrees_with_prompt options (by decide) typeableFine []
  obtain ⟨before, text, later, error, -, -, -, -, -, errors, status, noErrors, output⟩ :=
    onTexts.2 ⟨_, failed⟩
  obtain ⟨-, -, -, -, fineOutput⟩ := onFine.1 (by simp [fineAnswers])
  have message : failureLine error.message = "error: invalid token: end of input" :=
    (List.cons.inj (errors.symm.trans (congrArg Transcript.errors textsRun))).1
  have quits : ∃ text ∈ fine, Command.ofLine text = .quit := by decide +kernel
  refine ⟨typeable, textsRun, status, noErrors, ?_, fineRun, ?_⟩
  · refine ⟨(prompt (options.session.run before).2 (typed later)).output, ?_⟩
    rw [← message]
    exact output.trans (congrArg (·.output ++ _) textsRun)
  · rw [if_pos quits, List.append_nil] at fineOutput
    exact fineOutput.trans (congrArg Transcript.output fineRun)

end CommandLine

end Calculator
