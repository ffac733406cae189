/-
# Calculator.Proofs.Session.History — a history is the end of what was recorded, without repeats

A history looks at its latest entry and at nothing else, and lets go of its oldest entries as it grows.
What it holds after many lines can be said without following it: the lines with every immediate repeat
taken out, and of these the last ones, as many as there is room for (`entries_record`).  With room for
at least one entry the latest entry is always the latest line, which is why looking at it is enough; a
history without room never sees a repeat.

A session records the lines that have a value, without the blanks at their ends, and no others
(`run_history`).  Which lines these are does not depend on the history, so the histories of two sessions
that differ only in its size are ends of the same list.  And each entry has a value whenever it is
handled again: it is no command, and it is an expression, and expressions that were read have a value
in every environment.
-/

import Calculator.Proofs.Session.Run
import Calculator.Proofs.Text.Trim
import Mathlib.Data.List.Destutter
import Mathlib.Data.List.DropRight

namespace Calculator

/-! ## Lists without immediate repeats -/

section Repeats

variable {α : Type} [DecidableEq α]

theorem getLast?_destutter' (first : α) (xs : List α) :
    (xs.destutter' (· ≠ ·) first).getLast? = (first :: xs).getLast? := by
  induction xs generalizing first with
  | nil => rfl
  | cons x xs ih =>
      rw [List.destutter'_cons]
      split
      · rw [List.getLast?_cons, ih, List.getLast?_cons_cons, List.getLast?_cons, Option.getD_some]
      · rename_i same
        obtain rfl : first = x := not_not.mp same
        rw [ih, List.getLast?_cons_cons]

/-- Taking out repeats keeps the last element. -/
theorem getLast?_destutter (xs : List α) : (xs.destutter (· ≠ ·)).getLast? = xs.getLast? := by
  cases xs with
  | nil => rfl
  | cons x xs => exact getLast?_destutter' x xs

theorem destutter'_concat (first : α) (xs : List α) (last : α) :
    (xs ++ [last]).destutter' (· ≠ ·) first
      = if (first :: xs).getLast? = some last then xs.destutter' (· ≠ ·) first
        else xs.destutter' (· ≠ ·) first ++ [last] := by
  induction xs generalizing first with
  | nil => by_cases same : first = last <;> simp [same]
  | cons x xs ih =>
      rw [List.cons_append, List.destutter'_cons, List.destutter'_cons, List.getLast?_cons_cons]
      split
      · rw [ih]
        split <;> rfl
      · rename_i same
        obtain rfl : first = x := not_not.mp same
        exact ih first

/-- One more element is taken out if it repeats the last one, and is kept if it does not. -/
theorem destutter_concat (xs : List α) (last : α) :
    (xs ++ [last]).destutter (· ≠ ·)
      = if xs.getLast? = some last then xs.destutter (· ≠ ·) else xs.destutter (· ≠ ·) ++ [last] := by
  cases xs with
  | nil => rfl
  | cons x xs => exact destutter'_concat x xs last

end Repeats

/-! ## The end of a list -/

section End

variable {α : Type}

theorem getLast?_rtake {count : Nat} (room : 1 ≤ count) (xs : List α) :
    (xs.rtake count).getLast? = xs.getLast? := by
  unfold List.rtake
  rw [List.getLast?_drop]
  split
  · rename_i short
    have none : xs = [] := List.length_eq_zero_iff.mp (by omega)
    rw [none]
    rfl
  · rfl

/-- What was let go before makes no difference to the end of a longer list. -/
theorem rtake_rtake_concat (count : Nat) (xs : List α) (last : α) :
    (xs.rtake count ++ [last]).rtake count = (xs ++ [last]).rtake count := by
  cases count with
  | zero => rw [List.rtake_zero, List.rtake_zero]
  | succ count =>
      rw [List.rtake_concat_succ, List.rtake_concat_succ]
      congr 1
      simp only [List.rtake_eq_reverse_take_reverse, List.reverse_reverse, List.take_take]
      rw [Nat.min_eq_left (Nat.le_succ count)]

theorem rtake_suffix_rtake {smaller larger : Nat} (le : smaller ≤ larger) (xs : List α) :
    xs.rtake smaller <:+ xs.rtake larger :=
  List.drop_suffix_drop_left xs (Nat.sub_le_sub_left le xs.length)

end End

/-! ## Histories -/

namespace History

/-- The history after lines, one after another. -/
def record (history : History) (lines : List String) : History :=
  lines.foldl push history

theorem record_concat (history : History) (lines : List String) (line : String) :
    history.record (lines ++ [line]) = (history.record lines).push line := by
  rw [record, List.foldl_append]
  rfl

theorem capacity_push (history : History) (line : String) :
    (history.push line).capacity = history.capacity := by
  unfold push
  split <;> rfl

theorem entries_push (history : History) (line : String) :
    (history.push line).entries = if history.accepts line
      then (history.entries ++ [line]).rtake history.capacity else history.entries := by
  unfold push
  split <;> rfl

theorem accepts_eq_false_iff {history : History} {line : String} :
    history.accepts line = false ↔ history.entries.getLast? = some line := by
  simp [accepts]

theorem capacity_record (history : History) (lines : List String) :
    (history.record lines).capacity = history.capacity := by
  induction lines using List.reverseRecOn with
  | nil => rfl
  | append_singleton lines line ih => rw [record_concat, capacity_push, ih]

/-- **A history holds the end of its lines without repeats.** -/
theorem entries_record (capacity : Nat) (lines : List String) :
    ((empty capacity).record lines).entries = (lines.destutter (· ≠ ·)).rtake capacity := by
  induction lines using List.reverseRecOn with
  | nil => rw [List.destutter_nil, List.rtake_nil]; rfl
  | append_singleton lines line ih =>
      rw [record_concat, entries_push, capacity_record, destutter_concat]
      show (if _ then (_ ++ [line]).rtake capacity else _) = _
      cases Nat.eq_zero_or_pos capacity with
      | inl noRoom =>
          -- without room there is nothing to compare with, and nothing is kept
          rw [noRoom, List.rtake_zero, List.rtake_zero]
          rw [noRoom, List.rtake_zero] at ih
          split <;> simp [ih]
      | inr room =>
          have latest : ((empty capacity).record lines).entries.getLast? = lines.getLast? := by
            rw [ih, getLast?_rtake room, getLast?_destutter]
          by_cases repeats : lines.getLast? = some line
          · have rejected : ((empty capacity).record lines).accepts line = false :=
              accepts_eq_false_iff.mpr (latest.trans repeats)
            rw [rejected, if_pos repeats, ih]
            rfl
          · have accepted : ((empty capacity).record lines).accepts line = true := by
              apply eq_true_of_ne_false
              rwa [accepts_eq_false_iff, latest]
            rw [accepted, if_neg repeats, ih, if_pos rfl, rtake_rtake_concat]

/-- A line is not recorded if there is room and it repeats the line before. -/
theorem accepts_record_eq_false_iff {capacity : Nat} {lines : List String} {line : String} :
    ((empty capacity).record lines).accepts line = false
      ↔ 1 ≤ capacity ∧ lines.getLast? = some line := by
  rw [accepts_eq_false_iff, entries_record]
  cases Nat.eq_zero_or_pos capacity with
  | inl noRoom => simp [noRoom]
  | inr room =>
      rw [getLast?_rtake room, getLast?_destutter]
      exact (and_iff_right room).symm

end History

/-! ## Lines that are remembered -/

namespace Session

/-- Whether an answer is a value. -/
def hasValue : Except Error Reply → Bool
  | .ok (.value _) => true
  | _ => false

/-- The lines whose answers are values, without the blanks at their ends. -/
def valuedTexts (lines : List String) (answers : List (Except Error Reply)) : List String :=
  ((lines.zip answers).filter fun entry => hasValue entry.2).map fun entry => Text.trim entry.1

theorem valuedTexts_cons (line : String) (lines : List String) (answer : Except Error Reply)
    (answers : List (Except Error Reply)) :
    valuedTexts (line :: lines) (answer :: answers)
      = if hasValue answer then Text.trim line :: valuedTexts lines answers
        else valuedTexts lines answers := by
  unfold valuedTexts
  rw [List.zip_cons_cons, List.filter_cons]
  split <;> rfl

theorem hasValue_eq_false {reply : Reply} (other : ∀ value, reply ≠ .value value) :
    hasValue (.ok reply) = false := by
  cases reply with
  | value value => exact absurd rfl (other value)
  | nothing => rfl
  | environment text => rfl
  | history entries => rfl
  | quit => rfl

/-- **A session records a line that has a value, without the blanks at its ends, and no other.** -/
theorem handle_history (session : Session) (line : String) :
    (session.handle line).2.history = if hasValue (session.handle line).1
      then session.history.push (Text.trim line) else session.history := by
  rcases session.handle_cases line with
    ⟨text, value, env, asked, -, run⟩ | ⟨error, run⟩ | ⟨reply, other, run⟩
  · rw [run, ← Command.eq_trim_of_ofLine asked]
    rfl
  · rw [run]
    rfl
  · rw [run, hasValue_eq_false other]
    rfl

theorem run_history (session : Session) (lines : List String) :
    (session.run lines).2.history
      = session.history.record (valuedTexts lines (session.run lines).1) := by
  induction lines generalizing session with
  | nil => rfl
  | cons line lines ih =>
      rw [run_cons, ih, handle_history, valuedTexts_cons]
      split <;> rfl

/-! ## The history does not decide what has a value -/

/-- Two sessions that differ in their histories only have values for the same lines, and the same
values of variables afterwards. -/
theorem hasValue_handle_congr {session other : Session}
    (separators : session.separators = other.separators)
    (environment : session.environment = other.environment) (line : String) :
    hasValue (session.handle line).1 = hasValue (other.handle line).1
    ∧ (session.handle line).2.environment = (other.handle line).2.environment := by
  unfold handle
  cases Command.ofLine line with
  | empty => exact ⟨rfl, environment⟩
  | environment => exact ⟨rfl, environment⟩
  | history => exact ⟨rfl, environment⟩
  | quit => exact ⟨rfl, environment⟩
  | evaluate text =>
      simp only [evaluate, separators, environment]
      rcases other.separators.interpret_cases text other.environment with
        ⟨error, rejected⟩ | ⟨expr, value, after, -, -, run⟩
      · rw [rejected]
        exact ⟨rfl, rfl⟩
      · rw [run]
        exact ⟨rfl, rfl⟩

theorem valuedTexts_run_congr {session other : Session}
    (separators : session.separators = other.separators)
    (environment : session.environment = other.environment) (lines : List String) :
    valuedTexts lines (session.run lines).1 = valuedTexts lines (other.run lines).1 := by
  induction lines generalizing session other with
  | nil => rfl
  | cons line lines ih =>
      obtain ⟨sameAnswer, sameEnvironment⟩ := hasValue_handle_congr separators environment line
      have sameSeparators : (session.handle line).2.separators = (other.handle line).2.separators := by
        rw [separators_handle, separators_handle, separators]
      rw [run_cons, run_cons, valuedTexts_cons, valuedTexts_cons, sameAnswer,
        ih sameSeparators sameEnvironment]

/-! ## Entries have a value again -/

/-- A text that is to be evaluated as it stands, and is an expression. -/
def IsExpression (separators : Separators) (text : String) : Prop :=
  Command.ofLine text = .evaluate text ∧ ∃ expr, (separators.parse text).result = .ok expr

theorem isExpression_of_hasValue {session : Session} {line : String}
    (answered : hasValue (session.handle line).1 = true) :
    IsExpression session.separators (Text.trim line) := by
  rcases session.handle_cases line with
    ⟨text, value, env, asked, evaluated, -⟩ | ⟨error, run⟩ | ⟨reply, other, run⟩
  · obtain rfl := Command.eq_trim_of_ofLine asked
    constructor
    · -- the text has no blanks left to lose
      rw [← asked, Command.ofLine, Command.ofLine, Text.trim_trim]
    · rcases session.separators.interpret_cases (Text.trim line) session.environment with
        ⟨error, rejected⟩ | ⟨expr, -, -, accepted, -, -⟩
      · rw [rejected] at evaluated
        exact absurd evaluated (by simp)
      · exact ⟨expr, accepted⟩
  · rw [run] at answered
    exact absurd answered (by simp [hasValue])
  · rw [run, hasValue_eq_false other] at answered
    exact absurd answered Bool.false_ne_true

theorem isExpression_of_mem_valuedTexts {session : Session} {lines : List String} {text : String}
    (h : text ∈ valuedTexts lines (session.run lines).1) : IsExpression session.separators text := by
  induction lines generalizing session with
  | nil => exact absurd h (by simp [valuedTexts])
  | cons line lines ih =>
      rw [run_cons, valuedTexts_cons] at h
      have later : text ∈ valuedTexts lines ((session.handle line).2.run lines).1 →
          IsExpression session.separators text := by
        intro mem
        rw [← separators_handle session line]
        exact ih mem
      split at h
      · rename_i answered
        rcases List.mem_cons.mp h with rfl | mem
        · exact isExpression_of_hasValue answered
        · exact later mem
      · exact later h

theorem handle_of_isExpression {session : Session} {text : String}
    (h : IsExpression session.separators text) :
    ∃ value, (session.handle text).1 = .ok (.value value) := by
  obtain ⟨asked, expr, accepted⟩ := h
  obtain ⟨value, after, run⟩ := session.separators.interpret_of_parse text session.environment accepted
  refine ⟨value, ?_⟩
  unfold handle
  simp only [asked, evaluate, run]

/-! ## The history of a session -/

theorem entries_run_start (config : Config) (lines : List String) :
    ((start config).run lines).2.history.entries
      = ((valuedTexts lines ((start config).run lines).1).destutter (· ≠ ·)).rtake
          config.historySize := by
  rw [run_history]
  exact History.entries_record config.historySize _

/-- **The history is the end of the lines that had a value, without immediate repeats.**  A history of
its own holds the end of the lines it was given without repeats, and does not record a line if there is
room and it repeats the line before.  In a session these lines are the ones that had a value, without
the blanks at their ends.  So a smaller history is an end of a larger one, and every entry has a value
when it is handled again at any time later. -/
theorem history_is_tail (separators : Separators) (capacity : Nat) (lines : List String) :
    (((History.empty capacity).record lines).entries = (lines.destutter (· ≠ ·)).rtake capacity
      ∧ ∀ line, ((History.empty capacity).record lines).accepts line = false
          ↔ 1 ≤ capacity ∧ lines.getLast? = some line)
    ∧ ((start ⟨separators, capacity⟩).run lines).2.history.entries
        = ((valuedTexts lines ((start ⟨separators, capacity⟩).run lines).1).destutter (· ≠ ·)).rtake
            capacity
    ∧ (∀ larger, capacity ≤ larger →
        ((start ⟨separators, capacity⟩).run lines).2.history.entries
          <:+ ((start ⟨separators, larger⟩).run lines).2.history.entries)
    ∧ ∀ entry ∈ ((start ⟨separators, capacity⟩).run lines).2.history.entries, ∀ more,
        ∃ value, (((start ⟨separators, capacity⟩).run (lines ++ more)).2.handle entry).1
          = .ok (.value value) := by
  refine ⟨⟨History.entries_record capacity lines, ?_⟩, entries_run_start _ lines, ?_, ?_⟩
  · intro line
    exact History.accepts_record_eq_false_iff
  · intro larger le
    have same : valuedTexts lines ((start ⟨separators, capacity⟩).run lines).1
        = valuedTexts lines ((start ⟨separators, larger⟩).run lines).1 :=
      @valuedTexts_run_congr (start ⟨separators, capacity⟩) (start ⟨separators, larger⟩) rfl rfl lines
    rw [entries_run_start, entries_run_start, same]
    exact rtake_suffix_rtake le _
  · intro entry mem more
    rw [entries_run_start] at mem
    have valued := (List.destutter_sublist _ _).subset ((List.drop_suffix _ _).subset mem)
    apply handle_of_isExpression
    rw [separators_run]
    exact isExpression_of_mem_valuedTexts valued

/-- Two values of one line, an error and a command, with room for one entry and for two. -/
theorem history_is_tail_one :
    let lines := ["(a = 1)", "x", " x ", "(2 + ", "history"]
    ((start ⟨.standard, 1⟩).run lines).2.history.entries = ["x"]
    ∧ ((start ⟨.standard, 1⟩).run lines).2.history.entries
        <:+ ((start ⟨.standard, 2⟩).run lines).2.history.entries
    ∧ ∃ value, (((start ⟨.standard, 1⟩).run (lines ++ ["(x = 3)"])).2.handle "x").1
        = .ok (.value value) := by
  intro lines
  obtain ⟨-, entries, suffix, again⟩ := history_is_tail .standard 1 lines
  have holds : ((start ⟨.standard, 1⟩).run lines).2.history.entries = ["x"] := by
    rw [entries]
    decide +kernel
  exact ⟨holds, suffix 2 (by decide), again "x" (by rw [holds]; decide) ["(x = 3)"]⟩

end Session

end Calculator
