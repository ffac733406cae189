/-
# Calculator.Proofs.Session.Run — sessions over many lines, and lines that leave no trace in them

A line can do three things to a session: have a value, be rejected by the parser, or ask for
something that is answered from the session as it is.  `handle_cases` says so, and says that only the
first of them changes the session.

A run is a session that answers lines one after another.  Since a line without a value leaves the
session to the next line as it found it, any such lines can be taken out of a run: the other answers
are the same, and so is the session at the end.
-/

import Calculator.Proofs.Evaluate.Total
import Calculator.Session

namespace Calculator

/-- What is evaluated is the line without the blanks at its ends. -/
theorem Command.eq_trim_of_ofLine {line text : String} (h : ofLine line = evaluate text) :
    text = Text.trim line := by
  unfold ofLine ofTrimmed at h
  split at h
  · exact absurd h (by simp)
  · split at h
    · exact absurd h (by simp)
    · split at h
      · exact absurd h (by simp)
      · split at h
        · exact absurd h (by simp)
        · exact (evaluate.inj h).symm

namespace Session

/-! ## One line -/

/-- **What a line can do.**  It has a value, which changes the environment and is remembered; or it is
rejected by the parser; or it has another answer.  Only the first changes the session. -/
theorem handle_cases (session : Session) (line : String) :
    (∃ text value environment, Command.ofLine line = .evaluate text
      ∧ session.separators.interpret text session.environment = (.ok value, environment)
      ∧ session.handle line = (.ok (.value value),
          { session with environment, history := session.history.push text }))
    ∨ (∃ error, session.handle line = (.error (.parse error), session))
    ∨ ∃ reply, (∀ value, reply ≠ .value value) ∧ session.handle line = (.ok reply, session) := by
  unfold handle
  cases asked : Command.ofLine line with
  -- four commands are answered from the session as it is
  | empty => exact Or.inr (Or.inr ⟨_, by simp, rfl⟩)
  | environment => exact Or.inr (Or.inr ⟨_, by simp, rfl⟩)
  | history => exact Or.inr (Or.inr ⟨_, by simp, rfl⟩)
  | quit => exact Or.inr (Or.inr ⟨_, by simp, rfl⟩)
  | evaluate text =>
      simp only [evaluate]
      rcases session.separators.interpret_cases text session.environment with
        ⟨error, rejected⟩ | ⟨expr, value, after, -, -, run⟩
      · refine Or.inr (Or.inl ⟨error, ?_⟩)
        rw [rejected]
      · refine Or.inl ⟨text, value, after, rfl, run, ?_⟩
        rw [run]

/-- Every error that a session answers with is the parser's. -/
theorem parse_of_handle_error {session : Session} {line : String} {error : Error}
    (h : (session.handle line).1 = .error error) : ∃ e, error = .parse e := by
  rcases session.handle_cases line with ⟨text, value, env, -, -, run⟩ | ⟨e, run⟩ | ⟨reply, -, run⟩
  · rw [run] at h
    exact absurd h (by simp)
  · rw [run] at h
    refine ⟨e, ?_⟩
    exact (Except.error.inj h).symm
  · rw [run] at h
    exact absurd h (by simp)

/-- A line without a value leaves the session as it is. -/
theorem handle_of_not_value {session : Session} {line : String}
    (h : ∀ value, (session.handle line).1 ≠ .ok (.value value)) :
    (session.handle line).2 = session := by
  rcases session.handle_cases line with ⟨text, value, env, -, -, run⟩ | ⟨e, run⟩ | ⟨reply, -, run⟩
  · exact absurd (congrArg Prod.fst run) (h value)
  · rw [run]
  · rw [run]

/-- No line changes the separators. -/
theorem separators_handle (session : Session) (line : String) :
    (session.handle line).2.separators = session.separators := by
  rcases session.handle_cases line with ⟨text, value, env, -, -, run⟩ | ⟨e, run⟩ | ⟨reply, -, run⟩
  all_goals rw [run]

/-! ## Many lines -/

/-- The answers to lines one after another, and the session after them. -/
def run (session : Session) : List String → List (Except Error Reply) × Session
  | [] => ([], session)
  | line :: lines =>
    let (answer, next) := session.handle line
    let (answers, last) := run next lines
    (answer :: answers, last)

theorem run_cons (session : Session) (line : String) (lines : List String) :
    session.run (line :: lines)
      = ((session.handle line).1 :: ((session.handle line).2.run lines).1,
          ((session.handle line).2.run lines).2) :=
  rfl

theorem separators_run (session : Session) (lines : List String) :
    (session.run lines).2.separators = session.separators := by
  induction lines generalizing session with
  | nil => rfl
  | cons line lines ih => rw [run_cons, ih, separators_handle]

theorem parse_of_run_error {session : Session} {lines : List String} {error : Error}
    (h : .error error ∈ (session.run lines).1) : ∃ e, error = .parse e := by
  induction lines generalizing session with
  | nil => exact absurd h (by simp [run])
  | cons line lines ih =>
      rw [run_cons] at h
      rcases List.mem_cons.mp h with first | later
      · exact parse_of_handle_error first.symm
      · exact ih later

/-! ## Taking lines out -/

/-- The elements of a list at the positions that are kept. -/
def keeping {α : Type} (keep : Nat → Bool) : List α → List α
  | [] => []
  | x :: xs =>
    if keep 0 then x :: keeping (fun i => keep (i + 1)) xs else keeping (fun i => keep (i + 1)) xs

/-- The lines at the positions that are not kept have no value. -/
def DropsNoValue (keep : Nat → Bool) (answers : List (Except Error Reply)) : Prop :=
  ∀ i answer, answers[i]? = some answer → keep i = false → ∀ value, answer ≠ .ok (.value value)

/-- The other answers and the last session of a run do without the lines that had no value. -/
theorem run_keeping {session : Session} {lines : List String} {keep : Nat → Bool}
    (drops : DropsNoValue keep (session.run lines).1) :
    session.run (keeping keep lines)
      = (keeping keep (session.run lines).1, (session.run lines).2) := by
  -- the two runs are at the same session after every line that is kept
  induction lines generalizing session keep with
  | nil => rfl
  | cons line lines ih =>
      rw [run_cons] at drops ⊢
      have later : DropsNoValue (fun i => keep (i + 1)) ((session.handle line).2.run lines).1 := by
        intro i answer found
        exact drops (i + 1) answer found
      have rest := ih later
      cases first : keep 0 with
      | true =>
          simp only [keeping, first, if_true]
          rw [run_cons, rest]
      | false =>
          -- the line that is taken out leaves its session to the others
          have same := handle_of_not_value (drops 0 _ rfl first)
          rw [same] at rest ⊢
          simp only [keeping, first, if_false, Bool.false_eq_true]
          exact rest

/-- **A line without a value leaves no trace.**  Every error is the parser's, and taking out any of
the lines that had no value changes neither the other answers nor the session at the end. -/
theorem run_without_valueless_lines (config : Config) (lines : List String) :
    (∀ error, .error error ∈ ((start config).run lines).1 → ∃ e, error = .parse e)
    ∧ ∀ keep, DropsNoValue keep ((start config).run lines).1 →
        (start config).run (keeping keep lines)
          = (keeping keep ((start config).run lines).1, ((start config).run lines).2) := by
  constructor
  · intro error answered
    exact parse_of_run_error answered
  · intro keep drops
    exact run_keeping drops

/-- The first assignment of a line that is rejected for its second one does not happen. -/
example : ((start {}).run ["((b = 2) + (1 = 3))"]).2.environment.entries = [] := by
  decide +kernel

end Session

end Calculator
