/-
# Calculator.Proofs.Session.Interpret — a session and the interpreter on its own

A session sorts its lines before it evaluates any: some are commands, and the others lose the blanks at
their ends.  The interpreter on its own does none of this and evaluates a line as it stands.  Here the
same lines go through both, all of them through the session and those that are to be evaluated through
the interpreter, with one environment that is handed on.

The two agree at each of these lines, on the value or on the reason why there is none
(`SameOutcome`), and after every line they have the same environment.  Nothing that a session does
besides comes near the environment, and the blanks at the ends of a line are not seen by the scan.
The separators of the session have to be the standard ones, which are those of the interpreter.
-/

import Calculator.Proofs.Session.Run
import Calculator.Proofs.Text.Trim

namespace Calculator

/-! ## Lines that are to be evaluated -/

/-- Whether a line is to be evaluated, and is no command and not empty. -/
def Command.asksForValue (line : String) : Bool :=
  match ofLine line with
  | evaluate _ => true
  | _ => false

theorem Command.ofLine_of_asksForValue {line : String} (asks : asksForValue line = true) :
    ofLine line = evaluate (Text.trim line) := by
  unfold asksForValue at asks
  split at asks
  · rename_i text asked
    rw [asked, ← eq_trim_of_ofLine asked]
  · exact absurd asks Bool.false_ne_true

/-- The outcomes of evaluating lines as they stand, one after another, and the environment after
them. -/
def interpretAll (env : Environment) : List String → List (Except Error Float) × Environment
  | [] => ([], env)
  | line :: lines =>
    let (outcome, next) := interpret line env
    let (outcomes, last) := interpretAll next lines
    (outcome :: outcomes, last)

theorem interpretAll_cons (env : Environment) (line : String) (lines : List String) :
    interpretAll env (line :: lines)
      = ((interpret line env).1 :: (interpretAll (interpret line env).2 lines).1,
          (interpretAll (interpret line env).2 lines).2) :=
  rfl

namespace Session

/-! ## One line -/

/-- The answer of a session and the outcome of the interpreter are the same value, or the same reason
of the parser. -/
inductive SameOutcome : Except Error Reply → Except Error Float → Prop
  | value (value : Float) : SameOutcome (.ok (.value value)) (.ok value)
  | rejected (error : Parse.Error) : SameOutcome (.error (.parse error)) (.error (.parse error))

variable {session : Session} {line : String}

/-- **A line that is to be evaluated has the same outcome in a session and on its own**, and leaves the
same environment. -/
theorem handle_of_asksForValue (standard : session.separators = .standard)
    (asks : Command.asksForValue line = true) :
    SameOutcome (session.handle line).1 (interpret line session.environment).1
    ∧ (session.handle line).2.environment = (interpret line session.environment).2 := by
  unfold handle
  simp only [Command.ofLine_of_asksForValue asks, evaluate, standard, Separators.interpret_trim]
  rcases Separators.standard.interpret_cases line session.environment with
    ⟨error, rejected⟩ | ⟨expr, value, after, -, -, run⟩
  · rw [interpret, rejected]
    exact ⟨.rejected error, rfl⟩
  · rw [interpret, run]
    exact ⟨.value value, rfl⟩

/-- A line that is not to be evaluated leaves the session as it is. -/
theorem handle_of_not_asksForValue (asks : Command.asksForValue line = false) :
    (session.handle line).2 = session := by
  unfold Command.asksForValue at asks
  unfold handle
  cases asked : Command.ofLine line with
  | empty => rfl
  | environment => rfl
  | history => rfl
  | quit => rfl
  | evaluate text => exact absurd asks (by simp [asked])

/-! ## Many lines -/

/-- The answers to the lines that were to be evaluated. -/
def evaluations (lines : List String) (answers : List (Except Error Reply)) :
    List (Except Error Reply) :=
  ((lines.zip answers).filter fun entry => Command.asksForValue entry.1).map Prod.snd

theorem evaluations_cons (line : String) (lines : List String) (answer : Except Error Reply)
    (answers : List (Except Error Reply)) :
    evaluations (line :: lines) (answer :: answers)
      = if Command.asksForValue line then answer :: evaluations lines answers
        else evaluations lines answers := by
  unfold evaluations
  rw [List.zip_cons_cons, List.filter_cons]
  split <;> rfl

/-- **A run has the outcomes of the interpreter**, and ends with the same environment. -/
theorem run_eq_interpretAll (standard : session.separators = .standard) (lines : List String) :
    List.Forall₂ SameOutcome (evaluations lines (session.run lines).1)
        (interpretAll session.environment (lines.filter Command.asksForValue)).1
    ∧ (session.run lines).2.environment
        = (interpretAll session.environment (lines.filter Command.asksForValue)).2 := by
  -- both are at the same environment after every line that was handled
  induction lines generalizing session with
  | nil => exact ⟨.nil, rfl⟩
  | cons line lines ih =>
      rw [run_cons, evaluations_cons, List.filter_cons]
      cases asks : Command.asksForValue line with
      | true =>
          obtain ⟨outcome, sameEnvironment⟩ := handle_of_asksForValue standard asks
          have nextStandard : (session.handle line).2.separators = .standard := by
            rw [separators_handle, standard]
          obtain ⟨outcomes, last⟩ := ih nextStandard
          rw [sameEnvironment] at outcomes last
          simp only [if_true, interpretAll_cons]
          exact ⟨.cons outcome outcomes, last⟩
      | false =>
          rw [handle_of_not_asksForValue asks]
          exact ih standard

/-- **A session and the interpreter agree.**  All lines go through a session with the standard
separators and a history of any size, and those that are to be evaluated go as they stand through the
interpreter, with one environment.  At each of these both have the same value, or the same reason of
the parser; and after any number of lines the two environments are the same. -/
theorem agrees_with_interpret (historySize : Nat) (lines : List String) :
    List.Forall₂ SameOutcome (evaluations lines ((start ⟨.standard, historySize⟩).run lines).1)
        (interpretAll .empty (lines.filter Command.asksForValue)).1
    ∧ ∀ count, ((start ⟨.standard, historySize⟩).run (lines.take count)).2.environment
        = (interpretAll .empty ((lines.take count).filter Command.asksForValue)).2 := by
  have standard : (start ⟨.standard, historySize⟩).separators = .standard := rfl
  refine ⟨(run_eq_interpretAll standard lines).1, ?_⟩
  intro count
  exact (run_eq_interpretAll standard (lines.take count)).2

end Session

end Calculator
