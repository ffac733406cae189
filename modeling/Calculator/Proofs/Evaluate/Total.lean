/-
# Calculator.Proofs.Evaluate.Total — what the parser lets through has a value

Evaluation fails in one place only, an assignment to something that is not a variable, and the parser
rejects those.  So a line either fails before it is evaluated, with the environment as it was, or has a
value (`interpret_cases`).  There is no third case in which a line fails halfway, after some of its
assignments took effect.
-/

import Calculator.Interpret
import Calculator.Proofs.Parse.Accept

namespace Calculator

/-- **Where all assignments are to variables, evaluation gives a value in every environment.** -/
theorem Expr.evaluate_of_targets {expr : Expr} (targets : expr.TargetsAreNames)
    (env : Environment) : ∃ value after, expr.evaluate env = (.ok value, after) := by
  induction expr generalizing env with
  | number value => exact ⟨value, env, rfl⟩
  | name n => exact ⟨env.lookup n, env, rfl⟩
  | operation op left right ihl ihr =>
      obtain ⟨target, leftTargets, rightTargets⟩ := targets
      cases op with
      | arithmetic arithmetic =>
          -- the right side starts from what the left one has assigned
          obtain ⟨x, between, leftRun⟩ := ihl leftTargets env
          obtain ⟨y, after, rightRun⟩ := ihr rightTargets between
          refine ⟨arithmetic.apply x y, after, ?_⟩
          simp only [Expr.evaluate, leftRun, rightRun]
      | assign =>
          obtain ⟨n, rfl⟩ := exists_of_isName (target rfl)
          obtain ⟨value, after, rightRun⟩ := ihr rightTargets env
          refine ⟨value, after.assign n value, ?_⟩
          simp only [Expr.evaluate, rightRun]

namespace Separators

variable (separators : Separators) (text : String) (env : Environment)

/-- **A line is rejected by the parser or has a value.**  A line that is rejected leaves the
environment alone. -/
theorem interpret_cases :
    (∃ error, separators.interpret text env = (.error (.parse error), env))
    ∨ ∃ expr value after, (separators.parse text).result = .ok expr
        ∧ expr.evaluate env = (.ok value, after)
        ∧ separators.interpret text env = (.ok value, after) := by
  unfold interpret
  cases parsed : (separators.parse text).result with
  | error error => exact Or.inl ⟨error, rfl⟩
  | ok expr =>
      obtain ⟨-, -, -, -, targets, -⟩ := Parse.form_of_expression parsed
      obtain ⟨value, after, run⟩ := Expr.evaluate_of_targets targets env
      refine Or.inr ⟨expr, value, after, rfl, run, ?_⟩
      simp only [run]

/-- A line that the parser accepts has a value in every environment. -/
theorem interpret_of_parse {expr : Expr} (accepted : (separators.parse text).result = .ok expr) :
    ∃ value after, separators.interpret text env = (.ok value, after) := by
  obtain ⟨-, -, -, -, targets, -⟩ := Parse.form_of_expression accepted
  obtain ⟨value, after, run⟩ := Expr.evaluate_of_targets targets env
  refine ⟨value, after, ?_⟩
  unfold interpret
  simp only [accepted, run]

variable {separators text env} in
/-- Only a text that the parser rejects has no value. -/
theorem parse_of_interpret_error {error : Parse.Error}
    (failed : (separators.interpret text env).1 = .error (.parse error)) :
    (separators.parse text).result = .error error := by
  cases parsed : (separators.parse text).result with
  | error first =>
      unfold interpret at failed
      rw [parsed] at failed
      obtain rfl := Error.parse.inj (Except.error.inj failed)
      rfl
  | ok expr =>
      obtain ⟨value, after, run⟩ := separators.interpret_of_parse text env parsed
      exact absurd (run ▸ failed) (by simp)

end Separators

end Calculator
