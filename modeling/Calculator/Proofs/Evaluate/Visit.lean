/-
# Calculator.Proofs.Evaluate.Visit — the way of evaluation through an expression

A place in an expression is the sides to take on the way to it.  Evaluation comes to a place with some
environment, the one that everything evaluated before has left, and `visit?` gives the part at the place
together with that environment.  It does not come to the left side of an assignment, which is not
evaluated, nor to anything behind a failure.
-/

import Calculator.Evaluate
import Calculator.Proofs.Expr.Shape

namespace Calculator

/-- A side of an operator. -/
inductive Side where
  | left
  | right
  deriving DecidableEq

namespace Expr

/-- The part of an expression at a place, and the environment in which evaluation comes to it. -/
def visit? : Expr → Environment → List Side → Option (Expr × Environment)
  | expr, env, [] => some (expr, env)
  | operation (.arithmetic _) left _, env, .left :: place => left.visit? env place
  | operation (.arithmetic _) left right, env, .right :: place =>
    match left.evaluate env with
    | (.ok _, env) => right.visit? env place
    | (.error _, _) => none
  | operation .assign (name _) right, env, .right :: place => right.visit? env place
  | _, _, _ => none

variable {expr part : Expr} {env reached : Environment} {front back place : List Side}

/-- A place within a part is reached by going on from the part. -/
theorem visit?_append (at? : expr.visit? env front = some (part, reached)) (back : List Side) :
    expr.visit? env (front ++ back) = part.visit? reached back := by
  fun_induction visit? expr env front with
  | case1 expr env =>
      obtain ⟨rfl, rfl⟩ := Prod.mk.inj (Option.some.inj at?)
      rfl
  | case2 operation left right env place ih =>
      rw [List.cons_append, visit?]
      exact ih at?
  | case3 operation left right env place x between run ih =>
      rw [List.cons_append, visit?, run]
      exact ih at?
  | case4 operation left right env place error after run => exact absurd at? (by simp)
  | case5 name right env place ih =>
      rw [List.cons_append, visit?]
      exact ih at?
  | case6 => exact absurd at? (by simp)

/-- Evaluation comes only to parts of which it holds, too, that all assignments are to variables. -/
theorem TargetsAreNames.of_visit? (targets : expr.TargetsAreNames)
    (at? : expr.visit? env place = some (part, reached)) : part.TargetsAreNames := by
  fun_induction visit? expr env place with
  | case1 expr env =>
      obtain ⟨rfl, rfl⟩ := Prod.mk.inj (Option.some.inj at?)
      exact targets
  | case2 operation left right env place ih => exact ih targets.2.1 at?
  | case3 operation left right env place x between run ih => exact ih targets.2.2 at?
  | case4 operation left right env place error after run => exact absurd at? (by simp)
  | case5 name right env place ih => exact ih targets.2.2 at?
  | case6 => exact absurd at? (by simp)

end Expr

end Calculator
