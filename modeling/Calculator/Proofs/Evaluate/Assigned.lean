/-
# Calculator.Proofs.Evaluate.Assigned — evaluation changes what is assigned and nothing else

An evaluation can be told from its assignments.  A name that no assignment of the expression is to
keeps its value (`get?_evaluate`), and that is so whether the evaluation fails or not.  If it does not
fail, every assignment in the expression is carried out, and the one that is completed last decides
(`get?_evaluate_of_lastStore?`): its name has afterwards what its right side was worth when evaluation
came to it.  An assignment inside the right side of another one is completed first, so in
`(x = ((x = 1) + x))` the outer one decides.

No name ever loses its value, even in an evaluation that fails, so the number of names that have one
does not shrink over any number of evaluations (`size_le_size_evaluateAll`).
-/

import Calculator.Proofs.Environment.Lookup
import Calculator.Proofs.Evaluate.Place
import Mathlib.Control.Monad.Basic

namespace Calculator.Expr

variable {expr left right part : Expr} {env after : Environment} {n : Name} {value : Float}
  {place : List Side}

/-! ## What a successful operation has done -/

theorem evaluate_arithmetic_eq_ok_iff {arithmetic : Arithmetic} :
    (operation (.arithmetic arithmetic) left right).evaluate env = (.ok value, after)
      ↔ ∃ x between y, left.evaluate env = (.ok x, between)
        ∧ right.evaluate between = (.ok y, after) ∧ value = arithmetic.apply x y := by
  constructor
  · intro run
    rw [Expr.evaluate] at run
    split at run
    · exact absurd run (by simp)
    · rename_i x between leftRun
      split at run
      · exact absurd run (by simp)
      · rename_i y last rightRun
        obtain ⟨result, rfl⟩ := Prod.mk.inj run
        exact ⟨x, between, y, leftRun, rightRun, (Except.ok.inj result).symm⟩
  · rintro ⟨x, between, y, leftRun, rightRun, rfl⟩
    simp only [Expr.evaluate, leftRun, rightRun]

theorem evaluate_assign_eq_ok_iff :
    (operation .assign left right).evaluate env = (.ok value, after)
      ↔ ∃ m between, left = name m ∧ right.evaluate env = (.ok value, between)
        ∧ after = between.assign m value := by
  constructor
  · intro run
    cases left with
    | number x => exact absurd run (by simp [Expr.evaluate])
    | operation op l r => exact absurd run (by simp [Expr.evaluate])
    | name m =>
        rw [Expr.evaluate] at run
        split at run
        · exact absurd run (by simp)
        · rename_i x between rightRun
          obtain ⟨result, rfl⟩ := Prod.mk.inj run
          obtain rfl : x = value := Except.ok.inj result
          exact ⟨m, between, rfl, rightRun, rfl⟩
  · rintro ⟨m, between, rfl, rightRun, rfl⟩
    simp only [Expr.evaluate, rightRun]

/-! ## What is not assigned stays -/

/-- **An evaluation is a number of assignments**, each of them to a name that is assigned in the
expression.  So whatever these assignments keep is kept by the evaluation, also by one that fails. -/
theorem evaluate_induction {P : Environment → Prop}
    (step : ∀ env m x, expr.Assigns m → P env → P (env.assign m x)) (start : P env) :
    P (expr.evaluate env).2 := by
  fun_induction Expr.evaluate expr env with
  | case1 value env => exact start
  | case2 m env => exact start
  | case3 arithmetic left right env error between leftRun ih =>
      rw [leftRun] at ih
      exact ih (fun env m x inLeft => step env m x inLeft.of_left) start
  | case4 arithmetic left right env x between leftRun error after rightRun ihl ihr =>
      rw [leftRun] at ihl
      rw [rightRun] at ihr
      have reached := ihl (fun env m x inLeft => step env m x inLeft.of_left) start
      exact ihr (fun env m x inRight => step env m x inRight.of_right) reached
  | case5 arithmetic left right env x between leftRun y after rightRun ihl ihr =>
      rw [leftRun] at ihl
      rw [rightRun] at ihr
      have reached := ihl (fun env m x inLeft => step env m x inLeft.of_left) start
      exact ihr (fun env m x inRight => step env m x inRight.of_right) reached
  | case6 m right env error after rightRun ih =>
      rw [rightRun] at ih
      exact ih (fun env m x inRight => step env m x inRight.of_right) start
  | case7 m right env value between rightRun ih =>
      rw [rightRun] at ih
      have reached := ih (fun env m x inRight => step env m x inRight.of_right) start
      exact step between m value (assigns_operation.mpr (Or.inl ⟨rfl, rfl⟩)) reached
  | case8 => exact start

/-- **A name that is not assigned keeps its value**, also where evaluation fails. -/
theorem get?_evaluate (never : ¬ expr.Assigns n) (env : Environment) :
    (expr.evaluate env).2.get? n = env.get? n := by
  apply evaluate_induction (P := fun reached => reached.get? n = env.get? n)
  · intro reached m x assigned kept
    have other : n ≠ m := by
      rintro rfl
      exact never assigned
    rw [Environment.get?_assign, if_neg other, kept]
  · rfl

/-- A name that has a value still has one afterwards. -/
theorem binds_evaluate (expr : Expr) (bound : env.Binds n) : (expr.evaluate env).2.Binds n := by
  apply evaluate_induction (P := fun reached => reached.Binds n)
  · intro reached m x _ kept
    exact kept.assign m x
  · exact bound

theorem size_le_size_evaluate (expr : Expr) (env : Environment) :
    env.size ≤ (expr.evaluate env).2.size := by
  apply evaluate_induction (P := fun reached => env.size ≤ reached.size)
  · intro reached m x _ kept
    exact Nat.le_trans kept (reached.size_le_size_assign m x)
  · exact Nat.le_refl _

/-! ## One evaluation after another -/

/-- The outcomes of evaluating expressions one after another, and the environment after them. -/
def evaluateAll (env : Environment) : List Expr → List (Except Evaluate.Error Float) × Environment
  | [] => ([], env)
  | expr :: exprs =>
    let (outcome, next) := expr.evaluate env
    let (outcomes, last) := evaluateAll next exprs
    (outcome :: outcomes, last)

theorem evaluateAll_cons (env : Environment) (expr : Expr) (exprs : List Expr) :
    evaluateAll env (expr :: exprs)
      = ((expr.evaluate env).1 :: (evaluateAll (expr.evaluate env).2 exprs).1,
          (evaluateAll (expr.evaluate env).2 exprs).2) :=
  rfl

theorem get?_evaluateAll {exprs : List Expr} (never : ∀ expr ∈ exprs, ¬ expr.Assigns n)
    (env : Environment) : (evaluateAll env exprs).2.get? n = env.get? n := by
  induction exprs generalizing env with
  | nil => rfl
  | cons expr exprs ih =>
      obtain ⟨notFirst, notLater⟩ := List.forall_mem_cons.mp never
      rw [evaluateAll_cons, ih notLater, get?_evaluate notFirst]

theorem binds_evaluateAll (exprs : List Expr) (bound : env.Binds n) :
    (evaluateAll env exprs).2.Binds n := by
  induction exprs generalizing env with
  | nil => exact bound
  | cons expr exprs ih => exact ih (binds_evaluate expr bound)

/-- **The number of names that have a value does not shrink**, whatever is evaluated. -/
theorem size_le_size_evaluateAll (exprs : List Expr) (env : Environment) :
    env.size ≤ (evaluateAll env exprs).2.size := by
  induction exprs generalizing env with
  | nil => exact Nat.le_refl _
  | cons expr exprs ih => exact Nat.le_trans (size_le_size_evaluate expr env) (ih _)

/-! ## The last assignment decides -/

/-- **A name has the value that the last assignment to it computed**: what its right side was worth in
the environment in which evaluation came to it. -/
theorem get?_evaluate_of_lastStore? (run : expr.evaluate env = (.ok value, after))
    (last : expr.lastStore? n = some (place, part)) :
    ∃ right before x between, part = operation .assign (name n) right
      ∧ expr.visit? env place = some (part, before)
      ∧ right.evaluate before = (.ok x, between) ∧ after.get? n = some x := by
  induction expr generalizing env value after place with
  | number v => exact absurd last (by simp [lastStore?_eq_none_iff.mpr not_assigns_number])
  | name m => exact absurd last (by simp [lastStore?_eq_none_iff.mpr not_assigns_name])
  | operation op left right ihl ihr =>
      cases op with
      | arithmetic arithmetic =>
          obtain ⟨x, between, y, leftRun, rightRun, -⟩ := evaluate_arithmetic_eq_ok_iff.mp run
          rcases lastStore?_arithmetic_cases last with
            ⟨rest, rfl, inRight⟩ | ⟨rest, rfl, never, inLeft⟩
          · -- what the right side assigns is assigned after what the left side does
            obtain ⟨r, before, z, stored, is, at?, ran, found⟩ := ihr rightRun inRight
            refine ⟨r, before, z, stored, is, ?_, ran, found⟩
            rw [visit?, leftRun]
            exact at?
          · obtain ⟨r, before, z, stored, is, at?, ran, found⟩ := ihl leftRun inLeft
            have kept := get?_evaluate never between
            rw [rightRun] at kept
            exact ⟨r, before, z, stored, is, at?, ran, kept.trans found⟩
      | assign =>
          obtain ⟨m, between, rfl, rightRun, rfl⟩ := evaluate_assign_eq_ok_iff.mp run
          rcases lastStore?_assign_cases last with ⟨rfl, rfl, rfl⟩ | ⟨other, rest, rfl, inRight⟩
          · refine ⟨right, env, value, between, rfl, rfl, rightRun, ?_⟩
            rw [Environment.get?_assign, if_pos rfl]
          · obtain ⟨r, before, z, stored, is, at?, ran, found⟩ := ihr rightRun inRight
            refine ⟨r, before, z, stored, is, at?, ran, ?_⟩
            rw [Environment.get?_assign, if_neg other.symm, found]

/-- **Evaluation touches exactly what is assigned.**  If an expression has a value then afterwards the
names with a value are those from before and those assigned in it; a name that is not assigned has its
old value; and a name that is assigned has what the last assignment to it computed, in the environment
in which evaluation came to it.  No evaluations at all, successful or not, lose a name or make an
environment smaller. -/
theorem evaluate_touches_targets (run : expr.evaluate env = (.ok value, after)) :
    (∀ n, after.Binds n ↔ env.Binds n ∨ expr.Assigns n)
    ∧ (∀ n, ¬ expr.Assigns n → after.get? n = env.get? n)
    ∧ (∀ n, expr.Assigns n → ∃ place right before x between,
        expr.lastStore? n = some (place, operation .assign (name n) right)
        ∧ expr.visit? env place = some (operation .assign (name n) right, before)
        ∧ right.evaluate before = (.ok x, between) ∧ after.get? n = some x)
    ∧ ∀ start exprs, (∀ n, start.Binds n → (evaluateAll start exprs).2.Binds n)
        ∧ start.size ≤ (evaluateAll start exprs).2.size := by
  have same : (expr.evaluate env).2 = after := congrArg Prod.snd run
  have kept : ∀ n, ¬ expr.Assigns n → after.get? n = env.get? n := by
    intro n never
    rw [← same, get?_evaluate never]
  have stored : ∀ n, expr.Assigns n → ∃ place right before x between,
      expr.lastStore? n = some (place, operation .assign (name n) right)
      ∧ expr.visit? env place = some (operation .assign (name n) right, before)
      ∧ right.evaluate before = (.ok x, between) ∧ after.get? n = some x := by
    intro n assigned
    cases last : expr.lastStore? n with
    | none => exact absurd assigned (lastStore?_eq_none_iff.mp last)
    | some entry =>
        obtain ⟨place, part⟩ := entry
        obtain ⟨right, before, x, between, rfl, at?, ran, found⟩ :=
          get?_evaluate_of_lastStore? run last
        exact ⟨place, right, before, x, between, rfl, at?, ran, found⟩
  refine ⟨?_, kept, stored, ?_⟩
  · intro n
    constructor
    · rintro ⟨x, found⟩
      by_cases assigned : expr.Assigns n
      · exact Or.inr assigned
      · rw [kept n assigned] at found
        exact Or.inl ⟨x, found⟩
    · rintro (bound | assigned)
      · rw [← same]
        exact binds_evaluate expr bound
      · obtain ⟨-, -, -, x, -, -, -, -, found⟩ := stored n assigned
        exact ⟨x, found⟩
  · intro start exprs
    exact ⟨fun n bound => binds_evaluateAll exprs bound, size_le_size_evaluateAll exprs start⟩

/-- In `(x = ((x = 1) + x))` the outer assignment is completed last, and `y` is not touched. -/
theorem evaluate_touches_targets_nested :
    let sum : Expr := .operation (.arithmetic .add)
      (.operation .assign (.name ⟨"x"⟩) (.number 1)) (.name ⟨"x"⟩)
    let nested : Expr := .operation .assign (.name ⟨"x"⟩) sum
    let env := Environment.empty.assign ⟨"y"⟩ 7
    nested.evaluate env = (.ok 2, (nested.evaluate env).2)
      ∧ (nested.evaluate env).2.get? ⟨"y"⟩ = some 7
      ∧ nested.lastStore? ⟨"x"⟩ = some ([], nested)
      ∧ (nested.evaluate env).2.get? ⟨"x"⟩ = some 2 := by
  intro sum nested env
  have run : nested.evaluate env = (.ok 2, (nested.evaluate env).2) :=
    Prod.ext (by decide +kernel) rfl
  have last : nested.lastStore? ⟨"x"⟩ = some ([], nested) := by decide +kernel
  have never : ¬ nested.Assigns ⟨"y"⟩ := lastStore?_eq_none_iff.mp (by decide +kernel)
  have assigned : nested.Assigns ⟨"x"⟩ := ⟨sum, List.mem_cons_self⟩
  obtain ⟨-, kept, stored, -⟩ := evaluate_touches_targets run
  refine ⟨run, (kept _ never).trans rfl, last, ?_⟩
  obtain ⟨place, right, before, x, between, outer, at?, ran, found⟩ := stored _ assigned
  obtain ⟨rfl, same⟩ := Prod.mk.inj (Option.some.inj (last.symm.trans outer))
  obtain ⟨-, -, rfl⟩ := operation.inj same
  obtain ⟨-, rfl⟩ := Prod.mk.inj (Option.some.inj at?)
  have two : (sum.evaluate env).1 = .ok 2 := by decide +kernel
  obtain rfl : x = 2 := Except.ok.inj ((congrArg Prod.fst ran).symm.trans two)
  exact found

end Calculator.Expr
