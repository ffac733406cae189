/-
# Calculator.Proofs.Evaluate.Failure — what an evaluation that fails leaves behind

An evaluation fails at the first assignment that it comes to whose left side is not a variable.  What
was assigned before that stays assigned, and this is less than everything that stands in front of the
assignment in the expression.  On the way to it evaluation has gone past the left sides of some
arithmetic operators, and those are evaluated (`leftsPassed`).  The assignments on the way are not
carried out, since their right sides never get a value; the one at which evaluation fails is looked at
before its own right side is; and what stands behind it is not reached.

So the environment that is left is the one after those left sides, the outermost first, each of which
has a value (`evaluate_firstUnassignable?`).
-/

import Calculator.Proofs.Evaluate.Assigned
import Calculator.Proofs.Evaluate.Targets

namespace Calculator.Expr

variable {expr part : Expr} {env after : Environment} {place : List Side}

/-! ## The way to a place -/

/-- The left sides that evaluation goes past on the way to a place: those of the arithmetic operators
that have the place in their right sides, the outermost first. -/
def leftsPassed : Expr → List Side → List Expr
  | operation (.arithmetic _) left right, .right :: place => left :: right.leftsPassed place
  | operation .assign _ right, .right :: place => right.leftsPassed place
  | operation _ left _, .left :: place => left.leftsPassed place
  | _, _ => []

/-! ## The first assignment that cannot be carried out -/

theorem exists_of_firstUnassignable? (first : expr.firstUnassignable? = some (place, part)) :
    ∃ target right, part = operation .assign target right ∧ target.isName = false
      ∧ expr.preorder.findSome? unassignable? = some target := by
  have found := List.find?_some (show expr.placedPreorder.find? _ = _ from first)
  obtain ⟨target, bad⟩ := Option.isSome_iff_exists.mp found
  obtain ⟨right, same, unnamed⟩ := unassignable?_eq_some_iff.mp bad
  refine ⟨target, right, same, unnamed, ?_⟩
  rw [findSome?_preorder_eq, first]
  exact bad

theorem targets_of_firstUnassignable? (none : expr.firstUnassignable? = none) :
    expr.TargetsAreNames := by
  apply targets_of_preorder
  rw [findSome?_preorder_eq, none]
  rfl

/-- An expression with such an assignment fails. -/
theorem evaluate_fails_of_firstUnassignable? (first : expr.firstUnassignable? = some (place, part))
    (env : Environment) : ∃ error, expr.evaluate env = (.error error, (expr.evaluate env).2) := by
  obtain ⟨target, -, -, -, found⟩ := exists_of_firstUnassignable? first
  obtain ⟨after, failed⟩ := evaluate_of_unassignable env found
  refine ⟨.invalidAssignmentTarget target, ?_⟩
  rw [failed]

/-- **What is left is what the left sides on the way have assigned**, and each of these has a value. -/
theorem evaluate_firstUnassignable? (first : expr.firstUnassignable? = some (place, part))
    (env : Environment) :
    (∀ outcome ∈ (evaluateAll env (expr.leftsPassed place)).1, ∃ x, outcome = .ok x)
    ∧ (expr.evaluate env).2 = (evaluateAll env (expr.leftsPassed place)).2 := by
  induction expr generalizing env place with
  | number value => exact absurd first (by simp [firstUnassignable?, placedPreorder, unassignable?])
  | name n => exact absurd first (by simp [firstUnassignable?, placedPreorder, unassignable?])
  | operation op left right ihl ihr =>
      cases op with
      | arithmetic arithmetic =>
          rcases firstUnassignable?_arithmetic_cases first with
            ⟨rest, rfl, inLeft⟩ | ⟨rest, rfl, leftFine, inRight⟩
          · obtain ⟨error, leftFails⟩ := evaluate_fails_of_firstUnassignable? inLeft env
            obtain ⟨valued, left_after⟩ := ihl inLeft env
            refine ⟨valued, ?_⟩
            rw [Expr.evaluate, leftFails]
            exact left_after
          · -- the left side has a value, and the right one fails from what it has assigned
            obtain ⟨x, between, leftRun⟩ :=
              evaluate_of_targets (targets_of_firstUnassignable? leftFine) env
            obtain ⟨error, rightFails⟩ := evaluate_fails_of_firstUnassignable? inRight between
            obtain ⟨valued, right_after⟩ := ihr inRight between
            rw [leftsPassed, evaluateAll_cons, leftRun]
            refine ⟨List.forall_mem_cons.mpr ⟨⟨x, rfl⟩, valued⟩, ?_⟩
            rw [Expr.evaluate, leftRun]
            simp only
            rw [rightFails]
            exact right_after
      | assign =>
          rcases firstUnassignable?_assign_cases first with
            ⟨unnamed, rfl, rfl⟩ | ⟨n, rest, rfl, rfl, inRight⟩
          · -- this is the one, and nothing has been evaluated yet
            refine ⟨by simp [leftsPassed, evaluateAll], ?_⟩
            cases left with
            | name n => exact absurd unnamed (by simp [isName])
            | number value => rfl
            | operation op l r => rfl
          · obtain ⟨error, rightFails⟩ := evaluate_fails_of_firstUnassignable? inRight env
            obtain ⟨valued, right_after⟩ := ihr inRight env
            refine ⟨valued, ?_⟩
            rw [Expr.evaluate, rightFails]
            exact right_after

/-- **A failure leaves what was assigned before it, and nothing else.**  If evaluation fails then it
does so at the first assignment, each node taken before its sides, whose left side is not a variable.
The environment that is left is the one in which the left sides passed on the way there were evaluated,
the outermost first, and each of these has a value.  So a name that none of them assigns is as it was:
neither that assignment nor any around it or behind it is carried out. -/
theorem failure_keeps_lefts_passed {error : Evaluate.Error}
    (failed : expr.evaluate env = (.error error, after)) :
    ∃ place target right,
      expr.firstUnassignable? = some (place, operation .assign target right)
      ∧ target.isName = false ∧ error = .invalidAssignmentTarget target
      ∧ (∀ outcome ∈ (evaluateAll env (expr.leftsPassed place)).1, ∃ x, outcome = .ok x)
      ∧ after = (evaluateAll env (expr.leftsPassed place)).2
      ∧ ∀ n, (∀ left ∈ expr.leftsPassed place, ¬ left.Assigns n) → after.get? n = env.get? n := by
  cases first : expr.firstUnassignable? with
  | none =>
      obtain ⟨value, last, run⟩ := evaluate_of_targets (targets_of_firstUnassignable? first) env
      exact absurd (failed.symm.trans run) (by simp)
  | some entry =>
      obtain ⟨place, part⟩ := entry
      obtain ⟨target, right, rfl, unnamed, found⟩ := exists_of_firstUnassignable? first
      obtain ⟨target', found', rfl⟩ := evaluate_eq_error_iff.mp (congrArg Prod.fst failed)
      obtain rfl : target = target' := Option.some.inj (found.symm.trans found')
      obtain ⟨valued, left_after⟩ := evaluate_firstUnassignable? first env
      have same : after = (evaluateAll env (expr.leftsPassed place)).2 :=
        (congrArg Prod.snd failed).symm.trans left_after
      refine ⟨place, target, right, rfl, unnamed, rfl, valued, same, ?_⟩
      intro n never
      rw [same, get?_evaluateAll never]

/-- In `(((p = 1) + (z = ((r = 3) * ((s = 4) = 5)))) - (u = 6))` the assignment to `(s = 4)` fails.
The names `p` and `r` have been assigned, and `z` around it, `s` in it and `u` behind it have not. -/
theorem failure_keeps_lefts_passed_nested :
    let set (n : String) (x : Float) : Expr := .operation .assign (.name ⟨n⟩) (.number x)
    let bad : Expr := .operation .assign (set "s" 4) (.number 5)
    let around : Expr :=
      .operation .assign (.name ⟨"z"⟩) (.operation (.arithmetic .mul) (set "r" 3) bad)
    let nested : Expr := .operation (.arithmetic .sub)
      (.operation (.arithmetic .add) (set "p" 1) around) (set "u" 6)
    nested.evaluate .empty = (.error (.invalidAssignmentTarget (set "s" 4)), (nested.evaluate .empty).2)
      ∧ nested.firstUnassignable? = some ([.left, .right, .right, .right], bad)
      ∧ (nested.evaluate .empty).2 = (evaluateAll .empty [set "p" 1, set "r" 3]).2
      ∧ (nested.evaluate .empty).2.get? ⟨"p"⟩ = some 1 ∧ (nested.evaluate .empty).2.get? ⟨"r"⟩ = some 3
      ∧ ∀ n ∈ ["z", "s", "u"], (nested.evaluate .empty).2.get? ⟨n⟩ = none := by
  intro set bad around nested
  have failed : nested.evaluate .empty
      = (.error (.invalidAssignmentTarget (set "s" 4)), (nested.evaluate .empty).2) :=
    Prod.ext (by decide +kernel) rfl
  have first : nested.firstUnassignable? = some ([.left, .right, .right, .right], bad) := by
    decide +kernel
  obtain ⟨place, target, right, here, -, -, -, left_after, untouched⟩ :=
    failure_keeps_lefts_passed failed
  obtain ⟨rfl, -⟩ := Prod.mk.inj (Option.some.inj (first.symm.trans here))
  have lefts : (nested.evaluate .empty).2 = (evaluateAll .empty [set "p" 1, set "r" 3]).2 := left_after
  have never : ∀ n ∈ ["z", "s", "u"], ∀ left ∈ [set "p" 1, set "r" 3], ¬ left.Assigns ⟨n⟩ := by
    intro n mem
    simp only [List.mem_cons, List.not_mem_nil, or_false] at mem
    simp only [List.forall_mem_cons, ← lastStore?_eq_none_iff]
    rcases mem with rfl | rfl | rfl <;> decide +kernel
  refine ⟨failed, first, lefts, ?_, ?_, fun n mem => untouched ⟨n⟩ (never n mem)⟩
  · rw [lefts]
    decide +kernel
  · rw [lefts]
    decide +kernel

end Calculator.Expr
