/-
# Calculator.Proofs.Evaluate.Unset — a variable that is not set spoils what it is part of

Reading a variable that is not set gives what is not a number, and every operation above the read
hands it on, up to the whole expression and into every variable that is assigned on the way
(`evaluate_of_unset`, `assign_of_unset`).

One operation does not hand it on: a power whose exponent is zero is one, whatever its base.  A read
in the base of such a power is lost there, and only there, so the statements are about reads on whose
way up there is none.
-/

import Calculator.Proofs.Environment.Lookup
import Calculator.Proofs.Evaluate.Total
import Calculator.Proofs.Evaluate.Visit
import Calculator.Proofs.Number.NotANumber

namespace Calculator.Expr

open Binary64 (notANumber)

/-! ## Powers that lose their base -/

/-- At a place evaluation comes to a power, and its exponent has the value zero. -/
def IsPowerOfZero (expr : Expr) (env : Environment) (place : List Side) : Prop :=
  ∃ base exponent before x between zero,
    expr.visit? env place = some (operation (.arithmetic .pow) base exponent, before)
      ∧ base.evaluate before = (.ok x, between)
      ∧ (exponent.evaluate between).1 = .ok zero ∧ (zero == 0) = true

/-- A place lies in the base of a power whose exponent has the value zero. -/
def Absorbed (expr : Expr) (env : Environment) (place : List Side) : Prop :=
  ∃ front back, place = front ++ .left :: back ∧ expr.IsPowerOfZero env front

variable {expr left right : Expr} {env between reached : Environment} {place : List Side}
  {n : Name} {x : Float} {arithmetic : Arithmetic}

theorem Absorbed.of_left (h : left.Absorbed env place) :
    (operation (.arithmetic arithmetic) left right).Absorbed env (.left :: place) := by
  obtain ⟨front, back, rfl, power⟩ := h
  exact ⟨.left :: front, back, rfl, power⟩

theorem Absorbed.of_right (run : left.evaluate env = (.ok x, between))
    (h : right.Absorbed between place) :
    (operation (.arithmetic arithmetic) left right).Absorbed env (.right :: place) := by
  obtain ⟨front, back, rfl, base, exponent, before, y, after, zero, at?, power⟩ := h
  refine ⟨.right :: front, back, rfl, base, exponent, before, y, after, zero, ?_, power⟩
  rw [visit?, run]
  exact at?

theorem Absorbed.of_value (h : right.Absorbed env place) :
    (operation .assign (name n) right).Absorbed env (.right :: place) := by
  obtain ⟨front, back, rfl, power⟩ := h
  exact ⟨.right :: front, back, rfl, power⟩

/-- A power whose exponent has the value zero is one, whatever its base. -/
theorem IsPowerOfZero.value (h : expr.IsPowerOfZero env place) :
    ∃ part before after, expr.visit? env place = some (part, before)
      ∧ part.evaluate before = (.ok 1, after) := by
  obtain ⟨base, exponent, before, x, between, zero, at?, baseRun, exponentRun, isZero⟩ := h
  refine ⟨_, before, (exponent.evaluate between).2, at?, ?_⟩
  have exponentRun : exponent.evaluate between = (.ok zero, (exponent.evaluate between).2) :=
    Prod.ext exponentRun rfl
  rw [Expr.evaluate, baseRun]
  simp only
  rw [exponentRun]
  simp only [Arithmetic.apply, Binary64.power_zero x isZero]

/-! ## What is read goes up -/

/-- **Reading a variable that is not set makes the whole expression not a number**, unless the read is
lost in the base of a power with exponent zero. -/
theorem evaluate_of_unset (targets : expr.TargetsAreNames)
    (read : expr.visit? env place = some (name n, reached)) (unset : reached.get? n = none)
    (kept : ¬ expr.Absorbed env place) : ∃ after, expr.evaluate env = (.ok notANumber, after) := by
  fun_induction visit? expr env place with
  | case1 expr env =>
      obtain ⟨rfl, rfl⟩ := Prod.mk.inj (Option.some.inj read)
      refine ⟨env, ?_⟩
      rw [Expr.evaluate, Environment.lookup, unset]
      rfl
  | case2 arithmetic left right env place ih =>
      obtain ⟨between, leftRun⟩ := ih targets.2.1 read (fun lost => kept lost.of_left)
      obtain ⟨y, after, rightRun⟩ := evaluate_of_targets targets.2.2 between
      refine ⟨after, ?_⟩
      have handsOn : arithmetic = .pow → (y == 0) = false := by
        rintro rfl
        apply eq_false_of_ne_true
        intro zero
        apply kept
        refine ⟨[], place, rfl, left, right, env, notANumber, between, y, rfl, leftRun, ?_, zero⟩
        rw [rightRun]
      simp only [Expr.evaluate, leftRun, rightRun, Binary64.apply_notANumber_left arithmetic handsOn]
  | case3 arithmetic left right env place x between leftRun ih =>
      obtain ⟨after, rightRun⟩ := ih targets.2.2 read (fun lost => kept (lost.of_right leftRun))
      refine ⟨after, ?_⟩
      simp only [Expr.evaluate, leftRun, rightRun, Binary64.apply_notANumber_right]
  | case4 arithmetic left right env place error after run => exact absurd read (by simp)
  | case5 m right env place ih =>
      obtain ⟨after, run⟩ := ih targets.2.2 read (fun lost => kept lost.of_value)
      refine ⟨after.assign m notANumber, ?_⟩
      simp only [Expr.evaluate, run]
  | case6 => exact absurd read (by simp)

/-- An assignment with the read in its right side assigns what is not a number. -/
theorem assign_of_unset {m : Name} (targets : right.TargetsAreNames)
    (read : right.visit? env place = some (name n, reached)) (unset : reached.get? n = none)
    (kept : ¬ right.Absorbed env place) :
    ∃ after, (operation .assign (name m) right).evaluate env = (.ok notANumber, after)
      ∧ after.get? m = some notANumber := by
  obtain ⟨after, run⟩ := evaluate_of_unset targets read unset kept
  refine ⟨after.assign m notANumber, ?_, ?_⟩
  · simp only [Expr.evaluate, run]
  · rw [Environment.get?_assign, if_pos rfl]

/-- **A variable that is not set spoils everything above it.**  If evaluation reads it at some place
then the expression is not a number, and every assignment that has the place in its right side
assigns what is not a number; except that nothing is spoiled beyond a power that has the place in its
base and an exponent of value zero, since such a power is one. -/
theorem unset_spoils (targets : expr.TargetsAreNames)
    (read : expr.visit? env place = some (name n, reached)) (unset : reached.get? n = none) :
    (¬ expr.Absorbed env place → ∃ after, expr.evaluate env = (.ok notANumber, after))
    ∧ (∀ front back m right before, place = front ++ .right :: back →
        expr.visit? env front = some (operation .assign (name m) right, before) →
        ¬ right.Absorbed before back →
        ∃ after, (operation .assign (name m) right).evaluate before = (.ok notANumber, after)
          ∧ after.get? m = some notANumber)
    ∧ (∀ front, expr.IsPowerOfZero env front →
        ∃ part before after, expr.visit? env front = some (part, before)
          ∧ part.evaluate before = (.ok 1, after)) := by
  refine ⟨?_, ?_, ?_⟩
  · intro kept
    exact evaluate_of_unset targets read unset kept
  · rintro front back m right before rfl at? kept
    rw [visit?_append at?, visit?] at read
    exact assign_of_unset (targets.of_visit? at?).2.2 read unset kept
  · intro front power
    exact power.value

/-- In `(a = (y ^ 2))` the variable `y` is not set, and `a` becomes what is not a number. -/
theorem unset_spoils_square :
    let square : Expr := .operation .assign (.name ⟨"a"⟩)
      (.operation (.arithmetic .pow) (.name ⟨"y"⟩) (.number 2))
    square.TargetsAreNames
      ∧ square.visit? .empty [.right, .left] = some (.name ⟨"y"⟩, .empty)
      ∧ Environment.empty.get? ⟨"y"⟩ = none
      ∧ ∃ after, square.evaluate .empty = (.ok notANumber, after)
        ∧ after.get? ⟨"a"⟩ = some notANumber := by
  intro square
  have targets : square.TargetsAreNames := by decide
  have kept : ¬ (operation (.arithmetic .pow) (name ⟨"y"⟩) (number 2)).Absorbed .empty [.left] := by
    rintro ⟨front, back, same, base, exponent, before, x, between, zero, at?, -, exponentRun, isZero⟩
    cases front with
    | cons side front => exact absurd same (by simp)
    | nil =>
        obtain ⟨part, rfl⟩ := Prod.mk.inj (Option.some.inj at?)
        obtain ⟨-, -, rfl⟩ := operation.inj part
        obtain rfl : 2 = zero := Except.ok.inj exponentRun
        exact absurd isZero (by decide)
  obtain ⟨-, assigns, -⟩ := @unset_spoils square .empty .empty [.right, .left] ⟨"y"⟩ targets rfl rfl
  exact ⟨targets, rfl, rfl, assigns [] [.left] ⟨"a"⟩ _ .empty rfl rfl kept⟩

/-- In `(y ^ 0)` the variable `y` is not set, and yet the value is one, which is a number. -/
theorem zero_power_of_unset :
    let one : Expr := .operation (.arithmetic .pow) (.name ⟨"y"⟩) (.number 0)
    one.TargetsAreNames
      ∧ one.visit? .empty [.left] = some (.name ⟨"y"⟩, .empty)
      ∧ Environment.empty.get? ⟨"y"⟩ = none
      ∧ (one.evaluate .empty).1 = .ok 1 ∧ (1 : Float).isNaN = false := by
  intro one
  refine ⟨by decide, rfl, rfl, ?_, by decide⟩
  show Except.ok (Binary64.power (Environment.empty.lookup ⟨"y"⟩) 0) = .ok 1
  rw [Binary64.power_zero _ (by decide)]

end Calculator.Expr
