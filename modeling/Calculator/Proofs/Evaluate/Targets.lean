/-
# Calculator.Proofs.Evaluate.Targets — evaluation and parsing reject the same expressions

An assignment to something that is not a variable is rejected in two places that know nothing of each
other.  Evaluation looks at the left side of an assignment before anything below it, so it stops at the
first such assignment in preorder (`evaluate_of_unassignable`).  The parser looks at it when the
bracket closes, so it stops at the first one in postorder (`operand_of_unassignable`).  Since both
orders list the same parts, the two always agree on whether an expression is rejected, and need not
agree on which target they name.
-/

import Calculator.Proofs.Evaluate.Total
import Calculator.Proofs.Expr.Order
import Calculator.Proofs.Expr.Source

namespace Calculator

/-! ## Evaluation stops at the first in preorder -/

/-- Where nothing is found among the parts, all assignments are to variables. -/
theorem Expr.targets_of_preorder {expr : Expr} (none : expr.preorder.findSome? unassignable? = none) :
    expr.TargetsAreNames := by
  rw [targetsAreNames_iff, ← exists_findSome?_preorder_iff, none]
  simp

theorem Expr.targets_of_postorder {expr : Expr}
    (none : expr.postorder.findSome? unassignable? = none) : expr.TargetsAreNames := by
  rw [targetsAreNames_iff, ← exists_findSome?_postorder_iff, none]
  simp

/-- **Evaluation fails at the first bad target in preorder**, in every environment. -/
theorem Expr.evaluate_of_unassignable {expr target : Expr} (env : Environment)
    (first : expr.preorder.findSome? unassignable? = some target) :
    ∃ after, expr.evaluate env = (.error (.invalidAssignmentTarget target), after) := by
  induction expr generalizing env with
  | number value => exact absurd first (by simp [preorder, unassignable?])
  | name n => exact absurd first (by simp [preorder, unassignable?])
  | operation op left right ihl ihr =>
      rw [preorder, List.findSome?_cons] at first
      cases op with
      | arithmetic arithmetic =>
          simp only [unassignable?, List.findSome?_append] at first
          cases inLeft : left.preorder.findSome? unassignable? with
          | some earlier =>
              rw [inLeft, Option.some_or] at first
              obtain rfl : earlier = target := Option.some.inj first
              obtain ⟨after, leftFails⟩ := ihl env inLeft
              refine ⟨after, ?_⟩
              simp only [Expr.evaluate, leftFails]
          | none =>
              -- the left side has a value, and the right one fails from what it has assigned
              rw [inLeft, Option.none_or] at first
              obtain ⟨x, between, leftRun⟩ := evaluate_of_targets (targets_of_preorder inLeft) env
              obtain ⟨after, rightFails⟩ := ihr between first
              refine ⟨after, ?_⟩
              simp only [Expr.evaluate, leftRun, rightFails]
      | assign =>
          cases named : left.isName with
          | false =>
              -- the assignment itself comes before its parts
              simp only [unassignable?, named, if_false, Bool.false_eq_true] at first
              obtain rfl : left = target := Option.some.inj first
              refine ⟨env, ?_⟩
              cases left with
              | name n => exact absurd named (by simp [isName])
              | number value => rfl
              | operation op l r => rfl
          | true =>
              obtain ⟨n, rfl⟩ := exists_of_isName named
              simp only [unassignable?, isName, if_true, preorder, List.singleton_append,
                List.findSome?_cons] at first
              obtain ⟨after, rightFails⟩ := ihr env first
              refine ⟨after, ?_⟩
              simp only [Expr.evaluate, rightFails]

/-- Evaluation fails with the first bad target in preorder, and only with that. -/
theorem Expr.evaluate_eq_error_iff {expr : Expr} {env : Environment} {error : Evaluate.Error} :
    (expr.evaluate env).1 = .error error
      ↔ ∃ target, expr.preorder.findSome? unassignable? = some target
        ∧ error = .invalidAssignmentTarget target := by
  constructor
  · intro h
    cases found : expr.preorder.findSome? unassignable? with
    | none =>
        obtain ⟨value, after, run⟩ := evaluate_of_targets (targets_of_preorder found) env
        exact absurd h (by simp [run])
    | some target =>
        obtain ⟨after, run⟩ := evaluate_of_unassignable env found
        rw [run] at h
        exact ⟨target, rfl, (Except.error.inj h).symm⟩
  · rintro ⟨target, found, rfl⟩
    obtain ⟨after, run⟩ := evaluate_of_unassignable env found
    rw [run]

/-! ## The parser stops at the first in postorder -/

namespace Parse

/-- **A form that fits is rejected at its first bad target in postorder**, whatever is behind it. -/
theorem operand_of_unassignable {expr target : Expr} {p : List Token} (h : Form expr p)
    {levels : Nat} (rest : List Token) (fits : expr.nesting ≤ levels)
    (first : expr.postorder.findSome? Expr.unassignable? = some target) :
    (operand levels (p ++ rest)).result = .error (.invalidAssignmentTarget target) := by
  induction h generalizing levels rest with
  | number value => exact absurd first (by simp [Expr.postorder, Expr.unassignable?])
  | name valid => exact absurd first (by simp [Expr.postorder, Expr.unassignable?])
  | @operation op left right token ls rs hl ho hr ihl ihr =>
      obtain ⟨levels, rfl, leftFits, rightFits⟩ := Expr.nesting_operation_le_iff.mp fits
      simp only [Expr.postorder, List.findSome?_append] at first
      simp only [List.cons_append, List.append_assoc, List.nil_append]
      cases inLeft : left.postorder.findSome? Expr.unassignable? with
      | some earlier =>
          rw [inLeft, Option.some_or, Option.some_or] at first
          obtain rfl : earlier = target := Option.some.inj first
          exact operand_of_left_error (ihl _ leftFits inLeft)
      | none =>
          have leftTargets := Expr.targets_of_postorder inLeft
          rw [inLeft, Option.none_or] at first
          cases inRight : right.postorder.findSome? Expr.unassignable? with
          | some later =>
              rw [inRight, Option.some_or] at first
              obtain rfl : later = target := Option.some.inj first
              exact operand_of_right_error hl leftTargets leftFits ho (ihr _ rightFits inRight)
          | none =>
              -- both sides are read, so the bracket around them is the one that is rejected
              rw [inRight, Option.none_or] at first
              obtain ⟨part, mem, found⟩ := List.exists_of_findSome?_eq_some first
              obtain ⟨right', same, unnamed⟩ := Expr.unassignable?_eq_some_iff.mp found
              obtain ⟨rfl, rfl, -⟩ :=
                Expr.operation.inj ((List.mem_singleton.mp mem).symm.trans same)
              exact operand_of_close_error hl leftTargets leftFits ho hr
                (Expr.targets_of_postorder inRight) rightFits (close_of_unnamed rest unnamed)

/-- A form that fits is rejected with its first bad target in postorder, and only with that. -/
theorem expression_eq_error_iff {expr : Expr} {p : List Token} (h : Form expr p)
    (rest : List Token) (fits : expr.nesting ≤ maxDepth) (error : Error) :
    (expression (p ++ rest)).result = .error error
      ↔ ∃ target, expr.postorder.findSome? Expr.unassignable? = some target
        ∧ error = .invalidAssignmentTarget target := by
  constructor
  · intro failed
    cases found : expr.postorder.findSome? Expr.unassignable? with
    | none =>
        rw [expression_of_form h rest (Expr.targets_of_postorder found) fits] at failed
        exact absurd failed (by simp)
    | some target =>
        rw [expression_eq_error (operand_of_unassignable h rest fits found)] at failed
        exact ⟨target, rfl, (Except.error.inj failed).symm⟩
  · rintro ⟨target, found, rfl⟩
    exact expression_eq_error (operand_of_unassignable h rest fits found)

end Parse

/-! ## The two checks agree -/

namespace Expr

/-- With names that can be written, an expression is a form of its tokens. -/
theorem form_tokens {expr : Expr} {asked : Float → Prop} (leaves : expr.Leaves asked) :
    Parse.Form expr expr.tokens := by
  rw [← map_arrive_standard expr]
  exact form_arrive Separators.usable_standard leaves

/-- **Evaluating an expression fails exactly if parsing its tokens does**, and that is if some
assignment in it is not to a variable; the environment does not matter.  Evaluation then names the
first such target in preorder, and the parser the first one in postorder. -/
theorem evaluate_fails_iff_parse_fails {expr : Expr} (names : expr.Leaves fun _ => True)
    (fits : expr.nesting ≤ Parse.maxDepth) (env : Environment) :
    ((∃ error, (expr.evaluate env).1 = .error error) ↔ expr.AssignsToNoName)
    ∧ ((∃ error, (Parse.expression expr.tokens).result = .error error) ↔ expr.AssignsToNoName)
    ∧ (∀ error, (expr.evaluate env).1 = .error error →
        ∃ target, expr.preorder.findSome? unassignable? = some target
          ∧ error = .invalidAssignmentTarget target)
    ∧ (∀ error, (Parse.expression expr.tokens).result = .error error →
        ∃ target, expr.postorder.findSome? unassignable? = some target
          ∧ error = .invalidAssignmentTarget target) := by
  have form := form_tokens names
  have parse : ∀ error, (Parse.expression expr.tokens).result = .error error ↔
      ∃ target, expr.postorder.findSome? unassignable? = some target
        ∧ error = .invalidAssignmentTarget target := by
    intro error
    have whole := Parse.expression_eq_error_iff form [] fits error
    rwa [List.append_nil] at whole
  refine ⟨?_, ?_, ?_, ?_⟩
  · rw [← exists_findSome?_preorder_iff]
    constructor
    · rintro ⟨error, failed⟩
      obtain ⟨target, first, -⟩ := evaluate_eq_error_iff.mp failed
      exact ⟨target, first⟩
    · rintro ⟨target, first⟩
      exact ⟨_, evaluate_eq_error_iff.mpr ⟨target, first, rfl⟩⟩
  · rw [← exists_findSome?_postorder_iff]
    constructor
    · rintro ⟨error, failed⟩
      obtain ⟨target, first, -⟩ := (parse error).mp failed
      exact ⟨target, first⟩
    · rintro ⟨target, first⟩
      exact ⟨_, (parse _).mpr ⟨target, first, rfl⟩⟩
  · intro error failed
    exact evaluate_eq_error_iff.mp failed
  · intro error failed
    exact (parse error).mp failed

/-- In `((1 = 2) = 3)` evaluation names the outer target and the parser the inner one. -/
theorem targets_named_of_nested :
    let inner : Expr := .operation .assign (.number 1) (.number 2)
    let outer : Expr := .operation .assign inner (.number 3)
    (outer.evaluate .empty).1 = .error (.invalidAssignmentTarget inner)
      ∧ (Parse.expression outer.tokens).result = .error (.invalidAssignmentTarget (.number 1)) := by
  intro inner outer
  have bad : outer.AssignsToNoName := ⟨inner, .number 3, List.mem_cons_self, rfl⟩
  obtain ⟨evaluationFails, parseFails, atFirst, atFirstClosed⟩ :=
    @evaluate_fails_iff_parse_fails outer (by decide) (by decide) .empty
  constructor
  · obtain ⟨error, failed⟩ := evaluationFails.mpr bad
    obtain ⟨target, first, rfl⟩ := atFirst error failed
    obtain rfl : inner = target := Option.some.inj first
    exact failed
  · obtain ⟨error, failed⟩ := parseFails.mpr bad
    obtain ⟨target, first, rfl⟩ := atFirstClosed error failed
    obtain rfl : Expr.number 1 = target := Option.some.inj first
    exact failed

end Expr

end Calculator
