/-
# Calculator.Proofs.Parse.Accept — the parser accepts the forms of its grammar, and nothing else

The parser and the grammar are compared on tokens with an arbitrary rest behind them.  In the one
direction (`operand_of_form`) the parser is run on a form: it takes exactly the form, gives the
expression, and reports the groups of the expression in the order in which their brackets close.  In
the other (`form_of_operand`) a successful run is read as a form.

What the grammar leaves out enters here: a form is accepted when its brackets fit into the levels
that are free and all its assignments assign to variables.  A form whose brackets do not fit fails
with `tooDeep` (`operand_tooDeep`), since everything to the left of the bracket that is too deep can
still be read.
-/

import Calculator.Proofs.Expr.Shape
import Calculator.Proofs.Parse.Form

namespace Calculator.Parse

/-! ## Reports of a run -/

/-- The groups of an expression in the order of their closing brackets. -/
def groups : Expr → List Event
  | .number _ => []
  | .name _ => []
  | .operation op left right => groups left ++ groups right ++ [.group left op right]

/-- The lists of tokens that events report as left over. -/
def leftovers (events : List Event) : List (List Token) :=
  events.filterMap fun
    | .remaining tokens => some tokens
    | _ => none

@[simp]
theorem leftovers_append (xs ys : List Event) : leftovers (xs ++ ys) = leftovers xs ++ leftovers ys := by
  simp [leftovers]

@[simp]
theorem leftovers_groups (expr : Expr) : leftovers (groups expr) = [] := by
  induction expr with
  | number value => rfl
  | name n => rfl
  | operation op left right ihl ihr => rw [groups, leftovers_append, leftovers_append, ihl, ihr]; rfl

/-! ## From forms to runs -/

theorem operator_of_form {op : Operator} {token : Token} (h : OperatorForm op token)
    (rest : List Token) : operator (token :: rest) = .ok (op, rest) := by
  simp [operator, operator?_eq_some_iff.mpr h]

theorem close_of_target {op : Operator} {left right : Expr} (rest : List Token)
    (target : op = .assign → left.isName = true) :
    close left op right (.symbol ')' :: rest)
      = ⟨[.group left op right], .ok (.operation op left right, rest)⟩ := by
  have allowed : ¬ (op = .assign ∧ left.isName = false) := by
    rintro ⟨assigns, unnamed⟩
    exact Bool.false_ne_true (unnamed.symm.trans (target assigns))
  rw [close, Traced.bind_eq_of_ok rfl, if_neg allowed]
  rfl

theorem close_of_unnamed {left right : Expr} (rest : List Token) (unnamed : left.isName = false) :
    (close left .assign right (.symbol ')' :: rest)).result
      = .error (.invalidAssignmentTarget left) := by
  rw [close, Traced.bind_eq_of_ok rfl, if_pos ⟨rfl, unnamed⟩]
  rfl

/-- **A form that fits is read in full and nothing behind it is touched.** -/
theorem operand_of_form {expr : Expr} {p : List Token} (h : Form expr p) {levels : Nat}
    (rest : List Token) (targets : expr.TargetsAreNames) (fits : expr.nesting ≤ levels) :
    operand levels (p ++ rest) = ⟨groups expr, .ok (expr, rest)⟩ := by
  induction h generalizing levels rest with
  | number value => simp [operand, groups, Traced.ok]
  | name valid => simp [operand, groups, Traced.ok, valid]
  | @operation op left right token ls rs hl ho hr ihl ihr =>
      obtain ⟨target, leftTargets, rightTargets⟩ := targets
      -- the bracket takes a level, and both sides fit into the others
      obtain ⟨levels, rfl, leftFits, rightFits⟩ := Expr.nesting_operation_le_iff.mp fits
      -- behind the left side stands the rest of this bracket, behind the right one its end
      have leftRun := ihl (token :: (rs ++ .symbol ')' :: rest)) leftTargets leftFits
      have rightRun := ihr (.symbol ')' :: rest) rightTargets rightFits
      simp only [List.cons_append, List.append_assoc, List.nil_append]
      simp only [operand, leftRun, operator_of_form ho, rightRun, close_of_target rest target,
        Traced.mk_ok_bind, Traced.ok_bind, groups, List.append_assoc]

/-! ## Failures inside a bracket

A bracket fails as its first part that fails; the parts in front of that one are forms that fit. -/

section Bracket

variable {levels : Nat} {left right : Expr} {op : Operator} {token : Token} {ls rs : List Token}
  {error : Error}

theorem operand_of_left_error {tokens : List Token}
    (failed : (operand levels tokens).result = .error error) :
    (operand (levels + 1) (.symbol '(' :: tokens)).result = .error error := by
  rw [operand, Traced.bind_eq_of_error failed]

theorem operand_of_operator_error (hl : Form left ls) (targets : left.TargetsAreNames)
    (fits : left.nesting ≤ levels) {tokens : List Token}
    (failed : (operator tokens).result = .error error) :
    (operand (levels + 1) (.symbol '(' :: (ls ++ tokens))).result = .error error := by
  rw [operand, operand_of_form hl tokens targets fits, Traced.mk_ok_bind]
  simp only [Traced.bind_eq_of_error failed]

theorem operand_of_right_error (hl : Form left ls) (targets : left.TargetsAreNames)
    (fits : left.nesting ≤ levels) (ho : OperatorForm op token) {tokens : List Token}
    (failed : (operand levels tokens).result = .error error) :
    (operand (levels + 1) (.symbol '(' :: (ls ++ token :: tokens))).result = .error error := by
  rw [operand, operand_of_form hl _ targets fits, Traced.mk_ok_bind]
  simp only [operator_of_form ho, Traced.ok_bind, Traced.bind_eq_of_error failed]

theorem operand_of_close_error (hl : Form left ls) (leftTargets : left.TargetsAreNames)
    (leftFits : left.nesting ≤ levels) (ho : OperatorForm op token) (hr : Form right rs)
    (rightTargets : right.TargetsAreNames) (rightFits : right.nesting ≤ levels)
    {tokens : List Token} (failed : (close left op right tokens).result = .error error) :
    (operand (levels + 1) (.symbol '(' :: (ls ++ token :: (rs ++ tokens)))).result
      = .error error := by
  rw [operand, operand_of_form hl _ leftTargets leftFits, Traced.mk_ok_bind]
  simp only [operator_of_form ho, Traced.ok_bind,
    operand_of_form hr tokens rightTargets rightFits, Traced.mk_ok_bind]
  exact failed

end Bracket

/-- A form whose brackets do not fit fails at the first bracket that is too deep. -/
theorem operand_tooDeep {expr : Expr} {p : List Token} (h : Form expr p) {levels : Nat}
    (rest : List Token) (targets : expr.TargetsAreNames) (deep : levels < expr.nesting) :
    (operand levels (p ++ rest)).result = .error (.tooDeep maxDepth) := by
  induction h generalizing levels rest with
  | number value => exact absurd deep (Nat.not_lt_zero _)
  | name valid => exact absurd deep (Nat.not_lt_zero _)
  | @operation op left right token ls rs hl ho hr ihl ihr =>
      obtain ⟨target, leftTargets, rightTargets⟩ := targets
      cases levels with
      | zero => rfl
      | succ levels =>
          have either : levels < max left.nesting right.nesting := Nat.lt_of_succ_lt_succ deep
          simp only [List.cons_append, List.append_assoc, List.nil_append]
          by_cases leftFits : left.nesting ≤ levels
          · -- the left side is read, so the bracket that is too deep is on the right
            have rightDeep : levels < right.nesting := by omega
            have rightFails := ihr (.symbol ')' :: rest) rightTargets rightDeep
            exact operand_of_right_error hl leftTargets leftFits ho rightFails
          · have leftDeep : levels < left.nesting := Nat.lt_of_not_le leftFits
            have leftFails := ihl (token :: (rs ++ .symbol ')' :: rest)) leftTargets leftDeep
            exact operand_of_left_error leftFails

/-! ## From runs to forms -/

theorem form_of_operator {op : Operator} {tokens rest : List Token}
    (h : (operator tokens).result = .ok (op, rest)) :
    ∃ token, OperatorForm op token ∧ tokens = token :: rest := by
  cases tokens with
  | nil => exact absurd h (by simp [operator, Traced.fail])
  | cons token tokens =>
      rw [operator] at h
      split at h
      · rename_i op' found
        obtain ⟨rfl, rfl⟩ := Prod.mk.inj (Except.ok.inj h)
        exact ⟨token, operator?_eq_some_iff.mp found, rfl⟩
      · exact absurd h (by simp [Traced.fail])

theorem target_of_close {op : Operator} {left right expr : Expr} {tokens rest : List Token}
    (h : (close left op right tokens).result = .ok (expr, rest)) :
    (op = .assign → left.isName = true) ∧ expr = .operation op left right
      ∧ tokens = .symbol ')' :: rest := by
  unfold close at h
  split at h
  · rw [Traced.bind_eq_of_ok rfl] at h
    split at h
    · exact absurd h (by simp [Traced.fail])
    · rename_i allowed
      obtain ⟨rfl, rfl⟩ := Prod.mk.inj (Except.ok.inj h)
      refine ⟨?_, rfl, rfl⟩
      intro assigns
      apply eq_true_of_ne_false
      intro unnamed
      exact allowed ⟨assigns, unnamed⟩
  · exact absurd h (by simp [Traced.fail])

/-- **What the parser takes is a form**, within the levels that were free and with variables on the
left of all assignments. -/
theorem form_of_operand {levels : Nat} {tokens rest : List Token} {expr : Expr}
    (h : (operand levels tokens).result = .ok (expr, rest)) :
    ∃ p, Form expr p ∧ tokens = p ++ rest ∧ expr.TargetsAreNames ∧ expr.nesting ≤ levels := by
  fun_induction operand levels tokens generalizing expr rest with
  | case1 levels value tail =>
      obtain ⟨rfl, rfl⟩ := Prod.mk.inj (Except.ok.inj h)
      exact ⟨_, .number value, rfl, trivial, Nat.zero_le _⟩
  | case2 levels text tail valid =>
      obtain ⟨rfl, rfl⟩ := Prod.mk.inj (Except.ok.inj h)
      exact ⟨_, .name valid, rfl, trivial, Nat.zero_le _⟩
  | case3 levels text tail invalid => exact absurd h (by simp [Traced.fail])
  | case4 tail => exact absurd h (by simp [Traced.fail])
  | case5 levels inside ihl ihr =>
      obtain ⟨⟨left, behindLeft⟩, leftRun, fromOperator⟩ := Traced.result_bind_eq_ok_iff.mp h
      obtain ⟨⟨op, behindOp⟩, operatorRun, fromRight⟩ := Traced.result_bind_eq_ok_iff.mp fromOperator
      obtain ⟨⟨right, behindRight⟩, rightRun, closing⟩ := Traced.result_bind_eq_ok_iff.mp fromRight
      -- each part of the bracket leaves the tokens that the next one begins with
      obtain ⟨token, ho, rfl⟩ := form_of_operator operatorRun
      obtain ⟨target, rfl, rfl⟩ := target_of_close closing
      obtain ⟨ls, hl, rfl, leftTargets, leftFits⟩ := ihl leftRun
      obtain ⟨rs, hr, rfl, rightTargets, rightFits⟩ := ihr _ rightRun
      refine ⟨_, .operation hl ho hr, by simp, ⟨target, leftTargets, rightTargets⟩, ?_⟩
      exact Expr.nesting_operation_le_iff.mpr ⟨levels, rfl, leftFits, rightFits⟩
  | case6 levels tokens => exact absurd h (by simp [Traced.fail])

/-! ## Whole expressions -/

theorem expression_eq_error {tokens : List Token} {error : Error}
    (h : (operand maxDepth tokens).result = .error error) :
    (expression tokens).result = .error error := by
  rw [expression, Traced.bind_eq_of_error h]

theorem expression_of_form {expr : Expr} {p : List Token} (h : Form expr p) (rest : List Token)
    (targets : expr.TargetsAreNames) (fits : expr.nesting ≤ maxDepth) :
    expression (p ++ rest)
      = ⟨groups expr ++ .expression expr :: (if rest = [] then [] else [.remaining rest]),
          .ok expr⟩ := by
  rw [expression, operand_of_form h rest targets fits, Traced.mk_ok_bind]
  by_cases none : rest = []
  · simp only [ne_eq, none, not_true_eq_false, if_false, if_true]
    rfl
  · simp only [ne_eq, none, not_false_eq_true, if_false, if_true]
    rfl

theorem expression_tooDeep {expr : Expr} {p : List Token} (h : Form expr p) (rest : List Token)
    (targets : expr.TargetsAreNames) (deep : maxDepth < expr.nesting) :
    (expression (p ++ rest)).result = .error (.tooDeep maxDepth) := by
  rw [expression, Traced.bind_eq_of_error (operand_tooDeep h rest targets deep)]

theorem form_of_expression {tokens : List Token} {expr : Expr}
    (h : (expression tokens).result = .ok expr) :
    ∃ p rest, tokens = p ++ rest ∧ Form expr p ∧ expr.TargetsAreNames ∧ expr.nesting ≤ maxDepth := by
  obtain ⟨⟨expr', rest⟩, run, fromReport⟩ := Traced.result_bind_eq_ok_iff.mp h
  obtain ⟨p, form, split, targets, fits⟩ := form_of_operand run
  -- reporting changes nothing, so the expression that is returned is the one that was read
  have whole := expression_of_form form rest targets fits
  rw [← split] at whole
  rw [whole] at h
  obtain rfl : expr' = expr := Except.ok.inj h
  exact ⟨p, rest, split, form, targets, fits⟩

/-- **The parser accepts exactly its grammar.**  It gives an expression where the tokens begin with a
form of it, whose assignments assign to variables and whose brackets are not too deep.  The tokens
begin with no other form.  What is behind the form is left over, and the form itself is what the
expression prints once the words among its operators are symbols. -/
theorem expression_eq_ok_iff_form (tokens : List Token) :
    (∀ expr, (expression tokens).result = .ok expr ↔
      ∃ p rest, tokens = p ++ rest ∧ Form expr p ∧ expr.TargetsAreNames ∧ expr.nesting ≤ maxDepth)
    ∧ (∀ expr expr' p p' rest rest', tokens = p ++ rest → tokens = p' ++ rest' →
        Form expr p → Form expr' p' → expr = expr' ∧ p = p')
    ∧ (∀ expr p rest, (expression tokens).result = .ok expr → tokens = p ++ rest → Form expr p →
        leftovers (expression tokens).events = (if rest = [] then [] else [rest])
        ∧ p.map asSymbol = expr.tokens) := by
  refine ⟨?_, ?_, ?_⟩
  · intro expr
    constructor
    · exact form_of_expression
    · rintro ⟨p, rest, rfl, form, targets, fits⟩
      rw [expression_of_form form rest targets fits]
  · rintro expr expr' p p' rest rest' rfl same form form'
    obtain ⟨sameExpr, sameForm, -⟩ := form.append_inj form' same
    exact ⟨sameExpr, sameForm⟩
  · rintro expr p rest accepted rfl form
    obtain ⟨p', rest', -, -, targets, fits⟩ := form_of_expression accepted
    refine ⟨?_, form.map_asSymbol⟩
    rw [expression_of_form form rest targets fits, leftovers_append, leftovers_groups]
    by_cases none : rest = []
    · simp [none, leftovers]
    · simp [none, leftovers]

/-- A word for an operator is accepted, and what follows the closing bracket is left over. -/
example : (expression [.symbol '(', .word "a", .word "=", .word "b", .symbol ')', .word "c"]).result
    = .ok (.operation .assign (.name ⟨"a"⟩) (.name ⟨"b"⟩)) :=
  rfl

end Calculator.Parse
