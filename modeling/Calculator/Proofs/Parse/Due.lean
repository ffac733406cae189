/-
# Calculator.Proofs.Parse.Due — tokens that begin a sentence, and what is due behind them

A sentence is a form whose brackets fit into the levels that are free.  Nothing is asked here of the
left sides of assignments: that they are variables is looked at apart, when their brackets close
(`Calculator.Proofs.Parse.Rejected`).

Tokens begin a sentence if some tokens behind them make one of them.  As long as it is unfinished,
one of three things is due next: an operand, an operator or a closing bracket.  What is due is said
by the grammar alone, by the tokens that may come next (`Due.After`), and `Due.error` is the error to
report when another token comes, or none.
-/

import Calculator.Proofs.Expr.Shape
import Calculator.Proofs.Parse.Form

namespace Calculator.Parse

/-! ## Sentences and their beginnings -/

/-- Tokens are a sentence if they are a form whose brackets fit into the levels. -/
def Sentence (levels : Nat) (tokens : List Token) : Prop :=
  ∃ expr, Form expr tokens ∧ expr.nesting ≤ levels

/-- Some tokens behind the given ones make them a sentence. -/
def Begins (levels : Nat) (tokens : List Token) : Prop :=
  ∃ behind, Sentence levels (tokens ++ behind)

/-- At least one more token makes the given ones a sentence. -/
def Unfinished (levels : Nat) (tokens : List Token) : Prop :=
  ∃ token behind, Sentence levels (tokens ++ token :: behind)

variable {levels : Nat} {tokens q : List Token}

theorem begins_nil (levels : Nat) : Begins levels [] :=
  ⟨[.number 0], .number 0, .number 0, Nat.zero_le _⟩

theorem Begins.of_prefix (shorter : q <+: tokens) (h : Begins levels tokens) : Begins levels q := by
  obtain ⟨between, rfl⟩ := shorter
  obtain ⟨behind, sentence⟩ := h
  rw [List.append_assoc] at sentence
  exact ⟨between ++ behind, sentence⟩

theorem Unfinished.begins (h : Unfinished levels q) : Begins levels q := by
  obtain ⟨token, behind, sentence⟩ := h
  exact ⟨token :: behind, sentence⟩

theorem Begins.unfinished (h : Begins levels q) (part : ¬ Sentence levels q) :
    Unfinished levels q := by
  obtain ⟨behind, sentence⟩ := h
  cases behind with
  | nil =>
      rw [List.append_nil] at sentence
      exact absurd sentence part
  | cons token behind => exact ⟨token, behind, sentence⟩

/-! ### Around a beginning

What begins a sentence also does so as the left or the right side of a bracket, with one more level
free outside. -/

theorem Begins.asLeft (h : Begins levels q) : Begins (levels + 1) (.symbol '(' :: q) := by
  obtain ⟨behind, expr, form, fits⟩ := h
  have whole : Form (.operation (.arithmetic .add) expr (.number 0)) _ :=
    form.operation .symbol (.number 0)
  refine ⟨behind ++ .symbol '+' :: .number 0 :: [.symbol ')'],
    .operation (.arithmetic .add) expr (.number 0), ?_, ?_⟩
  · simpa [Operator.symbol] using whole
  · exact Expr.nesting_operation_le_iff.mpr ⟨levels, rfl, fits, Nat.zero_le _⟩

theorem Begins.asRight {left : Expr} {ls : List Token} {op : Operator} {token : Token}
    (hl : Form left ls) (leftFits : left.nesting ≤ levels) (ho : OperatorForm op token)
    (h : Begins levels q) : Begins (levels + 1) (.symbol '(' :: (ls ++ token :: q)) := by
  obtain ⟨behind, expr, form, fits⟩ := h
  refine ⟨behind ++ [.symbol ')'], .operation op left expr, ?_, ?_⟩
  · simpa using hl.operation ho form
  · exact Expr.nesting_operation_le_iff.mpr ⟨levels, rfl, leftFits, fits⟩

/-! ## What is due -/

/-- What has to come next in an unfinished sentence. -/
inductive Due where
  | operand
  | operator
  | closing
  deriving DecidableEq

/-- The tokens that what is due may begin with. -/
def Due.Admits : Due → Token → Prop
  | operand, .number _ => True
  | operand, .word text => Name.isValid text = true
  | operand, .symbol c => c = '('
  | operator, token => ∃ op, OperatorForm op token
  | closing, token => token = .symbol ')'

/-- The error that reports another token, or none, in place of what is due.  An opening bracket is in
the wrong place only where no level is left for it. -/
def Due.error : Due → Option Token → Error
  | operand, some (.symbol '(') => .tooDeep maxDepth
  | operand, token => .invalidToken token
  | operator, some token => .unknownOperator token
  | operator, none => .malformedExpression
  | closing, _ => .malformedExpression

/-- Behind the tokens there may come one that begins what is due. -/
def Due.After (levels : Nat) (due : Due) (tokens : List Token) : Prop :=
  ∃ token, due.Admits token ∧ Begins levels (tokens ++ [token])

theorem not_operatorForm_bracket {op : Operator} {c : Char} (bracket : c = '(' ∨ c = ')') :
    ¬ OperatorForm op (.symbol c) := by
  intro h
  rw [← operator?_eq_some_iff] at h
  rcases bracket with rfl | rfl
  · have none : operator? (.symbol '(') = none := by decide
    exact absurd (none.symm.trans h) (by simp)
  · have none : operator? (.symbol ')') = none := by decide
    exact absurd (none.symm.trans h) (by simp)

theorem not_operatorForm_of_admits {op : Operator} {token : Token} (h : Due.operand.Admits token) :
    ¬ OperatorForm op token := by
  cases token with
  | number value => rintro ⟨⟩
  | word text =>
      intro form
      have := operator?_eq_some_iff.mpr form
      rw [operator?_word_of_isValid h] at this
      exact absurd this (by simp)
  | symbol c => exact not_operatorForm_bracket (Or.inl h)

/-- No token begins two of the things that can be due. -/
theorem Due.eq_of_admits {due due' : Due} {token : Token} (h : due.Admits token)
    (h' : due'.Admits token) : due = due' := by
  have closingOrOperand : ¬ Due.operand.Admits (.symbol ')') := by
    show ')' ≠ '('
    decide
  cases due with
  | operand =>
      cases due' with
      | operand => rfl
      | operator =>
          obtain ⟨op, form⟩ := h'
          exact absurd form (not_operatorForm_of_admits h)
      | closing =>
          obtain rfl : token = .symbol ')' := h'
          exact absurd h closingOrOperand
  | operator =>
      obtain ⟨op, form⟩ := h
      cases due' with
      | operand => exact absurd form (not_operatorForm_of_admits h')
      | operator => rfl
      | closing =>
          obtain rfl : token = .symbol ')' := h'
          exact absurd form (not_operatorForm_bracket (Or.inr rfl))
  | closing =>
      obtain rfl : token = .symbol ')' := h
      cases due' with
      | operand => exact absurd h' closingOrOperand
      | operator =>
          obtain ⟨op, form⟩ := h'
          exact absurd form (not_operatorForm_bracket (Or.inr rfl))
      | closing => rfl

/-- Every token of a form is there because something was due. -/
theorem Form.exists_due {expr : Expr} {p : List Token} (h : Form expr p) {token : Token}
    (mem : token ∈ p) : ∃ due : Due, due.Admits token := by
  induction h with
  | number value =>
      obtain rfl := List.mem_singleton.mp mem
      exact ⟨.operand, trivial⟩
  | name valid =>
      obtain rfl := List.mem_singleton.mp mem
      exact ⟨.operand, valid⟩
  | operation hl ho hr ihl ihr =>
      simp only [List.mem_cons, List.mem_append, List.not_mem_nil, or_false] at mem
      rcases mem with rfl | inLeft | rfl | inRight | rfl
      · exact ⟨.operand, rfl⟩
      · exact ihl inLeft
      · exact ⟨.operator, _, ho⟩
      · exact ihr inRight
      · exact ⟨.closing, rfl⟩

theorem Unfinished.exists_due (h : Unfinished levels q) : ∃ due : Due, due.After levels q := by
  obtain ⟨token, behind, expr, form, fits⟩ := h
  have mem : token ∈ q ++ token :: behind := by simp
  obtain ⟨due, admits⟩ := form.exists_due mem
  refine ⟨due, token, admits, behind, expr, ?_, fits⟩
  rwa [List.append_assoc, List.singleton_append]

/-- A token that nothing admits does not go on with any sentence. -/
theorem not_begins_of_not_admits {token : Token} (never : ∀ due : Due, ¬ due.Admits token) :
    ¬ Begins levels (q ++ [token]) := by
  rintro ⟨behind, expr, form, -⟩
  have mem : token ∈ q ++ [token] ++ behind := by simp
  obtain ⟨due, admits⟩ := form.exists_due mem
  exact never due admits

end Calculator.Parse
