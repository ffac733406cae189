/-
# Calculator.Proofs.Parse.Stopped — what a parser that fails has read and reported

A run that fails has read some tokens, and it has looked at the token behind them, or found that there
is none.  `Stopped` says what is known then: the tokens that were read begin a sentence that is
unfinished, what comes behind the token that was looked at makes no difference, and the reports are the
groups of the brackets that have closed.  It holds of every failed run (`stopped_operand`), by
induction on the run and by the four ways in which a bracket fails (`BracketFails`).

Where a bracket is rejected, the token that was looked at is its closing bracket.  It has closed the
pair, and the group of that pair is the last report.
-/

import Calculator.Proofs.Parse.Closing

namespace Calculator.Parse

variable {levels : Nat} {tokens read rest : List Token} {left right expr : Expr} {op : Operator}
  {token : Token} {ls rs : List Token} {error : Error} {events earlier : List Event}

/-! ## What is read without failing -/

/-- The tokens are read as the expression, whatever is behind them. -/
structure Reads (levels : Nat) (expr : Expr) (p : List Token) : Prop where
  form : Form expr p
  targets : expr.TargetsAreNames
  fits : expr.nesting ≤ levels

theorem Reads.operand (h : Reads levels expr ls) (rest : List Token) :
    operand levels (ls ++ rest) = ⟨groups expr, .ok (expr, rest)⟩ :=
  operand_of_form h.form rest h.targets h.fits

theorem reads_of_operand (h : (operand levels tokens).result = .ok (expr, rest)) :
    ∃ p, Reads levels expr p ∧ tokens = p ++ rest := by
  obtain ⟨p, form, split, targets, fits⟩ := form_of_operand h
  exact ⟨p, ⟨form, targets, fits⟩, split⟩

/-! ## How a bracket fails -/

theorem events_operator (tokens : List Token) : (operator tokens).events = [] := by
  unfold operator
  split
  · rfl
  · split <;> rfl

/-- The ways in which the inside of a bracket fails, and what has been reported: in the left side, at
the operator, in the right side, or where the bracket should close. -/
inductive BracketFails (levels : Nat) (error : Error) : List Token → List Event → Prop
  | inLeft {tokens : List Token} : (operand levels tokens).result = .error error →
      BracketFails levels error tokens (operand levels tokens).events
  | atOperator {left : Expr} {ls rest : List Token} : Reads levels left ls →
      (operator rest).result = .error error → BracketFails levels error (ls ++ rest) (groups left)
  | inRight {left : Expr} {ls rest : List Token} {op : Operator} {token : Token} :
      Reads levels left ls → OperatorForm op token → (operand levels rest).result = .error error →
      BracketFails levels error (ls ++ token :: rest) (groups left ++ (operand levels rest).events)
  | atClosing {left right : Expr} {ls rs rest : List Token} {op : Operator} {token : Token} :
      Reads levels left ls → OperatorForm op token → Reads levels right rs →
      (close left op right rest).result = .error error →
      BracketFails levels error (ls ++ token :: (rs ++ rest))
        (groups left ++ (groups right ++ (close left op right rest).events))

theorem bracketFails_of_error
    (failed : (operand (levels + 1) (.symbol '(' :: tokens)).result = .error error) :
    BracketFails levels error tokens (operand (levels + 1) (.symbol '(' :: tokens)).events := by
  rw [operand] at failed ⊢
  cases leftRun : (operand levels tokens).result with
  | error e =>
      rw [Traced.bind_eq_of_error leftRun] at failed ⊢
      obtain rfl : e = error := Except.error.inj failed
      exact .inLeft leftRun
  | ok result =>
      obtain ⟨left, behindLeft⟩ := result
      obtain ⟨ls, hl, rfl⟩ := reads_of_operand leftRun
      simp only [hl.operand behindLeft, Traced.mk_ok_bind] at failed ⊢
      cases operatorRun : (operator behindLeft).result with
      | error e =>
          simp only [Traced.bind_eq_of_error operatorRun, events_operator, List.append_nil]
            at failed ⊢
          obtain rfl : e = error := Except.error.inj failed
          exact .atOperator hl operatorRun
      | ok result =>
          obtain ⟨op, behindOperator⟩ := result
          obtain ⟨token, ho, rfl⟩ := form_of_operator operatorRun
          simp only [operator_of_form ho, Traced.ok_bind] at failed ⊢
          cases rightRun : (operand levels behindOperator).result with
          | error e =>
              simp only [Traced.bind_eq_of_error rightRun] at failed ⊢
              obtain rfl : e = error := Except.error.inj failed
              exact .inRight hl ho rightRun
          | ok result =>
              obtain ⟨right, behindRight⟩ := result
              obtain ⟨rs, hr, rfl⟩ := reads_of_operand rightRun
              simp only [hr.operand behindRight, Traced.mk_ok_bind] at failed ⊢
              exact .atClosing hl ho hr failed

/-- Where a bracket should close, another token stands, or the bracket is rejected. -/
theorem close_error_cases (failed : (close left op right rest).result = .error error) :
    ((∀ behind, rest ≠ .symbol ')' :: behind) ∧ error = .malformedExpression
      ∧ (close left op right rest).events = [])
    ∨ ∃ behind, rest = .symbol ')' :: behind ∧ op = .assign ∧ left.isName = false
      ∧ error = .invalidAssignmentTarget left
      ∧ (close left op right rest).events = [.group left op right] := by
  unfold close at failed ⊢
  split at failed
  · rename_i behind
    rw [Traced.bind_eq_of_ok rfl] at failed ⊢
    by_cases bad : op = .assign ∧ left.isName = false
    · rw [if_pos bad] at failed ⊢
      exact Or.inr ⟨behind, rfl, bad.1, bad.2, (Except.error.inj failed).symm, rfl⟩
    · rw [if_neg bad] at failed
      exact absurd failed (by simp)
  · rename_i other
    exact Or.inl ⟨other, (Except.error.inj failed).symm, rfl⟩

/-! ## Where a run stops -/

theorem Unfinished.exists_begins (h : Unfinished levels read) :
    ∃ token, Begins levels (read ++ [token]) := by
  obtain ⟨token, behind, sentence⟩ := h
  refine ⟨token, behind, ?_⟩
  rwa [List.append_assoc, List.singleton_append]

theorem Begins.unfinished_of_concat (h : Begins levels (read ++ [token])) : Unfinished levels read := by
  obtain ⟨behind, sentence⟩ := h
  refine ⟨token, behind, ?_⟩
  rwa [List.append_assoc, List.singleton_append] at sentence

/-- The reports of a run that fails are the groups of the brackets that have closed in what was read.
Where a bracket is rejected, the token behind that is its end, and the group of it is the last. -/
inductive Reported (read rest : List Token) : Error → List Event → Prop
  | closed {error : Error} {events : List Event} :
      (∀ target, error ≠ .invalidAssignmentTarget target) → Closings read events →
      Reported read rest error events
  | rejected {behind : List Token} {target value : Expr} {earlier : List Event} :
      rest = .symbol ')' :: behind → Rejects target (read ++ [.symbol ')']) →
      Closings (read ++ [.symbol ')']) (earlier ++ [.group target .assign value]) →
      Reported read rest (.invalidAssignmentTarget target) (earlier ++ [.group target .assign value])

/-- What was closed before comes in front of the reports. -/
theorem Reported.behind {before : List Token} (h : Reported read rest error events)
    (closed : Closings before earlier) :
    Reported (before ++ read) rest error (earlier ++ events) := by
  cases h with
  | closed other later => exact .closed other (closed.append later)
  | @rejected others target value between next rejects later =>
      have whole := closed.append later
      rw [← List.append_assoc, ← List.append_assoc] at whole
      rw [← List.append_assoc]
      refine .rejected next ?_ whole
      rw [List.append_assoc]
      exact rejects.append_left before

/-- A run has failed behind some tokens.  They are unfinished; the rest matters by its first token
only; and if there were no rest, the run would still fail, but not for a rejected bracket. -/
structure Stopped (levels : Nat) (read rest : List Token) (error : Error) (events : List Event) :
    Prop where
  unfinished : Unfinished levels read
  ahead : ∀ rest', rest'.head? = rest.head? → (operand levels (read ++ rest')).result = .error error
  alone : ∃ e, (operand levels read).result = .error e ∧ ∀ target, e ≠ .invalidAssignmentTarget target
  reported : Reported read rest error events

theorem Stopped.inLeft (h : Stopped levels read rest error events) :
    Stopped (levels + 1) (.symbol '(' :: read) rest error events where
  unfinished := by
    obtain ⟨token, begins⟩ := h.unfinished.exists_begins
    exact Begins.unfinished_of_concat begins.asLeft
  ahead rest' same := operand_of_left_error (h.ahead rest' same)
  alone := by
    obtain ⟨e, failed, other⟩ := h.alone
    exact ⟨e, operand_of_left_error failed, other⟩
  reported := h.reported.behind (Closings.singleton (by decide))

theorem Stopped.inRight (hl : Reads levels left ls) (ho : OperatorForm op token)
    (h : Stopped levels read rest error events) :
    Stopped (levels + 1) (.symbol '(' :: (ls ++ token :: read)) rest error (groups left ++ events) where
  unfinished := by
    obtain ⟨next, begins⟩ := h.unfinished.exists_begins
    have around := begins.asRight hl.form hl.fits ho
    apply Begins.unfinished_of_concat
    simpa using around
  ahead rest' same := by
    have failed := operand_of_right_error hl.form hl.targets hl.fits ho (h.ahead rest' same)
    simpa using failed
  alone := by
    obtain ⟨e, failed, other⟩ := h.alone
    exact ⟨e, operand_of_right_error hl.form hl.targets hl.fits ho failed, other⟩
  reported := by
    have opened : Closings (.symbol '(' :: (ls ++ token :: [])) (groups left ++ []) :=
      hl.form.closings.inside ho .nil
    simpa using h.reported.behind opened

/-- An operator fails at its first token. -/
theorem operator_error_of_head? (failed : (operator rest).result = .error error)
    {rest' : List Token} (same : rest'.head? = rest.head?) :
    (operator rest').result = .error error ∧ ∀ target, error ≠ .invalidAssignmentTarget target := by
  cases rest with
  | nil =>
      obtain rfl : rest' = [] := by simpa using same
      refine ⟨failed, ?_⟩
      rintro target rfl
      exact absurd failed (by simp [operator, Traced.fail])
  | cons token behind =>
      obtain ⟨behind', rfl⟩ := List.head?_eq_some_iff.mp same
      rw [operator] at failed ⊢
      cases found : operator? token with
      | some op => exact absurd failed (by simp [found, Traced.ok])
      | none =>
          rw [found] at failed
          refine ⟨failed, ?_⟩
          rintro target rfl
          exact absurd failed (by simp [Traced.fail])

theorem stopped_atOperator (hl : Reads levels left ls) (failed : (operator rest).result = .error error) :
    Stopped (levels + 1) (.symbol '(' :: ls) rest error (groups left) where
  unfinished := by
    have begins := (begins_nil levels).asRight hl.form hl.fits (.symbol : OperatorForm .assign _)
    exact Begins.unfinished_of_concat begins
  ahead rest' same :=
    operand_of_operator_error hl.form hl.targets hl.fits (operator_error_of_head? failed same).1
  alone := by
    have empty : (operator []).result = .error .malformedExpression := rfl
    have short := operand_of_operator_error hl.form hl.targets hl.fits empty
    rw [List.append_nil] at short
    exact ⟨_, short, by simp⟩
  reported := by
    have opened : Closings [.symbol '('] [] := Closings.singleton (by decide)
    exact .closed (operator_error_of_head? failed rfl).2 (opened.append hl.form.closings)

/-- A bracket fails to close at its next token. -/
theorem close_error_of_head? (failed : (close left op right rest).result = .error error)
    {rest' : List Token} (same : rest'.head? = rest.head?) :
    (close left op right rest').result = .error error := by
  rcases close_error_cases failed with ⟨other, rfl, -⟩ | ⟨behind, rfl, rfl, unnamed, rfl, -⟩
  · unfold close
    split
    · rename_i behind'
      obtain ⟨behind, next⟩ := List.head?_eq_some_iff.mp same.symm
      exact absurd next (other behind)
    · rfl
  · obtain ⟨behind', rfl⟩ := List.head?_eq_some_iff.mp same
    exact close_of_unnamed behind' unnamed

theorem stopped_atClosing (hl : Reads levels left ls) (ho : OperatorForm op token)
    (hr : Reads levels right rs) (failed : (close left op right rest).result = .error error) :
    Stopped (levels + 1) (.symbol '(' :: (ls ++ token :: rs)) rest error
      (groups left ++ (groups right ++ (close left op right rest).events)) := by
  have sides : Closings (.symbol '(' :: (ls ++ token :: rs)) (groups left ++ groups right) :=
    hl.form.closings.inside ho hr.form.closings
  have whole : Form (.operation op left right)
      (.symbol '(' :: (ls ++ token :: rs) ++ [.symbol ')']) := by
    simpa using hl.form.operation ho hr.form
  have fits : (Expr.operation op left right).nesting ≤ levels + 1 :=
    Expr.nesting_operation_le_iff.mpr ⟨levels, rfl, hl.fits, hr.fits⟩
  have atEnd : ∀ others e, (close left op right others).result = .error e →
      (operand (levels + 1) (.symbol '(' :: (ls ++ token :: rs) ++ others)).result = .error e := by
    intro others e stops
    have closes := operand_of_close_error hl.form hl.targets hl.fits ho hr.form hr.targets hr.fits stops
    simpa using closes
  constructor
  · exact ⟨.symbol ')', [], .operation op left right, whole, fits⟩
  · intro rest' same
    exact atEnd rest' error (close_error_of_head? failed same)
  · have short := atEnd [] .malformedExpression rfl
    rw [List.append_nil] at short
    exact ⟨_, short, by simp⟩
  · rw [← List.append_assoc]
    rcases close_error_cases failed with ⟨-, rfl, none⟩ | ⟨behind, rfl, rfl, unnamed, rfl, one⟩
    · rw [none, List.append_nil]
      exact .closed (by simp) sides
    · rw [one]
      refine .rejected rfl ⟨[], _, right, rfl, whole, unnamed⟩ ?_
      exact sides.closing (List.nil_append _).symm whole

/-! ## Every run that fails -/

/-- A run that fails at its first token. -/
theorem stopped_nil (other : ∀ target, error ≠ .invalidAssignmentTarget target)
    (ahead : ∀ rest' : List Token, rest'.head? = rest.head? →
      (operand levels rest').result = .error error) :
    Stopped levels [] rest error [] where
  unfinished := ⟨.number 0, [], .number 0, .number 0, Nat.zero_le _⟩
  ahead := ahead
  alone := ⟨.invalidToken none, by simp [operand, Traced.fail], by simp⟩
  reported := .closed other .nil

/-- **Every run that fails has stopped behind some of its tokens.** -/
theorem stopped_operand (failed : (operand levels tokens).result = .error error) :
    ∃ read rest, tokens = read ++ rest
      ∧ Stopped levels read rest error (operand levels tokens).events := by
  fun_induction operand levels tokens generalizing error with
  | case1 levels value tail => exact absurd failed (by simp [Traced.ok])
  | case2 levels text tail valid => exact absurd failed (by simp [Traced.ok])
  | case3 levels text tail invalid =>
      obtain rfl := Except.error.inj failed
      refine ⟨[], _, rfl, stopped_nil (by simp) ?_⟩
      intro rest' same
      obtain ⟨behind, rfl⟩ := List.head?_eq_some_iff.mp same
      simp [operand, invalid, Traced.fail]
  | case4 tail =>
      obtain rfl := Except.error.inj failed
      refine ⟨[], _, rfl, stopped_nil (by simp) ?_⟩
      intro rest' same
      obtain ⟨behind, rfl⟩ := List.head?_eq_some_iff.mp same
      rfl
  | case5 levels inside ihl ihr =>
      have reported := bracketFails_of_error failed
      change ∃ read rest, _ ∧ Stopped _ _ _ _ (operand (levels + 1) (.symbol '(' :: inside)).events
      generalize (operand (levels + 1) (.symbol '(' :: inside)).events = events at reported ⊢
      cases reported with
      | inLeft leftFailed =>
          obtain ⟨read, rest, rfl, stopped⟩ := ihl leftFailed
          exact ⟨_, rest, rfl, stopped.inLeft⟩
      | atOperator hl operatorFailed => exact ⟨_, _, rfl, stopped_atOperator hl operatorFailed⟩
      | inRight hl ho rightFailed =>
          obtain ⟨read, rest, rfl, stopped⟩ := ihr _ rightFailed
          exact ⟨_, rest, by simp, stopped.inRight hl ho⟩
      | atClosing hl ho hr closeFailed =>
          exact ⟨_, _, by simp, stopped_atClosing hl ho hr closeFailed⟩
  | case6 levels tokens noNumber noWord noBracket noBracket' =>
      obtain rfl := Except.error.inj failed
      refine ⟨[], _, rfl, stopped_nil (by simp) ?_⟩
      intro rest' same
      cases rest' with
      | nil => simp [operand, ← same, Traced.fail]
      | cons token behind =>
          obtain ⟨others, rfl⟩ := List.head?_eq_some_iff.mp same.symm
          cases token with
          | number value => exact absurd rfl (noNumber value others)
          | word text => exact absurd rfl (noWord text others)
          | symbol c =>
              by_cases opens : c = '('
              · subst opens
                cases levels with
                | zero => exact absurd rfl (noBracket others rfl)
                | succ levels => exact absurd rfl (noBracket' levels others rfl)
              · simp [operand, opens, Traced.fail]

end Calculator.Parse
