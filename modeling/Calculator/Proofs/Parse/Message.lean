/-
# Calculator.Proofs.Parse.Message — what the messages of the parser show

An error carries what its message shows, and the parser takes all of that from the tokens: a token in
the wrong place is one of them, a target is an expression that some of them are a form of, and the limit
is the one that there is (`concerns_of_expression_error`).

So a message is made of fixed words, of the texts of tokens, and of canonical texts with names that can
be typed.  A scan keeps blanks out of its tokens, and a line feed is a blank.  So whatever the text was
that the parser rejected, and however many lines it had, the message is on one line
(`isLine_message`).
-/

import Calculator.Interpret
import Calculator.Proofs.Expr.Reread
import Calculator.Proofs.Number.Shown
import Calculator.Proofs.Parse.Report
import Calculator.Proofs.Text.Line

namespace Calculator

/-! ## Texts that are shown -/

theorem Binary64.isLine_text (x : Float) : Text.IsLine (text x) := by
  rw [text, Text.isLine_ofList]
  intro mem
  exact absurd (isShown_of_mem_chars mem) (by decide)

theorem Name.isLine_of_isValid {text : String} (valid : isValid text = true) : Text.IsLine text := by
  intro mem
  exact absurd ((isValid_iff.mp valid).2 _ mem) (by decide)

theorem Operator.isLine_name (op : Operator) : Text.IsLine op.name := by
  rcases op with ⟨⟨⟩⟩ | ⟨⟩ <;> decide

/-- An expression is shown on one line if its names can be typed. -/
theorem Expr.isLine_canonical {expr : Expr} {asked : Float → Prop} (names : expr.Leaves asked) :
    Text.IsLine expr.canonical := by
  induction expr with
  | number value =>
      simp only [canonical, Text.isLine_append]
      exact ⟨⟨by decide, Binary64.isLine_text value⟩, by decide⟩
  | name n =>
      simp only [canonical, Text.isLine_append]
      exact ⟨⟨by decide, Name.isLine_of_isValid names⟩, by decide⟩
  | operation op left right ihl ihr =>
      simp only [canonical, Text.isLine_append]
      exact ⟨⟨⟨⟨⟨op.isLine_name, by decide⟩, ihl names.1⟩, by decide⟩, ihr names.2⟩, by decide⟩

/-- A token of a scan is shown on one line. -/
theorem Separators.Scanned.isLine_text {separators : Separators} {token : Token}
    (scanned : separators.Scanned token) : Text.IsLine token.text := by
  have blank : Text.isBlank '\n' = true := by decide
  cases scanned with
  | @symbol c visible separates =>
      intro mem
      obtain rfl : '\n' = c := by simpa [Token.text] using mem
      exact absurd blank (ne_true_of_eq_false visible)
  | @run run some plain =>
      unfold Token.ofRun
      split
      · rename_i value literal
        exact Binary64.isLine_text value
      · refine Text.isLine_ofList.mpr fun mem => ?_
        exact absurd blank (ne_true_of_eq_false (plain '\n' mem).1)

namespace Parse

/-! ## What an error names -/

/-- All that the error names is found in the tokens. -/
def Error.Concerns (tokens : List Token) : Error → Prop
  | invalidToken token? => ∀ token ∈ token?, token ∈ tokens
  | unknownOperator token => token ∈ tokens
  | malformedExpression => True
  | invalidAssignmentTarget target => ∃ p, Form target p ∧ p ⊆ tokens
  | tooDeep limit => limit = maxDepth

variable {levels : Nat} {tokens more : List Token} {error : Error}

theorem Error.Concerns.mono (h : error.Concerns tokens) (subset : tokens ⊆ more) :
    error.Concerns more := by
  cases error with
  | invalidToken token? => exact fun token is => subset (h token is)
  | unknownOperator token => exact subset h
  | malformedExpression => trivial
  | invalidAssignmentTarget target =>
      obtain ⟨p, form, inside⟩ := h
      exact ⟨p, form, List.Subset.trans inside subset⟩
  | tooDeep limit => exact h

theorem concerns_of_operator_error (failed : (operator tokens).result = .error error) :
    error.Concerns tokens := by
  unfold operator at failed
  split at failed
  · obtain rfl := Except.error.inj failed
    trivial
  · split at failed
    · exact absurd failed (by simp [Traced.ok])
    · obtain rfl := Except.error.inj failed
      exact List.mem_cons_self

/-- **What an error names is found in the tokens**, wherever the run fails. -/
theorem concerns_of_operand_error (failed : (operand levels tokens).result = .error error) :
    error.Concerns tokens := by
  fun_induction operand levels tokens generalizing error with
  | case1 levels value tail => exact absurd failed (by simp [Traced.ok])
  | case2 levels text tail valid => exact absurd failed (by simp [Traced.ok])
  | case3 levels text tail invalid =>
      obtain rfl := Except.error.inj failed
      intro token is
      obtain rfl : Token.word text = token := Option.some.inj is
      exact List.mem_cons_self
  | case4 tail =>
      obtain rfl := Except.error.inj failed
      rfl
  | case5 levels inside ihl ihr =>
      have reported := bracketFails_of_error failed
      generalize (operand (levels + 1) (.symbol '(' :: inside)).events = events at reported
      cases reported with
      | inLeft leftFailed => exact (ihl leftFailed).mono (List.subset_cons_self _ _)
      | atOperator hl operatorFailed =>
          refine (concerns_of_operator_error operatorFailed).mono ?_
          exact List.subset_cons_of_subset _ (List.subset_append_right _ _)
      | inRight hl ho rightFailed =>
          refine (ihr _ rightFailed).mono ?_
          refine List.subset_cons_of_subset _ (List.subset_append_of_subset_right _ ?_)
          exact List.subset_cons_self _ _
      | @atClosing left right ls rs rest op token hl ho hr closeFailed =>
          rcases close_error_cases closeFailed with ⟨-, rfl, -⟩ | ⟨behind, -, -, -, rfl, -⟩
          · trivial
          · -- the target is the left side of the bracket that is rejected
            refine ⟨ls, hl.form, ?_⟩
            exact List.subset_cons_of_subset _ (List.subset_append_left _ _)
  | case6 levels tokens noNumber noWord noBracket noBracket' =>
      obtain rfl := Except.error.inj failed
      intro token is
      exact List.mem_of_head? is

theorem concerns_of_expression_error (failed : (expression tokens).result = .error error) :
    error.Concerns tokens :=
  concerns_of_operand_error (operand_of_expression_error failed).1

/-! ## Messages -/

/-- A message is on one line if all tokens are. -/
theorem Error.Concerns.isLine_message (h : error.Concerns tokens)
    (lines : ∀ token ∈ tokens, Text.IsLine token.text) : Text.IsLine error.message := by
  cases error with
  | invalidToken token? =>
      refine Text.isLine_append.mpr ⟨by decide, ?_⟩
      cases token? with
      | none => decide
      | some token => exact lines token (h token rfl)
  | unknownOperator token => exact Text.isLine_append.mpr ⟨by decide, lines token h⟩
  | malformedExpression => decide
  | invalidAssignmentTarget target =>
      obtain ⟨p, form, -⟩ := h
      have names : target.Leaves fun _ => True := form.leaves fun _ _ => trivial
      exact Text.isLine_append.mpr ⟨by decide, Expr.isLine_canonical names⟩
  | tooDeep limit =>
      obtain rfl : limit = maxDepth := h
      decide

end Parse

/-- **The message for a text that the parser rejects is on one line**, whatever the text is. -/
theorem Separators.isLine_message {separators : Separators} {text : String} {error : Parse.Error}
    (rejected : (separators.parse text).result = .error error) : Text.IsLine error.message := by
  apply (Parse.concerns_of_expression_error rejected).isLine_message
  intro token mem
  exact (scanned_of_mem_tokens mem).isLine_text

end Calculator
