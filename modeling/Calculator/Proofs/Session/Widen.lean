/-
# Calculator.Proofs.Session.Widen — sessions under more separators

What is accepted stays accepted, as the same expression, when operators other than the two signs
become separators.  So a line that has a value keeps it, and leaves the same environment behind
(`interpret_of_widensTo`).  A line that is rejected need not stay rejected: a word such as `2^3` falls
apart, and with it the reason.

A session can therefore be moved to the wider set, and answers as before as long as it has not
rejected a line (`run_under`).  After that the two can part for good, because the wider set may accept
the line and remember its assignments.
-/

import Calculator.Proofs.Session.Run
import Calculator.Proofs.Token.Widen

namespace Calculator

namespace Separators

variable {narrow wider : Separators}

theorem parse_of_widensTo (widens : narrow.WidensTo wider) {text : String} {expr : Expr}
    (accepted : (narrow.parse text).result = .ok expr) : (wider.parse text).result = .ok expr := by
  obtain ⟨p, rest, split, form, targets, fits⟩ := Parse.form_of_expression accepted
  have refines := refines_tokens widens text
  rw [split] at refines
  obtain ⟨p', rest', split', form', -⟩ := form.refine widens refines
  unfold parse
  rw [split', Parse.expression_of_form form' rest' targets fits]

/-- A sign among the separators would cut a number at its exponent. -/
example : ((ofString "()").parse "1e-2").result = .ok (.number 0.01)
    ∧ (((ofString "()").joined ['-']).parse "1e-2").result = .error (.invalidToken (some (.word "1e"))) := by
  decide +kernel

/-- A line that has a value keeps it, with the environment it leaves. -/
theorem interpret_of_widensTo (widens : narrow.WidensTo wider) {text : String} {value : Float}
    {env after : Environment} (h : narrow.interpret text env = (.ok value, after)) :
    wider.interpret text env = (.ok value, after) := by
  rcases narrow.interpret_cases text env with ⟨error, rejected⟩ | ⟨expr, x, last, accepted, run, given⟩
  · rw [rejected] at h
    exact absurd h (by simp)
  · rw [given] at h
    rw [← h]
    unfold interpret
    simp only [parse_of_widensTo widens accepted, run]

end Separators

namespace Session

variable {session : Session} {wider : Separators}

/-- A session as it is, under other separators. -/
def under (session : Session) (separators : Separators) : Session :=
  { session with separators }

/-- **A line that is not rejected has the same answer under more separators**, and changes the session
in the same way. -/
theorem handle_under (widens : session.separators.WidensTo wider) {line : String}
    (accepted : ∀ error, (session.handle line).1 ≠ .error error) :
    (session.under wider).handle line
      = ((session.handle line).1, (session.handle line).2.under wider) := by
  unfold handle at accepted ⊢
  cases asked : Command.ofLine line with
  -- four commands are answered without the separators
  | empty => rfl
  | environment => rfl
  | history => rfl
  | quit => rfl
  | evaluate text =>
      simp only [asked, evaluate] at accepted ⊢
      rcases session.separators.interpret_cases text session.environment with
        ⟨error, rejected⟩ | ⟨expr, value, after, -, -, run⟩
      · rw [rejected] at accepted
        exact absurd rfl (accepted (.parse error))
      · have kept : (session.under wider).separators.interpret text (session.under wider).environment
            = (.ok value, after) := Separators.interpret_of_widensTo widens run
        rw [kept, run]
        rfl

/-- **A run in which no line is rejected is the same run under more separators.** -/
theorem run_under {lines : List String} (widens : session.separators.WidensTo wider)
    (accepted : ∀ error, .error error ∉ (session.run lines).1) :
    (session.under wider).run lines
      = ((session.run lines).1, (session.run lines).2.under wider) := by
  induction lines generalizing session with
  | nil => rfl
  | cons line lines ih =>
      rw [run_cons] at accepted ⊢
      have first : ∀ error, (session.handle line).1 ≠ .error error := by
        intro error rejected
        apply accepted error
        rw [rejected]
        exact List.mem_cons_self
      have others : ∀ error, .error error ∉ ((session.handle line).2.run lines).1 := by
        intro error mem
        exact accepted error (List.mem_cons_of_mem _ mem)
      -- the next session still has the narrower separators
      have later : (session.handle line).2.separators.WidensTo wider := by
        rw [separators_handle]
        exact widens
      rw [run_cons, handle_under widens first, ih later others]

/-- **Every working line keeps working under more separators.**  What is accepted under some separators
is accepted, as the same expression, when operators that are not signs join them.  In particular a line
that has a value under the historic separators has it under the standard ones, and leaves the same
environment.  So does a whole session, as long as it rejects no line. -/
theorem working_lines_kept (separators : Separators) (added : List Char)
    (operators : ∀ c ∈ added, c ∈ Separators.unsigned) :
    (∀ text expr, (separators.parse text).result = .ok expr →
        ((separators.joined added).parse text).result = .ok expr)
    ∧ (∀ text env value after, Separators.legacy.interpret text env = (.ok value, after) →
        Separators.standard.interpret text env = (.ok value, after))
    ∧ ∀ session : Session, session.separators = .legacy → ∀ lines,
        (∀ error, .error error ∉ (session.run lines).1) →
        (session.under .standard).run lines
          = ((session.run lines).1, (session.run lines).2.under .standard) := by
  refine ⟨?_, ?_, ?_⟩
  · intro text expr accepted
    exact Separators.parse_of_widensTo (separators.widensTo_joined operators) accepted
  · intro text env value after evaluated
    exact Separators.interpret_of_widensTo Separators.legacy_widensTo_standard evaluated
  · intro session historic lines accepted
    have widens : session.separators.WidensTo .standard := by
      rw [historic]
      exact Separators.legacy_widensTo_standard
    exact run_under widens accepted

/-- A remainder whose symbol is a word under the historic separators. -/
theorem working_lines_kept_remainder :
    (∀ c ∈ ['^', '%'], c ∈ Separators.unsigned)
    ∧ (Separators.legacy.parse "(a = (7 % 4))").result
        = .ok (.operation .assign (.name ⟨"a"⟩) (.operation (.arithmetic .mod) (.number 7) (.number 4)))
    ∧ ((Separators.legacy.joined ['^', '%']).parse "(a = (7 % 4))").result
        = .ok (.operation .assign (.name ⟨"a"⟩) (.operation (.arithmetic .mod) (.number 7) (.number 4)))
    ∧ Separators.standard.interpret "(a = (7 % 4))" .empty
        = (.ok 3, (Separators.legacy.interpret "(a = (7 % 4))" .empty).2) := by
  have operators : ∀ c ∈ ['^', '%'], c ∈ Separators.unsigned := by simp [Separators.unsigned]
  have accepted : (Separators.legacy.parse "(a = (7 % 4))").result = .ok (.operation .assign
      (.name ⟨"a"⟩) (.operation (.arithmetic .mod) (.number 7) (.number 4))) := by
    decide +kernel
  have value : (Separators.legacy.interpret "(a = (7 % 4))" .empty).1 = .ok 3 := by
    decide +kernel
  obtain ⟨keepsExpression, keepsValue, -⟩ := working_lines_kept .legacy ['^', '%'] operators
  exact ⟨operators, accepted, keepsExpression _ _ accepted, keepsValue _ _ _ _ (Prod.ext value rfl)⟩

end Session

end Calculator
