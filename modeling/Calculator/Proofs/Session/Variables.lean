/-
# Calculator.Proofs.Session.Variables — the variables that a session shows

The parser lets only names through that can be typed, so whatever lines a session answers, all names it
has values for can be typed (`namesValid_run`).  That is what makes the text of its environment exact:
it lists each name once, in order and with its last value, and no other environment of such names has
this text (`lists_and_shows`).
-/

import Calculator.Proofs.Environment.Dump
import Calculator.Proofs.Evaluate.Assigned
import Calculator.Proofs.Expr.Reread
import Calculator.Proofs.Session.Run

namespace Calculator

/-! ## Names that are assigned -/

/-- What is assigned in an expression is among its names. -/
theorem Expr.Leaves.of_assigns {asked : Float → Prop} {expr : Expr} (h : expr.Leaves asked) {n : Name}
    (assigned : expr.Assigns n) : Name.isValid n.text = true := by
  induction expr with
  | number value => exact absurd assigned Expr.not_assigns_number
  | name m => exact absurd assigned Expr.not_assigns_name
  | operation op left right ihl ihr =>
      rcases Expr.assigns_operation.mp assigned with ⟨-, rfl⟩ | inLeft | inRight
      · exact h.1
      · exact ihl h.1 inLeft
      · exact ihr h.2 inRight

theorem Environment.NamesValid.evaluate {env : Environment} (h : env.NamesValid) {expr : Expr}
    {asked : Float → Prop} (leaves : expr.Leaves asked) : (expr.evaluate env).2.NamesValid := by
  apply Expr.evaluate_induction (P := Environment.NamesValid)
  · intro reached m x assigned kept
    exact kept.assign (leaves.of_assigns assigned) x
  · exact h

namespace Session

theorem namesValid_handle {session : Session} (h : session.environment.NamesValid) (line : String) :
    (session.handle line).2.environment.NamesValid := by
  rcases session.handle_cases line with
    ⟨text, value, after, -, run, handled⟩ | ⟨error, handled⟩ | ⟨reply, -, handled⟩
  · rw [handled]
    rcases session.separators.interpret_cases text session.environment with
      ⟨error, rejected⟩ | ⟨expr, value', after', parsed, evaluated, run'⟩
    · exact absurd (rejected.symm.trans run) (by simp)
    · obtain ⟨-, rfl⟩ := Prod.mk.inj (run'.symm.trans run)
      have kept := h.evaluate (Separators.readable_of_parse parsed).1
      rwa [evaluated] at kept
  · rw [handled]
    exact h
  · rw [handled]
    exact h

/-- **All names that a session has values for can be typed**, if that is so at its start. -/
theorem namesValid_run {session : Session} (h : session.environment.NamesValid)
    (lines : List String) : (session.run lines).2.environment.NamesValid := by
  induction lines generalizing session with
  | nil => exact h
  | cons line lines ih =>
      rw [run_cons]
      exact ih (namesValid_handle h line)

end Session

namespace Environment

/-- **An environment lists and shows what was last assigned.**  It lists each assigned name once, in
increasing order and with its last value; so assignments that agree in all last values are listed and
shown the same.  Where all names can be typed, the text shown is that of no other pairs, and all names
can be typed wherever a session gets. -/
theorem lists_and_shows :
    (∀ assignments, (ofAssignments assignments).Lists assignments)
    ∧ (∀ first second, (∀ name, lastAssigned? first name = lastAssigned? second name) →
        (ofAssignments first).entries = (ofAssignments second).entries
          ∧ (ofAssignments first).text = (ofAssignments second).text)
    ∧ (∀ env other : Environment, env.NamesValid → other.NamesValid → env.text = other.text →
        env.entries = other.entries)
    ∧ ∀ (config : Session.Config) (lines : List String),
        ((Session.start config).run lines).2.environment.NamesValid := by
  refine ⟨lists_ofAssignments, ?_, ?_, ?_⟩
  · intro first second same
    rw [ofAssignments_eq same]
    exact ⟨rfl, rfl⟩
  · intro env other valid valid' same
    rw [eq_of_text_eq valid valid' same]
  · intro config lines
    exact Session.namesValid_run namesValid_empty lines

/-- Two orders of assignments, one of which overwrites, and a session that tells the zeros apart. -/
theorem lists_and_shows_overwritten :
    (ofAssignments [(⟨"x"⟩, 1), (⟨"y"⟩, 2), (⟨"x"⟩, 3)]).text = "\x7bx: 3, y: 2\x7d"
      ∧ (ofAssignments [(⟨"y"⟩, 2), (⟨"x"⟩, 3)]).text = "\x7bx: 3, y: 2\x7d"
      ∧ ((Session.start {}).run ["(x = 0)"]).2.environment.text
        ≠ ((Session.start {}).run ["(x = (0 * (0 - 1)))"]).2.environment.text := by
  obtain ⟨-, orders, texts, reached⟩ := lists_and_shows
  have same := (orders [(⟨"x"⟩, 1), (⟨"y"⟩, 2), (⟨"x"⟩, 3)] [(⟨"y"⟩, 2), (⟨"x"⟩, 3)] ?_).2
  · have shown : (ofAssignments [(⟨"y"⟩, 2), (⟨"x"⟩, 3)]).text = "\x7bx: 3, y: 2\x7d" := by
      decide +kernel
    refine ⟨same.trans shown, shown, ?_⟩
    intro equal
    have entries := texts _ _ (reached {} ["(x = 0)"]) (reached {} ["(x = (0 * (0 - 1)))"]) equal
    exact absurd entries (by decide +kernel)
  · intro name
    by_cases isX : name = ⟨"x"⟩
    · rw [isX]
      decide +kernel
    · simp [lastAssigned?, List.find?_cons, Ne.symm isX]

end Environment

end Calculator
