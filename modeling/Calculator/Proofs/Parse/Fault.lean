/-
# Calculator.Proofs.Parse.Fault — an error names the first token that leaves the grammar

Tokens that have no sentence at their beginning leave the grammar at exactly one place: what is in
front of it begins a sentence, and with the token at that place it no longer does, or there is none.
This is the fault.  The error is the one for what is due there (`operand_of_due`).

A bracket that is rejected when it closes comes before any fault behind it, because the parser has
read everything up to that bracket and nothing beyond.  So where some bracket in front of the fault is
rejected, or some bracket of the sentence that the tokens begin with, the error names the first such
target.
-/

import Calculator.Proofs.Parse.Rejected
import Mathlib.Logic.ExistsUnique

namespace Calculator.Parse

variable {levels : Nat} {q rest : List Token} {due : Due}

/-! ## Where the tokens leave the grammar -/

/-- So many tokens begin a sentence that is unfinished, and one more does not or there is none. -/
def IsFault (levels : Nat) (tokens : List Token) (n : Nat) : Prop :=
  n ≤ tokens.length ∧ Unfinished levels (tokens.take n)
    ∧ (n = tokens.length ∨ ¬ Begins levels (tokens.take (n + 1)))

/-- There is no fault behind another one. -/
theorem IsFault.le {tokens : List Token} {m n : Nat} (hm : IsFault levels tokens m)
    (hn : IsFault levels tokens n) : n ≤ m := by
  apply Nat.le_of_not_lt
  intro less
  rcases hm.2.2 with rfl | leaves
  · exact absurd hn.1 (Nat.not_le_of_lt less)
  · exact leaves (hn.2.1.begins.of_prefix (List.take_prefix_take_left less))

/-- Where nothing at the beginning is a sentence there is a fault. -/
theorem exists_isFault {tokens : List Token} (none : ∀ q, q <+: tokens → ¬ Sentence levels q) :
    ∃ n, IsFault levels tokens n := by
  apply Classical.byContradiction
  intro faultless
  -- without a fault, one token after another can be taken, up to the end and beyond
  have begins : ∀ n, n ≤ tokens.length → Begins levels (tokens.take n) := by
    intro n
    induction n with
    | zero =>
        intro le
        exact begins_nil levels
    | succ n ih =>
        intro le
        have here := (ih (Nat.le_of_succ_le le)).unfinished (none _ (List.take_prefix n tokens))
        apply Classical.byContradiction
        intro leaves
        exact faultless ⟨n, Nat.le_of_succ_le le, here, Or.inr leaves⟩
  have all := (begins tokens.length (Nat.le_refl _)).unfinished (none _ (List.take_prefix _ _))
  exact faultless ⟨tokens.length, Nat.le_refl _, all, Or.inl rfl⟩

/-! ## The error is the one for what is due -/

/-- The next token, if there is one, does not go on with the sentence. -/
def Stuck (levels : Nat) (q rest : List Token) : Prop :=
  ∀ token behind, rest = token :: behind → ¬ Begins levels (q ++ [token])

/-- An operand that cannot begin. -/
theorem operand_of_stuck (stuck : Stuck levels [] rest) :
    (operand levels rest).result = .error (Due.operand.error rest.head?) := by
  cases rest with
  | nil => simp [operand, Due.error, Traced.fail]
  | cons token behind =>
      have leaves : ¬ Begins levels [token] := stuck token behind rfl
      cases token with
      | number value =>
          exact absurd ⟨[], .number value, .number value, Nat.zero_le _⟩ leaves
      | word text =>
          by_cases valid : Name.isValid text = true
          · exact absurd ⟨[], .name ⟨text⟩, .name valid, Nat.zero_le _⟩ leaves
          · simp [operand, valid, Due.error, Traced.fail]
      | symbol c =>
          by_cases opens : c = '('
          · subst opens
            cases levels with
            | zero => rfl
            | succ levels => exact absurd (begins_nil levels).asLeft leaves
          · simp [operand, opens, Due.error, Traced.fail]

theorem operator_of_stuck (stuck : ∀ token behind, rest = token :: behind →
    ∀ op, ¬ OperatorForm op token) :
    (operator rest).result = .error (Due.operator.error rest.head?) := by
  cases rest with
  | nil => rfl
  | cons token behind =>
      cases found : operator? token with
      | none => simp [operator, found, Due.error, Traced.fail]
      | some op => exact absurd (operator?_eq_some_iff.mp found) (stuck token behind rfl op)

theorem close_of_stuck {op : Operator} {left right : Expr}
    (stuck : ∀ behind, rest ≠ .symbol ')' :: behind) :
    (close left op right rest).result = .error (Due.closing.error rest.head?) := by
  unfold close
  split
  · rename_i behind
    exact absurd rfl (stuck behind)
  · rfl

/-- In a list with a token in its middle, another token is in front of it, is this one or is behind
it. -/
theorem append_cons_cases {l m c : List Token} {s t : Token} (same : l ++ s :: m = q ++ t :: c) :
    (∃ c', l = q ++ t :: c') ∨ (q = l ∧ t = s ∧ c = m) ∨ ∃ y, q = l ++ s :: y ∧ m = y ++ t :: c := by
  rcases List.append_eq_append_iff.mp same with ⟨x, rfl, behind⟩ | ⟨x, rfl, behind⟩
  · cases x with
    | nil =>
        obtain ⟨rfl, rfl⟩ := List.cons.inj behind
        exact Or.inr (Or.inl ⟨List.append_nil l, rfl, rfl⟩)
    | cons first y =>
        obtain ⟨rfl, inRight⟩ := List.cons.inj behind
        exact Or.inr (Or.inr ⟨y, rfl, inRight⟩)
  · cases x with
    | nil =>
        obtain ⟨rfl, rfl⟩ := List.cons.inj behind
        exact Or.inr (Or.inl ⟨(List.append_nil q).symm, rfl, rfl⟩)
    | cons first y =>
        obtain ⟨rfl, -⟩ := List.cons.inj behind
        exact Or.inl ⟨y, rfl⟩

/-- **Where the tokens leave a form, the error is the one for what is due there**, if everything in
front can be read. -/
theorem operand_of_due {expr : Expr} {p behind : List Token} {token : Token} (h : Form expr p)
    (split : p = q ++ token :: behind) (fits : expr.nesting ≤ levels) (admits : due.Admits token)
    (quiet : Quiet q) (stuck : Stuck levels q rest) :
    (operand levels (q ++ rest)).result = .error (due.error rest.head?) := by
  induction h generalizing levels q behind with
  | number value =>
      obtain ⟨rfl, rfl, rfl⟩ : q = [] ∧ token = .number value ∧ behind = [] := by
        cases q <;> simp_all
      obtain rfl : due = .operand := Due.eq_of_admits admits trivial
      exact operand_of_stuck stuck
  | @name text valid =>
      obtain ⟨rfl, rfl, rfl⟩ : q = [] ∧ token = .word text ∧ behind = [] := by
        cases q <;> simp_all
      obtain rfl : due = .operand := Due.eq_of_admits admits valid
      exact operand_of_stuck stuck
  | @operation op left right mark ls rs hl ho hr ihl ihr =>
      cases q with
      | nil =>
          obtain ⟨rfl, -⟩ := List.cons.inj split
          obtain rfl : due = .operand := Due.eq_of_admits admits rfl
          exact operand_of_stuck stuck
      | cons opening q =>
          obtain ⟨rfl, inside⟩ := List.cons.inj split
          obtain ⟨levels, rfl, leftFits, rightFits⟩ := Expr.nesting_operation_le_iff.mp fits
          replace quiet : Quiet q := Quiet.of_append_right [.symbol '('] quiet
          rcases append_cons_cases inside with
            ⟨c, inLeft⟩ | ⟨rfl, rfl, -⟩ | ⟨y, rfl, behindOperator⟩
          · -- within the left side
            apply operand_of_left_error
            apply ihl inLeft leftFits quiet
            intro next others same begins
            exact stuck next others same begins.asLeft
          · -- at the operator
            obtain rfl : due = .operator := Due.eq_of_admits admits ⟨op, ho⟩
            apply operand_of_operator_error hl (hl.targets_of_quiet quiet) leftFits
            apply operator_of_stuck
            intro next others same op' ho'
            have begins := (begins_nil levels).asRight hl leftFits ho'
            exact stuck next others same begins
          · have leftTargets := hl.targets_of_quiet quiet.of_append_left
            replace quiet : Quiet y := Quiet.of_append_right [mark] (quiet.of_append_right ls)
            simp only [List.cons_append, List.append_assoc]
            rcases append_cons_cases behindOperator with
              ⟨c, inRight⟩ | ⟨rfl, rfl, -⟩ | ⟨z, -, beyond⟩
            · -- within the right side
              apply operand_of_right_error hl leftTargets leftFits ho
              apply ihr inRight rightFits quiet
              intro next others same begins
              apply stuck next others same
              simpa using begins.asRight hl leftFits ho
            · -- at the closing bracket
              obtain rfl : due = .closing := Due.eq_of_admits admits rfl
              apply operand_of_close_error hl leftTargets leftFits ho hr
                (hr.targets_of_quiet quiet) rightFits
              apply close_of_stuck
              intro others same
              apply stuck _ others same
              exact ⟨[], .operation op left right, by simpa using hl.operation ho hr, fits⟩
            · exact absurd beyond (by simp)

/-- At most one thing is due behind tokens that can be read. -/
theorem due_eq_of_after {due' : Due} (quiet : Quiet q) (h : due.After levels q)
    (h' : due'.After levels q) : due = due' := by
  -- a token that is never right tells the three errors apart
  have never : ∀ d : Due, ¬ d.Admits (.word "") := by
    intro d admits
    cases d with
    | operand => exact absurd (show Name.isValid "" = true from admits) (by decide)
    | operator =>
        obtain ⟨op, form⟩ := admits
        have := operator?_eq_some_iff.mpr form
        exact absurd this (by simp [operator?, operatorChar?])
    | closing => exact absurd (show Token.word "" = .symbol ')' from admits) (by simp)
  have stuck : Stuck levels q [.word ""] := by
    intro token behind same
    obtain ⟨rfl, -⟩ := List.cons.inj same
    exact not_begins_of_not_admits never
  have run : ∀ d : Due, d.After levels q →
      (operand levels (q ++ [.word ""])).result = .error (d.error (some (.word ""))) := by
    rintro d ⟨token, admits, behind, expr, form, fits⟩
    have split : q ++ [token] ++ behind = q ++ token :: behind := List.append_assoc ..
    exact operand_of_due form split fits admits quiet stuck
  have same := Except.error.inj ((run due h).symm.trans (run due' h'))
  revert same
  cases due <;> cases due' <;> simp [Due.error]

/-! ## Whole token lists -/

theorem IsFault.stuck {tokens : List Token} {n : Nat} (h : IsFault levels tokens n) :
    Stuck levels (tokens.take n) (tokens.drop n) := by
  intro token behind same
  rcases h.2.2 with rfl | leaves
  · exact absurd same (by simp)
  · have at? : tokens[n]? = some token := by rw [← List.head?_drop, same, List.head?_cons]
    rw [List.take_add_one, at?] at leaves
    exact leaves

/-- The first rejected bracket of a beginning is the error, whatever is behind. -/
theorem expression_of_rejectsFirst {target : Expr} (begins : Begins maxDepth q)
    (first : RejectsFirst target q) (rest : List Token) :
    (expression (q ++ rest)).result = .error (.invalidAssignmentTarget target) := by
  obtain ⟨r, ⟨between, rfl⟩, rejects, earliest⟩ := first
  obtain ⟨behind, expr, form, fits⟩ := begins
  have quiet : Quiet r.dropLast := by
    intro q' within target' rejects'
    have back := earliest q' ((within.trans (List.dropLast_prefix r)).trans
      (List.prefix_append r between)) target' rejects'
    have shorter := within.length_le
    have longer := back.length_le
    have some := List.length_pos_of_mem rejects.bracket_mem
    rw [List.length_dropLast] at shorter
    omega
  rw [List.append_assoc]
  exact expression_eq_error
    (operand_of_rejects form (List.append_assoc ..) fits rejects quiet (between ++ rest))

/-- **An error names the first point at which the tokens leave the grammar.**  Where no beginning of
the tokens is a sentence there is exactly one fault.  If no bracket in front of the fault is rejected
then exactly one thing is due there, and the error is the one for that and for the token that stands
there.  If some bracket of a beginning is rejected, the error names the first such target.  And a
sentence without one is accepted. -/
theorem expression_error_at_fault (tokens : List Token) :
    ((∀ q, q <+: tokens → ¬ Sentence maxDepth q) → ∃! n, IsFault maxDepth tokens n)
    ∧ (∀ n, IsFault maxDepth tokens n → Quiet (tokens.take n) → ∃ due : Due,
        (∀ due' : Due, due'.After maxDepth (tokens.take n) ↔ due' = due)
          ∧ (expression tokens).result = .error (due.error tokens[n]?))
    ∧ (∀ q, q <+: tokens → Begins maxDepth q → ¬ Quiet q →
        ∃ target, RejectsFirst target q
          ∧ (expression tokens).result = .error (.invalidAssignmentTarget target))
    ∧ (∀ q, q <+: tokens → Sentence maxDepth q → Quiet q →
        ∃ expr, Form expr q ∧ (expression tokens).result = .ok expr) := by
  refine ⟨?_, ?_, ?_, ?_⟩
  · intro none
    obtain ⟨n, fault⟩ := exists_isFault none
    refine ⟨n, fault, ?_⟩
    intro m other
    exact Nat.le_antisymm (fault.le other) (other.le fault)
  · intro n fault quiet
    obtain ⟨due, token, admits, behind, expr, form, fits⟩ := fault.2.1.exists_due
    have split : tokens.take n ++ [token] ++ behind = tokens.take n ++ token :: behind :=
      List.append_assoc ..
    refine ⟨due, ?_, ?_⟩
    · intro due'
      constructor
      · intro after
        exact due_eq_of_after quiet after ⟨token, admits, behind, expr, form, fits⟩
      · rintro rfl
        exact ⟨token, admits, behind, expr, form, fits⟩
    · have failed := operand_of_due form split fits admits quiet fault.stuck
      rw [List.take_append_drop, List.head?_drop] at failed
      exact expression_eq_error failed
  · rintro q ⟨rest, rfl⟩ begins loud
    obtain ⟨target, first⟩ := exists_rejectsFirst loud
    exact ⟨target, first, expression_of_rejectsFirst begins first rest⟩
  · rintro q ⟨rest, rfl⟩ ⟨expr, form, fits⟩ quiet
    refine ⟨expr, form, ?_⟩
    rw [expression_of_form form rest (form.targets_of_quiet quiet) fits]

end Calculator.Parse
