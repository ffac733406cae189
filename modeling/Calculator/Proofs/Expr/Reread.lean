/-
# Calculator.Proofs.Expr.Reread — what becomes of an expression that is read, written and read again

Everything that a text gives can be written, with one exception.  A literal beyond the range of the
floats is read as infinity, infinity is written `inf`, and `inf` is a word.  So the expression that is
read again has a variable of that name wherever the first one had an infinite number, and is the same
in every other place: it is `named`.

The two expressions have the same source text, so what `Calculator.Proofs.Expr.Source` says of the
second one is all that is needed.
-/

import Calculator.Proofs.Expr.Source

namespace Calculator

/-! ## Expressions that were read -/

/-- What holds of all numbers among the tokens holds of the numbers of the expression. -/
theorem Parse.Form.leaves {asked : Float → Prop} {expr : Expr} {p : List Token}
    (form : Parse.Form expr p) (all : ∀ value, .number value ∈ p → asked value) :
    expr.Leaves asked := by
  induction form with
  | number value => exact all value List.mem_cons_self
  | name valid => exact valid
  | operation hl ho hr ihl ihr =>
      constructor
      · apply ihl
        intro value mem
        exact all value (by simp [mem])
      · apply ihr
        intro value mem
        exact all value (by simp [mem])

/-- An expression that was read has numbers that literals can stand for, variables on the left of its
assignments, and brackets that are not too deep. -/
theorem Separators.readable_of_parse {separators : Separators} {text : String} {expr : Expr}
    (h : (separators.parse text).result = .ok expr) :
    expr.Readable ∧ expr.TargetsAreNames ∧ expr.nesting ≤ Parse.maxDepth := by
  obtain ⟨p, rest, split, form, targets, fits⟩ := Parse.form_of_expression h
  refine ⟨form.leaves ?_, targets, fits⟩
  intro value mem
  have scanned : .number value ∈ separators.tokens text := split ▸ List.mem_append_left rest mem
  obtain ⟨run, literal⟩ := Separators.value?_of_number_mem_tokens scanned
  exact Binary64.value?_bounds literal

namespace Expr

/-! ## The name of infinity -/

/-- The expression with the variable `inf` in place of every infinite number. -/
def named : Expr → Expr
  | number value =>
    if Binary64.magnitude value = Binary64.infinity then name ⟨"inf"⟩ else number value
  | name n => name n
  | operation operator left right => operation operator left.named right.named

variable {expr : Expr}

theorem writable_named (readable : expr.Readable) : expr.named.Writable := by
  induction expr with
  | number value =>
      unfold named
      split
      · show Name.isValid "inf" = true
        decide
      · rename_i finite
        exact ⟨readable.1, Nat.lt_of_le_of_ne readable.2 finite⟩
  | name n => exact readable
  | operation op left right ihl ihr => exact ⟨ihl readable.1, ihr readable.2⟩

/-- The name shows like the number. -/
theorem source_named (readable : expr.Readable) : expr.named.source = expr.source := by
  induction expr with
  | number value =>
      unfold named
      split
      · rename_i infinite
        rw [source, source, Binary64.text, Binary64.chars_of_infinity readable.1 infinite]
      · rfl
  | name n => rfl
  | operation op left right ihl ihr => rw [named, source, ihl readable.1, ihr readable.2, source]

theorem nesting_named (expr : Expr) : expr.named.nesting = expr.nesting := by
  induction expr with
  | number value =>
      unfold named
      split <;> rfl
  | name n => rfl
  | operation op left right ihl ihr => rw [named, nesting, ihl, ihr, nesting]

theorem targetsAreNames_named (targets : expr.TargetsAreNames) : expr.named.TargetsAreNames := by
  induction expr with
  | number value =>
      unfold named
      split <;> exact trivial
  | name n => exact trivial
  | operation op left right ihl ihr =>
      refine ⟨?_, ihl targets.2.1, ihr targets.2.2⟩
      intro assigns
      -- a variable on the left stays the variable it is
      obtain ⟨n, rfl⟩ := exists_of_isName (targets.1 assigns)
      rfl

/-! ## Expressions without infinite numbers -/

/-- No number of the expression is infinite. -/
def AllFinite (expr : Expr) : Prop :=
  ∀ value, .number value ∈ expr.tokens → Binary64.magnitude value ≠ Binary64.infinity

/-- Without an infinite number there is nothing to replace. -/
theorem named_eq_self (finite : expr.AllFinite) : expr.named = expr := by
  induction expr with
  | number value => rw [named, if_neg (finite value List.mem_cons_self)]
  | name n => rfl
  | operation op left right ihl ihr =>
      have leftFinite : left.AllFinite := by
        intro value mem
        exact finite value (number_mem_tokens_operation.mpr (.inl mem))
      have rightFinite : right.AllFinite := by
        intro value mem
        exact finite value (number_mem_tokens_operation.mpr (.inr mem))
      rw [named, ihl leftFinite, ihr rightFinite]

/-- An infinite number is not equal to the name in its place. -/
theorem allFinite_of_named_beq (same : (expr.named == expr) = true) : expr.AllFinite := by
  induction expr with
  | number v =>
      intro value mem infinite
      obtain rfl : value = v := Token.number.inj (List.mem_singleton.mp mem)
      rw [named, if_pos infinite] at same
      exact Bool.false_ne_true same
  | name n =>
      intro value mem
      exact absurd mem (by simp [tokens])
  | operation op left right ihl ihr =>
      intro value mem
      change (op == op && equal left.named left && equal right.named right) = true at same
      rw [Bool.and_eq_true, Bool.and_eq_true] at same
      rcases number_mem_tokens_operation.mp mem with inLeft | inRight
      · exact ihl same.1.2 value inLeft
      · exact ihr same.2 value inRight

/-- Comparing numbers as numbers, an expression that was read equals itself. -/
theorem beq_self_of_readable (readable : expr.Readable) : (expr == expr) = true := by
  induction expr with
  | number value => exact Binary64.beq_self readable.2
  | name n => exact beq_self_eq_true n
  | operation op left right ihl ihr =>
      show (op == op && equal left left && equal right right) = true
      rw [beq_self_eq_true, show equal left left = true from ihl readable.1,
        show equal right right = true from ihr readable.2]
      rfl

/-! ## Reading again -/

/-- **An expression that was read is written and read again up to its infinite numbers.**  What is
read again is the expression with names for them, and both the tokens of the source text and the
expression that is read again are the expected ones exactly when there is no such number. -/
theorem reread_iff_allFinite {text : String}
    (read : (Separators.standard.parse text).result = .ok expr) :
    (Separators.standard.parse expr.source).result = .ok expr.named
    ∧ (Separators.standard.tokens expr.source = expr.tokens ↔ expr.AllFinite)
    ∧ ((∃ again, (Separators.standard.parse expr.source).result = .ok again
        ∧ (again == expr) = true) ↔ expr.AllFinite) := by
  obtain ⟨readable, targets, fits⟩ := Separators.readable_of_parse read
  have writable := writable_named readable
  have again : (Separators.standard.parse expr.source).result = .ok expr.named := by
    rw [← source_named readable, parse_source Separators.usable_standard writable
      (targetsAreNames_named targets) (nesting_named expr ▸ fits)]
  have tokens : Separators.standard.tokens expr.source = expr.named.tokens := by
    rw [← source_named readable, tokens_source Separators.usable_standard writable,
      map_arrive_standard]
  refine ⟨again, ?_, ?_⟩
  · constructor
    · -- the tokens of the source text are those of an expression that can be written
      intro same value mem
      rw [← same, tokens] at mem
      exact Nat.ne_of_lt (writable.of_number_mem_tokens mem).2
    · intro finite
      rw [tokens, named_eq_self finite]
  · constructor
    · rintro ⟨other, otherRead, same⟩
      obtain rfl : expr.named = other := Except.ok.inj (again.symm.trans otherRead)
      exact allFinite_of_named_beq same
    · intro finite
      refine ⟨expr.named, again, ?_⟩
      rw [named_eq_self finite]
      exact beq_self_of_readable readable

/-- A number with a point in front is written with a digit there, and is the same number again. -/
theorem reread_point :
    (Separators.standard.parse "(.5 * x)").result
        = .ok (.operation (.arithmetic .mul) (.number (Float.ofBits 0x3FE0000000000000)) (.name ⟨"x"⟩))
      ∧ (Separators.standard.parse "(0.5 * x)").result
        = .ok (.operation (.arithmetic .mul) (.number (Float.ofBits 0x3FE0000000000000)) (.name ⟨"x"⟩)) := by
  have read : (Separators.standard.parse "(.5 * x)").result
      = .ok (.operation (.arithmetic .mul) (.number (Float.ofBits 0x3FE0000000000000)) (.name ⟨"x"⟩)) := by
    decide +kernel
  exact ⟨read, (reread_iff_allFinite read).1⟩

/-- A literal beyond the range of the floats is not read again as what it was. -/
theorem overflow_not_reread :
    ∃ expr, (Separators.standard.parse "1e999").result = .ok expr
      ∧ Separators.standard.tokens expr.source ≠ expr.tokens
      ∧ ∀ again, (Separators.standard.parse expr.source).result = .ok again →
          (again == expr) = false := by
  refine ⟨.number (Float.ofBits 0x7FF0000000000000), by decide +kernel, by decide +kernel, ?_⟩
  have read : (Separators.standard.parse (source (.number (Float.ofBits 0x7FF0000000000000)))).result
      = .ok (.name ⟨"inf"⟩) := by decide +kernel
  intro again other
  obtain rfl : Expr.name ⟨"inf"⟩ = again := Except.ok.inj (read.symm.trans other)
  rfl

end Expr

end Calculator
