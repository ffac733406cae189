/-
# Calculator.Proofs.Expr.Shape — what an expression has to look like to be typed or evaluated

Nothing in the type of expressions keeps a number from being on the left of an assignment, or a name
from being a text that no one could type.  The predicates here say which expressions are free of
that: `TargetsAreNames` is what evaluation asks for, `Writable` is what the source text asks for, and
`Readable` is what a text can give.  All of them can be decided.  How deep an expression is and how long
its names are is bounded apart from that.
-/

import Calculator.Expr

namespace Calculator.Expr

/-! ## Targets of assignments -/

/-- Every assignment in the expression has a variable on its left. -/
def TargetsAreNames : Expr → Prop
  | number _ => True
  | name _ => True
  | operation operator left right =>
    (operator = .assign → left.isName = true) ∧ left.TargetsAreNames ∧ right.TargetsAreNames

instance decidableTargetsAreNames : (expr : Expr) → Decidable expr.TargetsAreNames
  | number _ => isTrue trivial
  | name _ => isTrue trivial
  | operation operator left right =>
    have := decidableTargetsAreNames left
    have := decidableTargetsAreNames right
    inferInstanceAs (Decidable ((operator = .assign → left.isName = true) ∧ _ ∧ _))

/-- An expression that counts as a variable is one. -/
theorem exists_of_isName {expr : Expr} (h : expr.isName = true) : ∃ n, expr = name n := by
  cases expr with
  | number value => exact absurd h Bool.false_ne_true
  | name n => exact ⟨n, rfl⟩
  | operation operator left right => exact absurd h Bool.false_ne_true

/-! ## Levels of brackets -/

/-- An operation fits into some levels if one of them is left for its bracket and both sides fit into
the others. -/
theorem nesting_operation_le_iff {op : Operator} {left right : Expr} {levels : Nat} :
    (operation op left right).nesting ≤ levels
      ↔ ∃ free, levels = free + 1 ∧ left.nesting ≤ free ∧ right.nesting ≤ free := by
  constructor
  · intro fits
    cases levels with
    | zero => exact absurd fits (Nat.not_succ_le_zero _)
    | succ free => exact ⟨free, rfl, Nat.max_le.mp (Nat.le_of_succ_le_succ fits)⟩
  · rintro ⟨free, rfl, both⟩
    exact Nat.succ_le_succ (Nat.max_le.mpr both)

/-! ## Leaves that can be typed -/

/-- Every name is a run of letters, and every number is as asked. -/
def Leaves (asked : Float → Prop) : Expr → Prop
  | number value => asked value
  | name n => Name.isValid n.text = true
  | operation _ left right => left.Leaves asked ∧ right.Leaves asked

instance decidableLeaves {asked : Float → Prop} [DecidablePred asked] :
    (expr : Expr) → Decidable (expr.Leaves asked)
  | number _ => inferInstanceAs (Decidable (asked _))
  | name _ => inferInstanceAs (Decidable (_ = _))
  | operation _ left right =>
    have : Decidable (left.Leaves asked) := decidableLeaves left
    have : Decidable (right.Leaves asked) := decidableLeaves right
    inferInstanceAs (Decidable (_ ∧ _))

theorem number_mem_tokens_operation {op : Operator} {left right : Expr} {value : Float} :
    .number value ∈ (operation op left right).tokens
      ↔ .number value ∈ left.tokens ∨ .number value ∈ right.tokens := by
  simp [tokens]

/-- What is asked of the numbers holds of every number among the tokens. -/
theorem Leaves.of_number_mem_tokens {asked : Float → Prop} {expr : Expr} (h : expr.Leaves asked)
    {value : Float} (mem : .number value ∈ expr.tokens) : asked value := by
  induction expr with
  | number v =>
      obtain rfl : value = v := Token.number.inj (List.mem_singleton.mp mem)
      exact h
  | name n => exact absurd mem (by simp [tokens])
  | operation op left right ihl ihr =>
      rcases number_mem_tokens_operation.mp mem with inLeft | inRight
      · exact ihl h.1 inLeft
      · exact ihr h.2 inRight

/-- The numbers that can be typed and shown as literals: finite ones without a sign. -/
def Writable (expr : Expr) : Prop :=
  expr.Leaves fun value =>
    Binary64.isNegative value = false ∧ Binary64.magnitude value < Binary64.infinity

instance (expr : Expr) : Decidable expr.Writable := decidableLeaves expr

/-- The numbers that a literal can stand for: those without a sign, infinity among them. -/
def Readable (expr : Expr) : Prop :=
  expr.Leaves fun value =>
    Binary64.isNegative value = false ∧ Binary64.magnitude value ≤ Binary64.infinity

instance (expr : Expr) : Decidable expr.Readable := decidableLeaves expr

/-! ## Lengths of names -/

/-- Every name has at most so many characters. -/
def NamesWithin (limit : Nat) : Expr → Prop
  | number _ => True
  | name n => n.text.length ≤ limit
  | operation _ left right => left.NamesWithin limit ∧ right.NamesWithin limit

theorem NamesWithin.mono {limit wider : Nat} {expr : Expr} (h : expr.NamesWithin limit)
    (le : limit ≤ wider) : expr.NamesWithin wider := by
  induction expr with
  | number value => trivial
  | name n => exact Nat.le_trans h le
  | operation op left right ihl ihr => exact ⟨ihl h.1, ihr h.2⟩

end Calculator.Expr
