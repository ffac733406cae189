/-
# Calculator.Proofs.Random.Expr — everything that is drawn can be typed

A drawn expression is a test input, so it is worth something only if it is one that a person could
have typed.  `Drawn` says what that takes, in terms of the size it was drawn with, and `always_drawn`
shows it for every source.  The induction is on the size, by the cases in which `expr` calls itself: a
leaf has no brackets, and an operator puts one bracket around two expressions of the next smaller size.

Brackets are what limits the rest.  The parser opens no more than `Parse.maxDepth` of them and an
expression of some size has one bracket less than that, so up to size `257` all that is drawn is read
back.  Its tokens are read back at every size.  The bound is exact: `tooDeep_steady` has an expression
of each larger size that the parser rejects.
-/

import Calculator.Random.Expr
import Calculator.Random.Xoshiro
import Calculator.Proofs.Evaluate.Total
import Calculator.Proofs.Expr.Source
import Calculator.Proofs.Number.Finite
import Calculator.Proofs.Random.Draw

namespace Calculator.Random

variable {σ : Type} [WordSource σ]

/-! ## Names and operators -/

theorem isAlpha_of_mem_letters : ∀ c ∈ letters, c.isAlpha = true :=
  List.all_eq_true.mp (by decide)

theorem letter_isAlpha : Always (·.isAlpha = true) (letter : Draw σ Char) := by
  refine Always.bind (pick_lt (by decide)) ?_
  intro index inside
  refine Always.pure (isAlpha_of_mem_letters _ ?_)
  rw [List.getD_eq_getElem _ _ inside]
  exact List.getElem_mem inside

theorem lettersOf_spec (count : Nat) :
    Always (fun cs => cs.length = count ∧ ∀ c ∈ cs, c.isAlpha = true)
      (lettersOf count : Draw σ (List Char)) := by
  induction count with
  | zero => exact Always.pure ⟨rfl, List.forall_mem_nil _⟩
  | succ count ih =>
      refine Always.bind letter_isAlpha ?_
      intro first firstAlpha
      refine Always.bind ih ?_
      rintro rest ⟨length, restAlpha⟩
      exact Always.pure ⟨congrArg (· + 1) length, List.forall_mem_cons.mpr ⟨firstAlpha, restAlpha⟩⟩

/-- A name is a run of at least one and at most `size` letters, of one letter if `size` is zero. -/
theorem name_spec (size : Nat) :
    Always (fun n => Name.isValid n.text = true ∧ n.text.length ≤ max size 1)
      (name size : Draw σ Name) := by
  refine Always.bind (pick_lt (by omega)) ?_
  intro more inside
  refine Always.bind (lettersOf_spec (1 + more)) ?_
  rintro cs ⟨length, alpha⟩
  refine Always.pure ⟨Name.isValid_iff.mpr ?_, ?_⟩
  · rw [String.toList_ofList]
    exact ⟨List.ne_nil_of_length_pos (by omega), alpha⟩
  · show (String.ofList cs).length ≤ max size 1
    rw [String.length_ofList]
    omega

/-! ## Numbers -/

/-- A number has no sign and is finite: it is at most `2 ^ 16`. -/
theorem number_spec :
    Always (fun value => Binary64.isNegative value = false
        ∧ Binary64.magnitude value < Binary64.infinity) (number : Draw σ Float) := by
  refine Always.bind (choose_mem 1 [2, 4, 10, 1000]) ?_
  intro divisor mem
  refine Always.bind narrow_lt ?_
  intro whole small
  have pos : 0 < divisor := by
    have all : ∀ d ∈ [1, 2, 4, 10, 1000], 0 < d := by decide
    exact all divisor mem
  have bounded := Binary64.nearest_le whole divisor
  refine Always.pure ⟨Binary64.isNegative_ofMagnitude bounded, ?_⟩
  rw [Binary64.ofRatio, Binary64.magnitude_ofMagnitude bounded]
  apply Binary64.nearest_lt_infinity pos
  calc Binary64.value (whole, divisor)
      ≤ whole := div_le_self (Nat.cast_nonneg whole) (by exact_mod_cast pos)
    _ < 2 ^ (16 : ℤ) := by exact_mod_cast small
    _ < 2 ^ (1023 : ℤ) := zpow_lt_zpow_right₀ one_lt_two (by decide)

/-! ## Expressions -/

/-- What an expression drawn with a size looks like. -/
structure Drawn (size : Nat) (expr : Expr) : Prop where
  writable : expr.Writable
  names : expr.NamesWithin (max size 1)
  targets : expr.TargetsAreNames
  nesting : expr.nesting ≤ size - 1

theorem Drawn.mono {size larger : Nat} {expr : Expr} (h : Drawn size expr) (le : size ≤ larger) :
    Drawn larger expr where
  writable := h.writable
  names := h.names.mono (by omega)
  targets := h.targets
  nesting := Nat.le_trans h.nesting (Nat.sub_le_sub_right le 1)

theorem name_drawn (size : Nat) : Always (fun n => Drawn size (.name n)) (name size : Draw σ Name) :=
  (name_spec size).mono fun _ spec => ⟨spec.1, spec.2, trivial, Nat.zero_le _⟩

theorem leaf_drawn (size : Nat) : Always (Drawn size) (leaf size : Draw σ Expr) := by
  refine Always.bind (Always.trivial (pick 2)) ?_
  intro coin _
  refine Always.ite ?_ ?_
  · intro _
    refine Always.bind number_spec ?_
    intro value spec
    exact Always.pure ⟨spec, trivial, trivial, Nat.zero_le _⟩
  · intro _
    refine Always.bind (name_drawn size) ?_
    intro n drawn
    exact Always.pure drawn

/-- The left side is as `operand` has it, and it is a variable where something is assigned to it. -/
theorem leftSide_drawn (op : Operator) {size : Nat} {operand : Draw σ Expr}
    (drawn : Always (Drawn size) operand) :
    Always (fun left => Drawn size left ∧ (op = .assign → left.isName = true))
      (leftSide op size operand) := by
  refine Always.ite ?_ ?_
  · intro _
    refine Always.bind (name_drawn size) ?_
    intro n nameDrawn
    exact Always.pure ⟨nameDrawn, fun _ => rfl⟩
  · intro notAssign
    exact drawn.mono fun left leftDrawn => ⟨leftDrawn, fun assign => absurd assign notAssign⟩

/-- An operator takes one level for its bracket, which is what one more in size allows. -/
theorem Drawn.operation {size : Nat} {op : Operator} {left right : Expr}
    (onLeft : Drawn (size + 1) left) (target : op = .assign → left.isName = true)
    (onRight : Drawn (size + 1) right) : Drawn (size + 2) (.operation op left right) where
  writable := ⟨onLeft.writable, onRight.writable⟩
  names := ⟨onLeft.names.mono (by omega), onRight.names.mono (by omega)⟩
  targets := ⟨target, onLeft.targets, onRight.targets⟩
  nesting := Expr.nesting_operation_le_iff.mpr ⟨size, by omega, onLeft.nesting, onRight.nesting⟩

theorem always_drawn (size : Nat) : Always (Drawn size) (expr size : Draw σ Expr) := by
  induction size using expr.induct with
  | case1 => exact leaf_drawn 0
  | case2 => exact (leaf_drawn 0).mono fun _ drawn => drawn.mono (Nat.zero_le 1)
  | case3 size ih =>
      refine Always.bind (Always.trivial (pick 2)) ?_
      intro coin _
      refine Always.ite ?_ ?_
      · intro _
        exact (leaf_drawn (size + 1)).mono fun _ drawn => drawn.mono (Nat.le_succ _)
      · intro _
        refine Always.bind (Always.trivial operator) ?_
        intro op _
        refine Always.bind (leftSide_drawn op ih) ?_
        rintro left ⟨leftDrawn, target⟩
        refine Always.bind ih ?_
        intro right rightDrawn
        exact Always.pure (leftDrawn.operation target rightDrawn)

/-- **Everything that is drawn can be typed**: all its names are runs of letters no longer than the size
allows, all its numbers are finite and without a sign, only variables are assigned to, and there is
one bracket less than the size on any way down.  So scanning the source text gives the tokens of the
expression; and up to size `257`, where the brackets meet the limit of the parser, parsing them gives
the expression and the source text has a value in every environment. -/
theorem expr_reads_back (size : Nat) :
    Always (fun drawn =>
      (drawn.Writable ∧ drawn.NamesWithin (max 1 size) ∧ drawn.TargetsAreNames
        ∧ drawn.nesting ≤ max size 1 - 1)
      ∧ Separators.standard.tokens drawn.source = drawn.tokens
      ∧ (size ≤ 257 → (Parse.expression drawn.tokens).result = .ok drawn
        ∧ ∀ env, ∃ value after, interpret drawn.source env = (.ok value, after)))
      (expr size : Draw σ Expr) := by
  refine (always_drawn size).mono ?_
  rintro drawn ⟨writable, names, targets, nesting⟩
  have scanned : Separators.standard.tokens drawn.source = drawn.tokens := by
    rw [Expr.tokens_source Separators.usable_standard writable, Expr.map_arrive_standard]
  refine ⟨⟨writable, Nat.max_comm size 1 ▸ names, targets, by omega⟩, scanned, ?_⟩
  intro small
  have fits : drawn.nesting ≤ Parse.maxDepth := by
    unfold Parse.maxDepth
    omega
  have parsed : (Separators.standard.parse drawn.source).result = .ok drawn := by
    rw [Expr.parse_source Separators.usable_standard writable targets fits]
  constructor
  · rw [← scanned]
    exact parsed
  · intro env
    exact Separators.standard.interpret_of_parse drawn.source env parsed

/-- `(g / (q = p))` is drawn with size `3`, as deep as that allows. -/
theorem expr_reads_back_quotient :
    (expr 3 (Xoshiro.ofSeed (List.replicate 32 1))).1.source = "(g / (q = p))"
      ∧ (Parse.expression (Separators.standard.tokens "(g / (q = p))")).result
        = .ok (.operation (.arithmetic .div) (.name ⟨"g"⟩)
          (.operation .assign (.name ⟨"q"⟩) (.name ⟨"p"⟩)))
      ∧ ∀ env, ∃ value after, interpret "(g / (q = p))" env = (.ok value, after) := by
  have drawn : (expr 3 (Xoshiro.ofSeed (List.replicate 32 1))).1
      = .operation (.arithmetic .div) (.name ⟨"g"⟩)
        (.operation .assign (.name ⟨"q"⟩) (.name ⟨"p"⟩)) := by
    decide +kernel
  have text : (expr 3 (Xoshiro.ofSeed (List.replicate 32 1))).1.source = "(g / (q = p))" := by
    rw [drawn]
    rfl
  obtain ⟨-, tokens, within⟩ := expr_reads_back 3 (Xoshiro.ofSeed (List.replicate 32 1))
  obtain ⟨parsed, value⟩ := within (by decide)
  rw [text] at tokens value
  rw [← tokens, drawn] at parsed
  exact ⟨text, parsed, value⟩

/-! ## As deep as the size allows -/

/-- A source that always delivers the same word.  An expression drawn from it has an operator wherever
its size has room for one. -/
structure Steady where

instance : WordSource Steady where
  next source := (0x2000000000000001, source)

theorem wide_steady (source : Steady) :
    ((wide : Draw Steady Nat) source).1 = 0x2000000000000001 := by
  cases source
  decide +kernel

theorem pick_steady (bound : Nat) (source : Steady) :
    ((pick bound : Draw Steady Nat) source).1 = 0x2000000000000001 % bound := by
  rw [← wide_steady source]
  rfl

theorem expr_steady (size : Nat) (source : Steady) :
    (expr (size + 2) source).1
      = .operation (.arithmetic .div) (expr (size + 1) source).1 (expr (size + 1) source).1 := by
  -- a source has only one state, so the state behind a draw is the state in front of it
  have coin : (pick 2 : Draw Steady Nat) source = (1, source) := Prod.ext (pick_steady 2 source) rfl
  have op : (operator : Draw Steady Operator) source = (.arithmetic .div, source) := by
    refine Prod.ext ?_ rfl
    show Operator.all.getD ((pick 7 : Draw Steady Nat) source).1 .assign = .arithmetic .div
    rw [pick_steady]
    rfl
  simp only [expr, bind, StateT.bind, coin]
  rw [if_neg Nat.one_ne_zero, StateT.bind, op]
  rfl

theorem nesting_steady (size : Nat) (source : Steady) :
    (expr (size + 1) source).1.nesting = size := by
  induction size with
  | zero =>
      cases source
      decide +kernel
  | succ size ih => rw [expr_steady, Expr.nesting, ih, Nat.max_self]

/-- **Beyond size `257` not everything that is drawn is read back.**  At any such size there is an
expression that can be drawn and is too deep for the parser. -/
theorem tooDeep_steady {size : Nat} (large : 257 < size) (source : Steady) :
    (Separators.standard.parse (expr size source).1.source).result
      = .error (.tooDeep Parse.maxDepth) := by
  obtain ⟨writable, -, targets, -⟩ := always_drawn size source
  apply Expr.parse_source_tooDeep Separators.usable_standard writable targets
  obtain ⟨below, rfl⟩ := Nat.exists_eq_add_of_lt large
  rw [nesting_steady]
  unfold Parse.maxDepth
  omega

end Calculator.Random
