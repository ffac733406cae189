/-
# Calculator.Proofs.Expr.Source — the source text of an expression reads as the expression

The source text puts a blank on either side of an operator and a bracket around the whole, so every
leaf and every operator in it stands between two characters that end a run.  What is left is to know
the tokens of these pieces (`pieces_number`, `pieces_name`, `pieces_operator`).  An operator that is no
separator arrives as a word, which the parser takes for the same operator: that is what `arrive`
records, and why the tokens of the text are a form of the expression under any usable separators.

Separators are usable when they have both brackets and nothing that a leaf is written with.
-/

import Calculator.Interpret
import Calculator.Proofs.Number.ReadBack
import Calculator.Proofs.Parse.Accept
import Calculator.Proofs.Token.Split
import Mathlib

namespace Calculator

/-! ## Usable separators -/

/-- Separators under which an expression can be typed: both brackets separate, and no character of a
name or of a number does. -/
structure Separators.Usable (separators : Separators) : Prop where
  opening : '(' ∈ separators
  closing : ')' ∈ separators
  letters : ∀ c ∈ separators, c.isAlpha = false
  digits : ∀ c ∈ separators, c.isDigit = false
  point : '.' ∉ separators

/-- How a token of an expression arrives when it is scanned: a symbol that does not separate is a
word of its character. -/
def Separators.arrive (separators : Separators) : Token → Token
  | .symbol c => if separators.contains c then .symbol c else .word (String.singleton c)
  | token => token

namespace Separators

/-- Usability is looked up character by character. -/
theorem usable_iff {separators : Separators} :
    separators.Usable ↔ '(' ∈ separators ∧ ')' ∈ separators ∧ '.' ∉ separators
      ∧ (separators.chars.all fun c => !c.isAlpha && !c.isDigit) = true := by
  constructor
  · intro usable
    refine ⟨usable.opening, usable.closing, usable.point, List.all_eq_true.mpr ?_⟩
    intro c mem
    rw [usable.letters c mem, usable.digits c mem]
    rfl
  · rintro ⟨opening, closing, point, others⟩
    have other : ∀ c ∈ separators, c.isAlpha = false ∧ c.isDigit = false := by
      intro c mem
      simpa using List.all_eq_true.mp others c mem
    refine ⟨opening, closing, ?_, ?_, point⟩
    · intro c mem
      exact (other c mem).1
    · intro c mem
      exact (other c mem).2

instance (separators : Separators) : Decidable separators.Usable :=
  decidable_of_iff _ usable_iff.symm

theorem usable_standard : standard.Usable := by decide

variable {separators : Separators} {c : Char}

theorem contains_eq_false_of_not_mem (h : c ∉ separators) : separators.contains c = false := by
  apply eq_false_of_ne_true
  intro found
  exact h (contains_iff.mp found)

theorem arrive_of_mem (h : c ∈ separators) : separators.arrive (.symbol c) = .symbol c := by
  rw [arrive, if_pos (contains_iff.mpr h)]

theorem arrive_of_not_mem (h : c ∉ separators) :
    separators.arrive (.symbol c) = .word (String.singleton c) := by
  rw [arrive, if_neg (ne_true_of_eq_false (contains_eq_false_of_not_mem h))]

/-! ## Characters of the leaves -/

theorem range_of_isAlpha (letter : c.isAlpha = true) :
    (65 ≤ c.toNat ∧ c.toNat ≤ 90) ∨ (97 ≤ c.toNat ∧ c.toNat ≤ 122) := by
  simpa [Char.isAlpha, Char.isUpper, Char.isLower, UInt32.le_iff_toNat_le] using letter

theorem range_of_isDigit (digit : c.isDigit = true) : 48 ≤ c.toNat ∧ c.toNat ≤ 57 := by
  simpa [Char.isDigit, UInt32.le_iff_toNat_le] using digit

theorem isDigit_eq_false_of_isAlpha (letter : c.isAlpha = true) : c.isDigit = false := by
  apply eq_false_of_ne_true
  intro digit
  have := range_of_isAlpha letter
  have := range_of_isDigit digit
  omega

theorem isPlain_of_visible (low : 0x21 ≤ c.toNat) (high : c.toNat ≤ 0x7E) (h : c ∉ separators) :
    separators.IsPlain c :=
  ⟨Text.isBlank_eq_false_of_visible low high, contains_eq_false_of_not_mem h⟩

theorem Usable.isPlain_of_isAlpha (usable : separators.Usable) (letter : c.isAlpha = true) :
    separators.IsPlain c := by
  have range := range_of_isAlpha letter
  apply isPlain_of_visible (by omega) (by omega)
  intro mem
  exact Bool.false_ne_true ((usable.letters c mem).symm.trans letter)

theorem isPlain_of_isDigit (digits : ∀ c ∈ separators, c.isDigit = false) (digit : c.isDigit = true) :
    separators.IsPlain c := by
  have range := range_of_isDigit digit
  apply isPlain_of_visible (by omega) (by omega)
  intro mem
  exact Bool.false_ne_true ((digits c mem).symm.trans digit)

theorem isPlain_point (point : '.' ∉ separators) : separators.IsPlain '.' :=
  isPlain_of_visible (by decide) (by decide) point

/-! ## Pieces of a source text -/

/-- A number stays in one piece where neither digits nor the point separate. -/
theorem pieces_number (digits : ∀ c ∈ separators, c.isDigit = false) (point : '.' ∉ separators)
    {value : Float} (sign : Binary64.isNegative value = false)
    (finite : Binary64.magnitude value < Binary64.infinity) :
    separators.pieces (Binary64.text value).toList = [.number value] := by
  have literal := Binary64.value?_chars_of_finite sign finite
  have decimal := Binary64.chars_of_finite sign finite
  have plain : ∀ c ∈ Binary64.chars value, separators.IsPlain c := by
    intro c mem
    rw [decimal] at mem
    rcases Decimal.isDigit_or_point_of_mem_chars mem with digit | rfl
    · exact isPlain_of_isDigit digits digit
    · exact isPlain_point point
  have some : Binary64.chars value ≠ [] := decimal ▸ Decimal.chars_ne_nil _
  rw [Binary64.text, String.toList_ofList, pieces_of_plain some plain, Token.ofRun, literal]

/-- A run that begins with neither a digit nor a point is a word. -/
theorem ofRun_cons {c : Char} (cs : List Char) (digit : c.isDigit = false) (point : c ≠ '.') :
    Token.ofRun (c :: cs) = .word (String.ofList (c :: cs)) := by
  rw [Token.ofRun, Literal.value?_cons_eq_none cs digit point]

theorem Usable.pieces_name (usable : separators.Usable) {text : String}
    (valid : Name.isValid text = true) : separators.pieces text.toList = [.word text] := by
  obtain ⟨some, letters⟩ := Name.isValid_iff.mp valid
  have plain : ∀ c ∈ text.toList, separators.IsPlain c := by
    intro c mem
    exact usable.isPlain_of_isAlpha (letters c mem)
  rw [pieces_of_plain some plain]
  -- the first letter is what keeps the run from being a number
  obtain ⟨c, cs, run⟩ := List.exists_cons_of_ne_nil some
  have letter : c.isAlpha = true := letters c (run ▸ List.mem_cons_self)
  have digit : c.isDigit = false := isDigit_eq_false_of_isAlpha letter
  have point : c ≠ '.' := by
    rintro rfl
    exact absurd letter (by decide)
  rw [run, ofRun_cons cs digit point, ← run, String.ofList_toList]

theorem pieces_operator (op : Operator) :
    separators.pieces [op.symbol] = [separators.arrive (.symbol op.symbol)] := by
  have visible : Text.isBlank op.symbol = false := by rcases op with ⟨⟨⟩⟩ | ⟨⟩ <;> decide
  by_cases separates : op.symbol ∈ separators
  · -- the operator is cut from nothing on either side
    have cut := pieces_append_separator visible (contains_iff.mpr separates) [] []
    rw [arrive_of_mem separates]
    exact cut
  · have plain : separators.IsPlain op.symbol :=
      ⟨visible, contains_eq_false_of_not_mem separates⟩
    have digit : op.symbol.isDigit = false := by rcases op with ⟨⟨⟩⟩ | ⟨⟩ <;> decide
    have point : op.symbol ≠ '.' := by rcases op with ⟨⟨⟩⟩ | ⟨⟩ <;> decide
    rw [arrive_of_not_mem separates, pieces_of_plain (List.cons_ne_nil _ _) (by simpa using plain),
      ofRun_cons [] digit point]
    rfl

/-- However an operator arrives, it is read as the operator. -/
theorem operatorForm_arrive (separators : Separators) (op : Operator) :
    Parse.OperatorForm op (separators.arrive (.symbol op.symbol)) := by
  by_cases separates : op.symbol ∈ separators
  · rw [arrive_of_mem separates]
    exact .symbol
  · rw [arrive_of_not_mem separates]
    exact .word

/-- A bracket around two texts with an operator between them is cut at both brackets and at the
blanks around the operator. -/
theorem Usable.pieces_bracket (usable : separators.Usable) (op : Operator) (ls rs : List Char) :
    separators.pieces ('(' :: (ls ++ ' ' :: op.symbol :: ' ' :: (rs ++ [')'])))
      = .symbol '(' :: (separators.pieces ls ++ separators.arrive (.symbol op.symbol) ::
          (separators.pieces rs ++ [.symbol ')'])) := by
  have blank : Text.isBlank ' ' = true := by decide
  have opening := pieces_append_separator (by decide) (contains_iff.mpr usable.opening) []
    (ls ++ ' ' :: op.symbol :: ' ' :: (rs ++ [')']))
  have closing := pieces_append_separator (by decide) (contains_iff.mpr usable.closing) rs []
  rw [List.nil_append, pieces_nil, List.nil_append] at opening
  have operator : separators.pieces _ = _ := pieces_append_blank blank [op.symbol] (rs ++ [')'])
  rw [pieces_operator, List.singleton_append, List.singleton_append] at operator
  rw [opening, pieces_append_blank blank, operator, closing, pieces_nil]

end Separators

namespace Expr

variable {separators : Separators}

theorem toList_source (op : Operator) (left right : Expr) :
    (source (.operation op left right)).toList
      = '(' :: (left.source.toList ++ ' ' :: op.symbol :: ' ' :: (right.source.toList ++ [')'])) := by
  simp [source]

/-- **The tokens of the source text are those of the expression**, but for operators that are no
separators, which arrive as words. -/
theorem tokens_source (usable : separators.Usable) {expr : Expr} (writable : expr.Writable) :
    separators.tokens expr.source = expr.tokens.map separators.arrive := by
  rw [Separators.tokens_eq_pieces]
  induction expr with
  | number value =>
      exact Separators.pieces_number usable.digits usable.point writable.1 writable.2
  | name n => exact usable.pieces_name writable
  | operation op left right ihl ihr =>
      -- both sides are scanned as if they stood alone
      rw [toList_source, usable.pieces_bracket, ihl writable.1, ihr writable.2]
      simp [tokens, Separators.arrive_of_mem usable.opening,
        Separators.arrive_of_mem usable.closing]

/-- Every operator is a separator of the standard set, so nothing arrives changed. -/
theorem map_arrive_standard (expr : Expr) :
    expr.tokens.map Separators.standard.arrive = expr.tokens := by
  induction expr with
  | number value => rfl
  | name n => rfl
  | operation op left right ihl ihr =>
      have operator : Separators.standard.arrive (.symbol op.symbol) = .symbol op.symbol :=
        Separators.arrive_of_mem (by rcases op with ⟨⟨⟩⟩ | ⟨⟩ <;> decide)
      have opening : Separators.standard.arrive (.symbol '(') = .symbol '(' := rfl
      have closing : Separators.standard.arrive (.symbol ')') = .symbol ')' := rfl
      simp [tokens, ihl, ihr, operator, opening, closing]

/-- What arrives is a form of the expression. -/
theorem form_arrive (usable : separators.Usable) {expr : Expr} {asked : Float → Prop}
    (leaves : expr.Leaves asked) : Parse.Form expr (expr.tokens.map separators.arrive) := by
  induction expr with
  | number value => exact .number value
  | name n => exact .name leaves
  | operation op left right ihl ihr =>
      have form := Parse.Form.operation (ihl leaves.1) (separators.operatorForm_arrive op)
        (ihr leaves.2)
      simpa [tokens, Separators.arrive_of_mem usable.opening,
        Separators.arrive_of_mem usable.closing] using form

/-! ## Reading a source text -/

theorem parse_source (usable : separators.Usable) {expr : Expr} (writable : expr.Writable)
    (targets : expr.TargetsAreNames) (fits : expr.nesting ≤ Parse.maxDepth) :
    separators.parse expr.source = ⟨Parse.groups expr ++ [.expression expr], .ok expr⟩ := by
  have run := Parse.expression_of_form (form_arrive usable writable) [] targets fits
  rw [List.append_nil, if_pos rfl] at run
  rw [Separators.parse, tokens_source usable writable, run]

theorem parse_source_tooDeep (usable : separators.Usable) {expr : Expr} (writable : expr.Writable)
    (targets : expr.TargetsAreNames) (deep : Parse.maxDepth < expr.nesting) :
    (separators.parse expr.source).result = .error (.tooDeep Parse.maxDepth) := by
  have run := Parse.expression_tooDeep (form_arrive usable writable) [] targets deep
  rw [List.append_nil] at run
  rw [Separators.parse, tokens_source usable writable, run]

/-- **Writing an expression and reading it gives it back**, under any usable separators and with
nothing left over, when its brackets are not too deep; when they are, that is the error.  The tokens
of the text are those of the expression up to the operators that are no separators, and exactly those
under the standard separators. -/
theorem source_reads_back (usable : separators.Usable) {expr : Expr} (writable : expr.Writable)
    (targets : expr.TargetsAreNames) :
    (expr.nesting ≤ Parse.maxDepth →
      (separators.parse expr.source).result = .ok expr
        ∧ Parse.leftovers (separators.parse expr.source).events = [])
    ∧ (Parse.maxDepth < expr.nesting →
      (separators.parse expr.source).result = .error (.tooDeep Parse.maxDepth))
    ∧ separators.tokens expr.source = expr.tokens.map separators.arrive
    ∧ Separators.standard.tokens expr.source = expr.tokens := by
  refine ⟨?_, ?_, tokens_source usable writable, ?_⟩
  · intro fits
    rw [parse_source usable writable targets fits]
    refine ⟨rfl, ?_⟩
    rw [Parse.leftovers_append, Parse.leftovers_groups]
    rfl
  · intro deep
    exact parse_source_tooDeep usable writable targets deep
  · rw [tokens_source Separators.usable_standard writable, map_arrive_standard]

/-- `((x = 1.5) + y)` under separators that lack `=`, which arrives as a word. -/
theorem source_reads_back_sum :
    ((Separators.ofString "()+").parse "((x = 1.5) + y)").result
        = .ok (.operation (.arithmetic .add)
          (.operation .assign (.name ⟨"x"⟩) (.number (Float.ofBits 0x3FF8000000000000)))
          (.name ⟨"y"⟩))
      ∧ (Separators.ofString "()+").tokens "((x = 1.5) + y)"
        = [.symbol '(', .symbol '(', .word "x", .word "=",
            .number (Float.ofBits 0x3FF8000000000000), .symbol ')', .symbol '+', .word "y",
            .symbol ')'] := by
  have usable : (Separators.ofString "()+").Usable := by decide
  let sum : Expr := .operation (.arithmetic .add)
    (.operation .assign (.name ⟨"x"⟩) (.number (Float.ofBits 0x3FF8000000000000)))
    (.name ⟨"y"⟩)
  have text : sum.source = "((x = 1.5) + y)" := by decide +kernel
  obtain ⟨read, -, tokens, -⟩ := @source_reads_back _ usable sum (by decide +kernel)
    (by decide +kernel)
  rw [text] at read tokens
  exact ⟨(read (by decide +kernel)).1, tokens⟩

end Expr

end Calculator
