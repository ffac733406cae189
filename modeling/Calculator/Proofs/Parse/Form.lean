/-
# Calculator.Proofs.Parse.Form — the grammar of expressions, as a relation between trees and tokens

`Form expr tokens` says that the tokens are one way to write the expression.  The only freedom is in
the operators, each of which may stand as a symbol or as a word of its one character.  The relation
knows nothing of depth and does not look at what an assignment assigns to: both are the parser's
business and are joined to it in `Calculator.Proofs.Parse.Accept`.

Two facts are all that the parser needs of it.  Forms are self-delimiting (`Form.append_inj`): a list
of tokens begins with at most one form, of at most one expression.  And a form is the printed form
but for the words among its operators (`Form.map_asSymbol`).
-/

import Calculator.Parse.Operand

namespace Calculator.Parse

/-! ## Operators -/

/-- The tokens an operator can be: its character as a symbol, or as a word. -/
inductive OperatorForm (operator : Operator) : Token → Prop
  | symbol : OperatorForm operator (.symbol operator.symbol)
  | word : OperatorForm operator (.word (String.singleton operator.symbol))

theorem operator?_eq_some_iff {token : Token} {op : Operator} :
    operator? token = some op ↔ OperatorForm op token := by
  constructor
  · intro h
    obtain ⟨c, hc, hop⟩ := Option.bind_eq_some_iff.mp h
    have symbol := Operator.ofSymbol?_eq_some_iff.mp hop
    cases token with
    | number value => exact absurd hc (by simp [operatorChar?])
    | symbol d =>
        obtain rfl : d = c := Option.some.inj hc
        exact symbol ▸ .symbol
    | word text =>
        simp only [operatorChar?] at hc
        split at hc
        · rename_i d chars
          obtain rfl : d = c := Option.some.inj hc
          have : text = String.singleton op.symbol := by
            rw [← String.toList_inj, chars, symbol, String.toList_singleton]
          exact this ▸ .word
        · exact absurd hc (by simp)
  · rintro (_ | _) <;> simp [operator?, operatorChar?]

/-- An operator's token determines the operator. -/
theorem OperatorForm.unique {op op' : Operator} {token : Token} (h : OperatorForm op token)
    (h' : OperatorForm op' token) : op = op' := by
  rw [← operator?_eq_some_iff] at h h'
  exact Option.some.inj (h.symm.trans h')

/-- The token that an operator's word stands for; every other token is itself. -/
def asSymbol (token : Token) : Token :=
  match operator? token with
  | some op => .symbol op.symbol
  | none => token

theorem OperatorForm.asSymbol_eq {op : Operator} {token : Token} (h : OperatorForm op token) :
    asSymbol token = .symbol op.symbol := by
  simp [asSymbol, operator?_eq_some_iff.mpr h]

theorem asSymbol_of_operator?_eq_none {token : Token} (h : operator? token = none) :
    asSymbol token = token := by
  simp [asSymbol, h]

/-- No operator is written with a letter, so no name is an operator's word. -/
theorem operator?_word_of_isValid {text : String} (valid : Name.isValid text = true) :
    operator? (.word text) = none := by
  cases h : operator? (.word text) with
  | none => rfl
  | some op =>
      cases operator?_eq_some_iff.mp h with
      | word =>
          have letter := (Name.isValid_iff.mp valid).2 op.symbol (by simp)
          exact absurd letter (by rcases op with ⟨⟨⟩⟩ | ⟨⟩ <;> decide)

/-! ## Expressions -/

/-- The ways to write an expression as tokens. -/
inductive Form : Expr → List Token → Prop
  | number (value : Float) : Form (.number value) [.number value]
  | name {text : String} : Name.isValid text = true → Form (.name ⟨text⟩) [.word text]
  | operation {op : Operator} {left right : Expr} {token : Token} {ls rs : List Token} :
      Form left ls → OperatorForm op token → Form right rs →
      Form (.operation op left right) (.symbol '(' :: (ls ++ token :: (rs ++ [.symbol ')'])))

/-- **Forms are self-delimiting.**  Where two forms begin the same tokens, they are the same form of
the same expression, and the same tokens follow. -/
theorem Form.append_inj {expr expr' : Expr} {p p' rest rest' : List Token} (h : Form expr p)
    (h' : Form expr' p') (same : p ++ rest = p' ++ rest') :
    expr = expr' ∧ p = p' ∧ rest = rest' := by
  induction h generalizing expr' p' rest rest' with
  | number value =>
      cases h' with
      | number => simp_all
      | name valid => simp at same
      | operation hl ho hr => simp at same
  | name valid =>
      cases h' with
      | number => simp at same
      | name valid' => simp_all
      | operation hl ho hr => simp at same
  | operation hl ho hr ihl ihr =>
      cases h' with
      | number => simp at same
      | name valid' => simp at same
      | operation hl' ho' hr' =>
          simp only [List.cons_append, List.append_assoc, List.nil_append, List.cons.injEq,
            true_and] at same
          -- the left form ends where the other one does, so the operators face each other
          obtain ⟨rfl, rfl, behindLeft⟩ := ihl hl' same
          obtain ⟨rfl, atRight⟩ := List.cons.inj behindLeft
          obtain rfl := ho.unique ho'
          obtain ⟨rfl, rfl, behindRight⟩ := ihr hr' atRight
          exact ⟨rfl, rfl, (List.cons.inj behindRight).2⟩

/-- A form with its operators as symbols is what the expression prints. -/
theorem Form.map_asSymbol {expr : Expr} {p : List Token} (h : Form expr p) :
    p.map asSymbol = expr.tokens := by
  induction h with
  | number value => rfl
  | name valid => simp [asSymbol_of_operator?_eq_none (operator?_word_of_isValid valid), Expr.tokens]
  | operation hl ho hr ihl ihr =>
      have opening : asSymbol (.symbol '(') = .symbol '(' := by decide
      have closing : asSymbol (.symbol ')') = .symbol ')' := by decide
      simp [Expr.tokens, ihl, ihr, ho.asSymbol_eq, opening, closing]

end Calculator.Parse
