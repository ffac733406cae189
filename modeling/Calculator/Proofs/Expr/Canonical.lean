/-
# Calculator.Proofs.Expr.Canonical — the canonical text of an expression is that of no other

A canonical text begins with a word and a bracket, and the word says what the tree is at its root: a
number, a variable or one of the seven operators.  What stands in the bracket ends by itself.  A number
ends before the bracket closes, a name that can be typed ends before its quote, and a side of an
operator is a canonical text again.  So the text can be read from left to right without looking back,
whatever follows it (`eq_of_canonical_append`), and both statements about whole texts are cases of
that: no two expressions have the same text, and no text is the beginning of another one.

It does not matter which words the variables are called by, `Num` and `inf` among them, since a name
stands in quotes; nor whether the left side of an assignment is a variable.
-/

import Calculator.Proofs.Expr.Shape
import Calculator.Proofs.Text.Delimited

namespace Calculator

/-- Different operators have different words. -/
theorem Operator.name_injective : Function.Injective name := by
  have found : ∀ op : Operator, (all.find? fun other => other.name == op.name) = some op := by
    rintro (⟨⟨⟩⟩ | ⟨⟩) <;> rfl
  intro op op' same
  apply Option.some.inj
  rw [← found op, same, found op']

namespace Expr

/-! ## The word and what stands behind it -/

/-- The word that a canonical text begins with. -/
def word : Expr → String
  | number _ => "Num"
  | name _ => "Var"
  | operation op _ _ => op.name

/-- What stands behind the bracket that follows the word. -/
def content : Expr → List Char
  | number value => Binary64.chars value ++ [')']
  | name n => '\'' :: (n.text.toList ++ ['\'', ')'])
  | operation _ left right =>
    left.canonical.toList ++ ',' :: ' ' :: (right.canonical.toList ++ [')'])

theorem toList_canonical (expr : Expr) :
    expr.canonical.toList = expr.word.toList ++ '(' :: expr.content := by
  cases expr <;> simp [canonical, word, content, Binary64.text]

theorem isAlpha_of_mem_word (expr : Expr) : ∀ c ∈ expr.word.toList, c.isAlpha = true := by
  rcases expr with value | n | ⟨⟨⟨⟩⟩ | ⟨⟩, left, right⟩ <;> simp [word, Operator.name]

variable {expr expr' : Expr} {asked asked' : Float → Prop} {r s : List Char}

/-- The word ends at the bracket. -/
theorem word_eq_of_canonical_append (h : expr.canonical.toList ++ r = expr'.canonical.toList ++ s) :
    expr.word = expr'.word ∧ expr.content ++ r = expr'.content ++ s := by
  rw [toList_canonical, toList_canonical, List.append_assoc, List.append_assoc] at h
  obtain ⟨word, -, content⟩ := Text.eq_of_append_delimiter expr.isAlpha_of_mem_word
    expr'.isAlpha_of_mem_word (by decide) (by decide) h
  exact ⟨String.toList_inj.mp word, content⟩

/-! ## What the word says -/

theorem exists_of_word_number {value : Float} (h : (number value).word = expr.word) :
    ∃ value', expr = number value' := by
  cases expr with
  | number value' => exact ⟨value', rfl⟩
  | name n => simp [word] at h
  | operation op left right => rcases op with ⟨⟨⟩⟩ | ⟨⟩ <;> simp [word, Operator.name] at h

theorem exists_of_word_name {n : Name} (h : (name n).word = expr.word) : ∃ n', expr = name n' := by
  cases expr with
  | number value => simp [word] at h
  | name n' => exact ⟨n', rfl⟩
  | operation op left right => rcases op with ⟨⟨⟩⟩ | ⟨⟩ <;> simp [word, Operator.name] at h

theorem exists_of_word_operation {op : Operator} {left right : Expr}
    (h : (operation op left right).word = expr.word) :
    ∃ left' right', expr = operation op left' right' := by
  cases expr with
  | number value => rcases op with ⟨⟨⟩⟩ | ⟨⟩ <;> simp [word, Operator.name] at h
  | name n => rcases op with ⟨⟨⟩⟩ | ⟨⟩ <;> simp [word, Operator.name] at h
  | operation op' left' right' =>
      obtain rfl : op = op' := Operator.name_injective h
      exact ⟨left', right', rfl⟩

/-! ## Reading from left to right -/

/-- **A canonical text ends by itself**: whatever follows it, it says which expression it shows. -/
theorem eq_of_canonical_append (names : expr.Leaves asked) (names' : expr'.Leaves asked')
    (h : expr.canonical.toList ++ r = expr'.canonical.toList ++ s) : expr = expr' ∧ r = s := by
  induction expr generalizing expr' r s with
  | number value =>
      obtain ⟨word, inside⟩ := word_eq_of_canonical_append h
      obtain ⟨value', rfl⟩ := exists_of_word_number word
      simp only [content, List.append_assoc, List.singleton_append] at inside
      obtain ⟨rfl, -, rest⟩ := Binary64.eq_of_chars_append (by decide) (by decide) inside
      exact ⟨rfl, rest⟩
  | name n =>
      obtain ⟨word, inside⟩ := word_eq_of_canonical_append h
      obtain ⟨n', rfl⟩ := exists_of_word_name word
      simp only [content, List.append_assoc, List.cons_append, List.nil_append] at inside
      obtain ⟨rfl, -, behind⟩ := Name.eq_of_toList_append names names' (by decide) (by decide)
        (List.cons.inj inside).2
      exact ⟨rfl, (List.cons.inj behind).2⟩
  | operation op left right ihl ihr =>
      obtain ⟨word, inside⟩ := word_eq_of_canonical_append h
      obtain ⟨left', right', rfl⟩ := exists_of_word_operation word
      simp only [content, List.append_assoc, List.cons_append, List.nil_append] at inside
      -- the left side is followed by the comma, the blank and all of the right side
      obtain ⟨rfl, behind⟩ := ihl names.1 names'.1 inside
      have atRight := (List.cons.inj (List.cons.inj behind).2).2
      obtain ⟨rfl, closing⟩ := ihr names.2 names'.2 atRight
      exact ⟨rfl, (List.cons.inj closing).2⟩

/-- **The canonical text shows one expression, and no canonical text is the beginning of another.**
The names have to be such as can be typed.  The numbers can be any, also those no literal stands for,
and so can the left sides of assignments. -/
theorem canonical_unambiguous (names : expr.Leaves fun _ => True)
    (names' : expr'.Leaves fun _ => True) :
    (expr.canonical = expr'.canonical → expr = expr')
    ∧ ∀ rest, expr.canonical ++ rest = expr'.canonical → expr = expr' ∧ rest = "" := by
  have reads : ∀ rest, expr.canonical ++ rest = expr'.canonical → expr = expr' ∧ rest = "" := by
    intro rest same
    have chars : expr.canonical.toList ++ rest.toList = expr'.canonical.toList ++ [] := by
      rw [← String.toList_append, same, List.append_nil]
    obtain ⟨equal, none⟩ := eq_of_canonical_append names names' chars
    exact ⟨equal, String.toList_eq_nil_iff.mp none⟩
  refine ⟨?_, reads⟩
  intro same
  have whole : expr.canonical ++ "" = expr'.canonical := by rw [String.append_empty, same]
  exact (reads "" whole).1

/-- Zeros with and without a sign, beside a variable with the word of a number for a name, on the left
of an assignment: neither text begins with the other. -/
theorem canonical_unambiguous_zeros :
    let zero : Expr := .operation .assign (.number (Float.ofBits 0)) (.name ⟨"Num"⟩)
    let minusZero : Expr :=
      .operation .assign (.number (Float.ofBits 0x8000000000000000)) (.name ⟨"Num"⟩)
    zero.canonical = "Assign(Num(0), Var('Num'))"
      ∧ minusZero.canonical = "Assign(Num(-0), Var('Num'))"
      ∧ ∀ rest, zero.canonical ++ rest ≠ minusZero.canonical := by
  intro zero minusZero
  refine ⟨by decide +kernel, by decide +kernel, ?_⟩
  intro rest same
  have texts := @canonical_unambiguous zero minusZero (by decide +kernel) (by decide +kernel)
  have equal := (texts.2 rest same).1
  exact absurd equal (by decide +kernel)

end Expr

end Calculator
