/-
# Calculator.Separators — the characters that end a word and stand for themselves

A set of separators is given by the characters it was made from.  Sets are compared as these lists,
so the same characters in another order make another set.
-/

namespace Calculator

/-- A set of separator characters. -/
structure Separators where
  chars : List Char
  deriving DecidableEq

namespace Separators

/-- The separators that are the characters of a text. -/
def ofString (text : String) : Separators := ⟨text.toList⟩

/-- The brackets and all operators. -/
def standard : Separators := ofString "()+-*/=^%"

/-- The set without power and remainder, whose symbols then belong to the words around them. -/
def legacy : Separators := ofString "()+-*/="

/-- Whether a character is one of the separators. -/
def contains (s : Separators) (c : Char) : Bool := s.chars.contains c

instance : Membership Char Separators := ⟨fun s c => c ∈ s.chars⟩

instance (c : Char) (s : Separators) : Decidable (c ∈ s) :=
  inferInstanceAs (Decidable (c ∈ s.chars))

theorem contains_iff {s : Separators} {c : Char} : s.contains c = true ↔ c ∈ s := by
  show s.chars.contains c = true ↔ c ∈ s.chars
  simp

end Separators

end Calculator
