/-
# Calculator.Name — the names of variables

A name that can be written is a run of ASCII letters.  A name made by hand may be any text; names are
ordered by the code points of their texts, and that order is the order in which an environment is
shown.
-/

namespace Calculator

/-- The name of a variable. -/
structure Name where
  text : String
  deriving DecidableEq

namespace Name

/-- A text can be written as a name when it is a non-empty run of ASCII letters. -/
def isValid (text : String) : Bool :=
  !text.toList.isEmpty && text.toList.all Char.isAlpha

theorem isValid_iff {text : String} :
    isValid text = true ↔ text.toList ≠ [] ∧ ∀ c ∈ text.toList, c.isAlpha = true := by
  simp [isValid]

/-! ## Order -/

instance : LT Name := ⟨fun a b => a.text < b.text⟩

instance (a b : Name) : Decidable (a < b) := inferInstanceAs (Decidable (a.text < b.text))

instance : Ord Name := ⟨fun a b => compareOfLessAndEq a.text b.text⟩

theorem lt_iff {a b : Name} : a < b ↔ a.text < b.text := Iff.rfl

theorem lt_irrefl (a : Name) : ¬ a < a := String.lt_irrefl a.text

theorem lt_trans {a b c : Name} (ab : a < b) (bc : b < c) : a < c := String.lt_trans ab bc

theorem eq_of_not_lt {a b : Name} (ab : ¬ a < b) (ba : ¬ b < a) : a = b := by
  cases a; cases b
  exact congrArg Name.mk (String.le_antisymm ba ab)

end Name

end Calculator
