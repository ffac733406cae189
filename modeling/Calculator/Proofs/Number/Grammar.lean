/-
# Calculator.Proofs.Number.Grammar — the grammar of literals

A literal is digits with at most one point, before, inside or behind them, and perhaps an exponent.
The reader of literals takes a text apart by its leading digits; here the grammar puts it together.  The
two agree on every text (`isSome_read?_iff`): what is behind a run of digits never begins with a
digit, so the reader cuts where the grammar joined.
-/

import Calculator.Proofs.Number.Positional

namespace Calculator.Literal

/-! ## The grammar -/

/-- A run of digits that is not empty. -/
def IsDigits (cs : List Char) : Prop := cs ≠ [] ∧ ∀ c ∈ cs, c.isDigit = true

/-- What may end a literal: nothing, or the letter of an exponent with its digits, perhaps behind a
sign. -/
inductive IsExponent : List Char → Prop
  | none : IsExponent []
  | unsigned {letter : Char} {digits : List Char} : letter = 'e' ∨ letter = 'E' → IsDigits digits →
      IsExponent (letter :: digits)
  | signed {letter sign : Char} {digits : List Char} : letter = 'e' ∨ letter = 'E' →
      sign = '+' ∨ sign = '-' → IsDigits digits → IsExponent (letter :: sign :: digits)

/-- The texts that are literals. -/
inductive IsLiteral : List Char → Prop
  | whole {whole exponent : List Char} : IsDigits whole → IsExponent exponent →
      IsLiteral (whole ++ exponent)
  | point {whole fraction exponent : List Char} : IsDigits whole →
      (∀ c ∈ fraction, c.isDigit = true) → IsExponent exponent →
      IsLiteral (whole ++ '.' :: (fraction ++ exponent))
  | fraction {fraction exponent : List Char} : IsDigits fraction → IsExponent exponent →
      IsLiteral ('.' :: (fraction ++ exponent))

variable {cs digits rest : List Char}

/-! ## Exponents -/

theorem isSome_exponentDigits?_iff : (exponentDigits? cs).isSome = true ↔ IsDigits cs := by
  simp [exponentDigits?, IsDigits]

theorem not_isDigits_sign {sign : Char} (isSign : sign = '+' ∨ sign = '-') :
    ¬ IsDigits (sign :: digits) := by
  intro isDigits
  have digit := isDigits.2 sign List.mem_cons_self
  rcases isSign with rfl | rfl <;> exact absurd digit (by decide)

/-- The digits of an exponent stand alone or behind a sign. -/
theorem isSome_signedExponent?_iff :
    (signedExponent? cs).isSome = true
      ↔ IsDigits cs ∨ ∃ sign digits, (sign = '+' ∨ sign = '-') ∧ IsDigits digits
          ∧ cs = sign :: digits := by
  unfold signedExponent?
  split
  · rename_i digits
    have noSign : ¬ IsDigits ('-' :: digits) := not_isDigits_sign (Or.inr rfl)
    have read : (exponentDigits? digits).isSome = true ↔ IsDigits digits := isSome_exponentDigits?_iff
    simp [noSign, ← read, Option.isSome_bind]
  · rename_i digits
    have noSign : ¬ IsDigits ('+' :: digits) := not_isDigits_sign (Or.inl rfl)
    have read : (exponentDigits? digits).isSome = true ↔ IsDigits digits := isSome_exponentDigits?_iff
    simp [noSign, ← read]
  · rename_i noMinus noPlus
    have unsigned : ¬ ∃ sign digits, (sign = '+' ∨ sign = '-') ∧ IsDigits digits
        ∧ cs = sign :: digits := by
      rintro ⟨sign, digits, rfl | rfl, -, same⟩
      · exact noPlus digits same
      · exact noMinus digits same
    rw [Option.isSome_map, isSome_exponentDigits?_iff, or_iff_left unsigned]

theorem isSome_exponent?_iff : (exponent? cs).isSome = true ↔ IsExponent cs := by
  constructor
  · intro h
    cases cs with
    | nil => exact .none
    | cons letter cs =>
        rw [exponent?] at h
        split at h
        · rename_i isLetter
          rcases isSome_signedExponent?_iff.mp h with
            isDigits | ⟨sign, digits, isSign, isDigits, rfl⟩
          · exact .unsigned isLetter isDigits
          · exact .signed isLetter isSign isDigits
        · exact absurd h (by simp)
  · intro h
    cases h with
    | none => rfl
    | unsigned isLetter isDigits =>
        rw [exponent?, if_pos isLetter]
        exact isSome_signedExponent?_iff.mpr (Or.inl isDigits)
    | signed isLetter isSign isDigits =>
        rw [exponent?, if_pos isLetter]
        exact isSome_signedExponent?_iff.mpr (Or.inr ⟨_, _, isSign, isDigits, rfl⟩)

/-! ## Where the leading digits end -/

theorem leadingDigits_append (allDigits : ∀ c ∈ digits, c.isDigit = true)
    (boundary : leadingDigits rest = []) : leadingDigits (digits ++ rest) = digits := by
  show (digits ++ rest).takeWhile Char.isDigit = digits
  rw [List.takeWhile_append_of_pos allDigits]
  change rest.takeWhile Char.isDigit = [] at boundary
  rw [boundary, List.append_nil]

theorem afterDigits_append (allDigits : ∀ c ∈ digits, c.isDigit = true)
    (boundary : leadingDigits rest = []) : afterDigits (digits ++ rest) = rest := by
  have whole : leadingDigits rest ++ afterDigits rest = rest := List.takeWhile_append_dropWhile
  rw [boundary, List.nil_append] at whole
  show (digits ++ rest).dropWhile Char.isDigit = rest
  rw [List.dropWhile_append_of_pos allDigits]
  exact whole

theorem leadingDigits_point : leadingDigits ('.' :: cs) = [] := by
  simp [leadingDigits]

theorem IsExponent.leadingDigits (h : IsExponent cs) : leadingDigits cs = [] := by
  cases h with
  | none => rfl
  | unsigned isLetter isDigits => rcases isLetter with rfl | rfl <;> simp [Literal.leadingDigits]
  | signed isLetter isSign isDigits =>
      rcases isLetter with rfl | rfl <;> simp [Literal.leadingDigits]

theorem IsExponent.ne_point (h : IsExponent cs) (behind : List Char) : cs ≠ '.' :: behind := by
  rintro rfl
  cases h with
  | unsigned isLetter isDigits => exact absurd isLetter (by decide)
  | signed isLetter isSign isDigits => exact absurd isLetter (by decide)

/-! ## Literals -/

theorem read?_append_point {whole fraction exponent : List Char}
    (wholeDigits : ∀ c ∈ whole, c.isDigit = true) (fractionDigits : ∀ c ∈ fraction, c.isDigit = true)
    (some : whole ≠ [] ∨ fraction ≠ []) (isExponent : IsExponent exponent) :
    read? (whole ++ '.' :: (fraction ++ exponent))
      = (exponent? exponent).map (decimal whole fraction) := by
  unfold read?
  simp only [leadingDigits_append wholeDigits leadingDigits_point,
    afterDigits_append wholeDigits leadingDigits_point,
    leadingDigits_append fractionDigits isExponent.leadingDigits,
    afterDigits_append fractionDigits isExponent.leadingDigits]
  rw [if_neg]
  rintro ⟨noWhole, noFraction⟩
  exact some.elim (absurd noWhole) (absurd noFraction)

theorem read?_append {whole exponent : List Char} (isDigits : IsDigits whole)
    (isExponent : IsExponent exponent) :
    read? (whole ++ exponent) = (exponent? exponent).map (decimal whole []) := by
  unfold read?
  simp only [leadingDigits_append isDigits.2 isExponent.leadingDigits,
    afterDigits_append isDigits.2 isExponent.leadingDigits]
  split
  · rename_i behind
    exact absurd rfl (isExponent.ne_point behind)
  · rw [if_neg isDigits.1]

theorem isDigit_of_mem_leadingDigits {c : Char} (h : c ∈ leadingDigits cs) : c.isDigit = true :=
  List.all_eq_true.mp (List.all_takeWhile (p := Char.isDigit) (l := cs)) c h

theorem isLiteral_of_read? (h : (read? cs).isSome = true) : IsLiteral cs := by
  have parts : leadingDigits cs ++ afterDigits cs = cs := List.takeWhile_append_dropWhile
  have digits : ∀ {cs : List Char}, ∀ c ∈ leadingDigits cs, c.isDigit = true := by
    intro cs c mem
    exact isDigit_of_mem_leadingDigits mem
  unfold read? at h
  simp only at h
  split at h
  · rename_i behind point
    have behindParts : leadingDigits behind ++ afterDigits behind = behind :=
      List.takeWhile_append_dropWhile
    split at h
    · exact absurd h (by simp)
    · rename_i some
      rw [Option.isSome_map, isSome_exponent?_iff] at h
      rw [← parts, point, ← behindParts]
      by_cases noWhole : leadingDigits cs = []
      · rw [noWhole]
        refine .fraction ⟨?_, digits⟩ h
        intro noFraction
        exact some ⟨noWhole, noFraction⟩
      · exact .point ⟨noWhole, digits⟩ digits h
  · split at h
    · exact absurd h (by simp)
    · rename_i some
      rw [Option.isSome_map, isSome_exponent?_iff] at h
      rw [← parts]
      exact .whole ⟨some, digits⟩ h

/-- **The texts that are read are those of the grammar.** -/
theorem isSome_read?_iff : (read? cs).isSome = true ↔ IsLiteral cs := by
  constructor
  · exact isLiteral_of_read?
  · intro h
    cases h with
    | whole isDigits isExponent =>
        rw [read?_append isDigits isExponent, Option.isSome_map]
        exact isSome_exponent?_iff.mpr isExponent
    | point isDigits fractionDigits isExponent =>
        rw [read?_append_point isDigits.2 fractionDigits (Or.inl isDigits.1) isExponent,
          Option.isSome_map]
        exact isSome_exponent?_iff.mpr isExponent
    | @fraction fraction exponent isDigits isExponent =>
        -- a literal that begins with its point has no digits in front of it
        have cut := @read?_append_point [] _ _ (by simp) isDigits.2 (Or.inr isDigits.1) isExponent
        rw [← List.nil_append ('.' :: (fraction ++ exponent)), cut, Option.isSome_map]
        exact isSome_exponent?_iff.mpr isExponent

/-- A text has a value as a literal if the grammar has it. -/
theorem isSome_value?_iff : (value? cs).isSome = true ↔ IsLiteral cs := by
  rw [value?, Option.isSome_map, isSome_read?_iff]

theorem value?_eq_none_iff : value? cs = none ↔ ¬ IsLiteral cs := by
  rw [← isSome_value?_iff, Option.not_isSome_iff_eq_none]

instance : DecidablePred IsLiteral := fun _ => decidable_of_iff _ isSome_read?_iff

/-- An exponent needs digits, and a point needs them on one side only. -/
example : IsLiteral "1.e+5".toList ∧ ¬ IsLiteral "1e".toList ∧ ¬ IsLiteral ".".toList := by
  decide +kernel

end Calculator.Literal
