/-
# Calculator.Proofs.Number.Positional — the text of a decimal is a literal, and reads as the decimal

A decimal is written with digits and at most one point, so the reader of literals meets neither an
exponent nor anything it cannot read.  What it reads is the decimal itself when there is a point, and
otherwise the same number with its zeros counted as digits; both have the same nearest float.
-/

import Calculator.Number.Literal

namespace Calculator

/-! ## Literals of digits -/

namespace Literal

variable {whole fraction cs : List Char}

theorem leadingDigits_of_digits (digits : ∀ c ∈ cs, c.isDigit = true) : leadingDigits cs = cs := by
  have all : leadingDigits (cs ++ []) = cs ++ leadingDigits [] :=
    List.takeWhile_append_of_pos digits
  simpa [leadingDigits] using all

theorem afterDigits_of_digits (digits : ∀ c ∈ cs, c.isDigit = true) : afterDigits cs = [] := by
  have all : afterDigits (cs ++ []) = afterDigits [] := List.dropWhile_append_of_pos digits
  simpa [afterDigits] using all

theorem read?_digits (digits : ∀ c ∈ cs, c.isDigit = true) (some : cs ≠ []) :
    read? cs = Option.some (decimal cs [] 0) := by
  simp [read?, leadingDigits_of_digits digits, afterDigits_of_digits digits, some, exponent?]

theorem read?_point (wholeDigits : ∀ c ∈ whole, c.isDigit = true) (some : whole ≠ [])
    (fractionDigits : ∀ c ∈ fraction, c.isDigit = true) :
    read? (whole ++ '.' :: fraction) = Option.some (decimal whole fraction 0) := by
  have leading : leadingDigits (whole ++ '.' :: fraction) = whole := by
    rw [leadingDigits, List.takeWhile_append_of_pos wholeDigits]
    simp
  have point : afterDigits (whole ++ '.' :: fraction) = '.' :: fraction := by
    rw [afterDigits, List.dropWhile_append_of_pos wholeDigits]
    rfl
  simp [read?, leading, point, leadingDigits_of_digits fractionDigits,
    afterDigits_of_digits fractionDigits, some, exponent?]

/-- A literal begins with a digit or a point. -/
theorem value?_cons_eq_none {c : Char} (cs : List Char) (digit : c.isDigit = false)
    (point : c ≠ '.') : value? (c :: cs) = none := by
  have leading : leadingDigits (c :: cs) = [] := by simp [leadingDigits, digit]
  have after : afterDigits (c :: cs) = c :: cs := by simp [afterDigits, digit]
  simp [value?, read?, leading, after, point]

end Literal

/-! ## Positional text -/

namespace Decimal

theorem isDigit_of_mem_toDigits {n : Nat} {c : Char} (h : c ∈ Nat.toDigits 10 n) :
    c.isDigit = true :=
  Nat.isDigit_of_mem_toDigits (by decide) (by decide) h

/-- The digits of a decimal with the zeros in front that its point needs. -/
def padded (d : Decimal) : List Char :=
  let digits := Nat.toDigits 10 d.digits
  List.replicate ((-d.exponent).toNat + 1 - digits.length) '0' ++ digits

/-- The text of a decimal is a run of digits, or two runs with a point between them. -/
theorem chars_of_nonneg {d : Decimal} (h : 0 ≤ d.exponent) :
    d.chars = Nat.toDigits 10 d.digits ++ List.replicate d.exponent.toNat '0' := by
  rw [chars, if_neg (Int.not_lt.mpr h)]

theorem chars_of_neg {d : Decimal} (h : d.exponent < 0) :
    d.chars = d.padded.take (d.padded.length - (-d.exponent).toNat)
      ++ '.' :: d.padded.drop (d.padded.length - (-d.exponent).toNat) := by
  rw [chars, if_pos h]
  rfl

theorem lt_length_padded (d : Decimal) : (-d.exponent).toNat < d.padded.length := by
  simp only [padded, List.length_append, List.length_replicate]
  omega

theorem isDigit_of_mem_padded {d : Decimal} {c : Char} (h : c ∈ d.padded) : c.isDigit = true := by
  rcases List.mem_append.mp h with zero | digit
  · rw [List.eq_of_mem_replicate zero]
    rfl
  · exact isDigit_of_mem_toDigits digit

theorem ofDigitChars_padded (d : Decimal) : Nat.ofDigitChars 10 d.padded 0 = d.digits := by
  rw [padded, Nat.ofDigitChars_append, Nat.ofDigitChars_replicate_zero, Nat.mul_zero,
    Nat.ofDigitChars_ten_toDigits]

theorem isDigit_of_mem_chars {d : Decimal} (h : 0 ≤ d.exponent) {c : Char} (mem : c ∈ d.chars) :
    c.isDigit = true := by
  rw [chars_of_nonneg h] at mem
  rcases List.mem_append.mp mem with digit | zero
  · exact isDigit_of_mem_toDigits digit
  · rw [List.eq_of_mem_replicate zero]
    rfl

/-- With a negative exponent there is a point, digits on both sides of it, and the two runs say
exactly which decimal was written. -/
theorem exists_point_of_neg {d : Decimal} (h : d.exponent < 0) :
    ∃ whole fraction, d.chars = whole ++ '.' :: fraction ∧ whole ≠ []
      ∧ (∀ c ∈ whole, c.isDigit = true) ∧ (∀ c ∈ fraction, c.isDigit = true)
      ∧ Literal.decimal whole fraction 0 = d := by
  have long := d.lt_length_padded
  refine ⟨_, _, chars_of_neg h, ?_, ?_, ?_, ?_⟩
  · intro none
    have := congrArg List.length none
    rw [List.length_take, List.length_nil] at this
    omega
  · intro c mem
    exact isDigit_of_mem_padded (List.mem_of_mem_take mem)
  · intro c mem
    exact isDigit_of_mem_padded (List.mem_of_mem_drop mem)
  · rw [Literal.decimal, List.take_append_drop, ofDigitChars_padded, List.length_drop]
    congr 1
    omega

theorem chars_ne_nil (d : Decimal) : d.chars ≠ [] := by
  by_cases h : 0 ≤ d.exponent
  · rw [chars_of_nonneg h]
    exact List.append_ne_nil_of_left_ne_nil Nat.toDigits_ne_nil _
  · obtain ⟨whole, fraction, eq, some, -⟩ := exists_point_of_neg (Int.not_le.mp h)
    rw [eq]
    exact List.append_ne_nil_of_left_ne_nil some _

theorem isDigit_or_point_of_mem_chars {d : Decimal} {c : Char} (mem : c ∈ d.chars) :
    c.isDigit = true ∨ c = '.' := by
  by_cases h : 0 ≤ d.exponent
  · exact Or.inl (isDigit_of_mem_chars h mem)
  · obtain ⟨whole, fraction, eq, -, wholeDigits, fractionDigits, -⟩ :=
      exists_point_of_neg (Int.not_le.mp h)
    rw [eq] at mem
    rcases List.mem_append.mp mem with inWhole | behind
    · exact Or.inl (wholeDigits c inWhole)
    · rcases List.mem_cons.mp behind with point | inFraction
      · exact Or.inr point
      · exact Or.inl (fractionDigits c inFraction)

/-- **The text of a decimal reads as its nearest float.** -/
theorem value?_chars (d : Decimal) : Literal.value? d.chars = some d.toFloat := by
  by_cases h : 0 ≤ d.exponent
  · have digits : ∀ c ∈ d.chars, c.isDigit = true := by
      intro c mem
      exact isDigit_of_mem_chars h mem
    rw [Literal.value?, Literal.read?_digits digits d.chars_ne_nil]
    -- the zeros behind the digits are digits now, and the quotient is the same
    have same : Nat.ofDigitChars 10 d.chars 0 = d.digits * 10 ^ d.exponent.toNat := by
      rw [chars_of_nonneg h, Nat.ofDigitChars_append, Nat.ofDigitChars_ten_toDigits,
        Nat.ofDigitChars_replicate_zero, Nat.mul_comm]
    have none : (-d.exponent).toNat = 0 := by omega
    simp [Literal.decimal, toFloat, nearest, ratio, same, none]
  · obtain ⟨whole, fraction, eq, some, wholeDigits, fractionDigits, back⟩ :=
      exists_point_of_neg (Int.not_le.mp h)
    rw [Literal.value?, eq, Literal.read?_point wholeDigits some fractionDigits, back]
    rfl

end Decimal

end Calculator
