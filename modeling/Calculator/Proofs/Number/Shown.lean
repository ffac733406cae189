/-
# Calculator.Proofs.Number.Shown — the text of a float says which float it is

A float is shown with few characters: digits, the point, a minus sign, and the letters of two words
(`isShown_of_mem_chars`).  From the text one gets back to the float (`ofShown_chars`): what is not a
number has a word of its own, a sign stands in front, and what follows reads as the magnitude.  The
floats have one value that is not a number (`eq_notANumber`), so nothing is lost on the way, the sign
of zero included, and no two floats have the same text.
-/

import Calculator.Proofs.Number.NotANumber
import Calculator.Proofs.Number.ReadBack

namespace Calculator.Binary64

/-! ## What is not a number -/

open Float.Model.UnpackedFloat in
/-- There is one float beyond the magnitudes of numbers. -/
theorem eq_notANumber {x : Float} (h : infinity < magnitude x) : x = notANumber := by
  rw [← ofBits_toBits x, ← ofBits_toBits notANumber]
  obtain ⟨⟨bits, valid⟩⟩ := x
  congr 1
  change infinity < bits.toNat % signBit at h
  have last : @unpackExponent Float.Model.Format.binary64 bits.toBitVec = -1#11 := by
    apply BitVec.eq_of_toNat_eq
    rw [toNat_unpackExponent]
    have width := bits.toNat_lt
    show bits.toNat / 2 ^ 52 % 2 ^ 11 = 2047
    unfold infinity signBit at h
    omega
  have some : @unpackMantissa Float.Model.Format.binary64 bits.toBitVec ≠ 0#52 := by
    intro none
    have zero := congrArg BitVec.toNat none
    rw [toNat_unpackMantissa] at zero
    change bits.toNat % 2 ^ 52 = 0 at zero
    have width := bits.toNat_lt
    unfold infinity signBit at h
    omega
  have packed := valid.eq_packedNaN last some
  exact UInt64.toBitVec_inj.mp packed

/-! ## The characters of a text -/

/-- The characters that floats are shown with, apart from digits. -/
def marks : List Char := ['.', '-', 'i', 'n', 'f', 'N', 'a']

/-- The characters that floats are shown with. -/
def IsShown (c : Char) : Prop := c.isDigit = true ∨ c ∈ marks

instance : DecidablePred IsShown := fun c =>
  inferInstanceAs (Decidable (c.isDigit = true ∨ c ∈ marks))

theorem isShown_of_mem_magnitudeChars {bits : Nat} {c : Char} (mem : c ∈ magnitudeChars bits) :
    IsShown c := by
  unfold magnitudeChars at mem
  split at mem
  · have word : ['i', 'n', 'f'] ⊆ marks := by decide
    exact Or.inr (word mem)
  · rcases Decimal.isDigit_or_point_of_mem_chars mem with digit | rfl
    · exact Or.inl digit
    · exact Or.inr (by decide)

/-- **A float is shown with digits, the point, the minus sign and the letters of `inf` and `NaN`.** -/
theorem isShown_of_mem_chars {x : Float} {c : Char} (mem : c ∈ chars x) : IsShown c := by
  unfold chars at mem
  split at mem
  · have word : ['N', 'a', 'N'] ⊆ marks := by decide
    exact Or.inr (word mem)
  · split at mem
    · rcases List.mem_cons.mp mem with rfl | mem
      · exact Or.inr (by decide)
      · exact isShown_of_mem_magnitudeChars mem
    · exact isShown_of_mem_magnitudeChars mem

/-! ## Back from the text -/

/-- The magnitude that a text without a sign shows; what is no literal is the word for infinity. -/
def shownMagnitude (cs : List Char) : Nat :=
  ((Literal.value? cs).map magnitude).getD infinity

/-- The float that a text shows. -/
def ofShown : List Char → Float
  | 'N' :: _ => notANumber
  | '-' :: cs => ofMagnitude true (shownMagnitude cs)
  | cs => ofMagnitude false (shownMagnitude cs)

theorem ofShown_unsigned {c : Char} (cs : List Char) (notWord : c ≠ 'N') (unsigned : c ≠ '-') :
    ofShown (c :: cs) = ofMagnitude false (shownMagnitude (c :: cs)) := by
  unfold ofShown
  split
  · rename_i same
    exact absurd (List.cons.inj same).1 notWord
  · rename_i same
    exact absurd (List.cons.inj same).1 unsigned
  · rfl

theorem shownMagnitude_magnitudeChars {bits : Nat} (h : bits ≤ infinity) :
    shownMagnitude (magnitudeChars bits) = bits := by
  unfold magnitudeChars
  split
  · rename_i infinite
    rw [infinite]
    rfl
  · rename_i finite
    rw [shownMagnitude, Decimal.value?_chars, Decimal.toFloat,
      Shortest.nearest_shortest (Nat.lt_of_le_of_ne h finite), Option.map_some, Option.getD_some,
      magnitude_ofMagnitude h]

/-- The text of a magnitude begins with a digit or a point, or is the word for infinity. -/
theorem exists_magnitudeChars (bits : Nat) :
    ∃ c cs, magnitudeChars bits = c :: cs ∧ c ≠ 'N' ∧ c ≠ '-' := by
  unfold magnitudeChars
  split
  · exact ⟨'i', _, rfl, by decide, by decide⟩
  · obtain ⟨c, cs, eq⟩ := List.exists_cons_of_ne_nil (Shortest.shortest bits).chars_ne_nil
    refine ⟨c, cs, eq, ?_⟩
    rcases Decimal.isDigit_or_point_of_mem_chars (eq ▸ List.mem_cons_self) with digit | rfl
    · constructor <;> rintro rfl <;> exact absurd digit (by decide)
    · decide

/-- **From the text of a float one gets back to the float.** -/
theorem ofShown_chars (x : Float) : ofShown (chars x) = x := by
  unfold chars
  split
  · rename_i beyond
    exact (eq_notANumber beyond).symm
  · rename_i number
    have back := shownMagnitude_magnitudeChars (Nat.not_lt.mp number)
    split
    · rename_i negative
      rw [ofShown, back, ← negative, ofMagnitude_magnitude]
    · rename_i positive
      obtain ⟨c, cs, eq, notWord, unsigned⟩ := exists_magnitudeChars (magnitude x)
      rw [eq, ofShown_unsigned cs notWord unsigned, ← eq, back, ← eq_false_of_ne_true positive,
        ofMagnitude_magnitude]

theorem chars_injective : Function.Injective chars :=
  Function.LeftInverse.injective ofShown_chars

end Calculator.Binary64
