/-
# Calculator.Proofs.Number.Recognizer — numbers by two readers

There is another way of telling which words are numbers, by two readers with grammars of their own.
A recognizer takes a float off the front of a text.  It is put together from small recognizers, and the
letter of an exponent without digits behind it makes it give up.  A reader of floats has the value of a
text as a whole, and it knows words for infinity and for what is not a number.  Both allow a sign in
front.

A word is then a number if it begins with a digit or with a point, if the recognizer takes all of it,
and if it has a value.  This comes to the same as being a literal (`number?_eq_value?`).  What begins in
this way has no sign and is none of the words, and for what remains the two grammars are one: nothing
that the recognizer takes is without a value.
-/

import Calculator.Number.Arithmetic
import Calculator.Proofs.Number.Grammar

namespace Calculator.Literal

variable {cs rest : List Char}

/-! ## Grammars -/

/-- The texts of one kind, perhaps behind a sign. -/
inductive Signed (kind : List Char → Prop) : List Char → Prop
  | bare {cs : List Char} : kind cs → Signed kind cs
  | signed {sign : Char} {cs : List Char} : sign = '+' ∨ sign = '-' → kind cs →
      Signed kind (sign :: cs)

/-- Numbers as the reader of floats knows them.  There need be no digits in front of a point with
digits behind it, so the last two forms overlap. -/
inductive IsNumber : List Char → Prop
  | whole {whole exponent : List Char} : IsDigits whole → IsExponent exponent →
      IsNumber (whole ++ exponent)
  | pointBehind {whole fraction exponent : List Char} : IsDigits whole →
      (∀ c ∈ fraction, c.isDigit = true) → IsExponent exponent →
      IsNumber (whole ++ '.' :: (fraction ++ exponent))
  | pointInside {whole fraction exponent : List Char} : (∀ c ∈ whole, c.isDigit = true) →
      IsDigits fraction → IsExponent exponent →
      IsNumber (whole ++ '.' :: (fraction ++ exponent))

/-- **The two grammars of numbers have the same texts.** -/
theorem isNumber_iff : IsNumber cs ↔ IsLiteral cs := by
  constructor
  · intro h
    cases h with
    | whole isDigits isExponent => exact .whole isDigits isExponent
    | pointBehind isDigits fractionDigits isExponent =>
        exact .point isDigits fractionDigits isExponent
    | @pointInside whole fraction exponent wholeDigits isDigits isExponent =>
        cases whole with
        | nil => exact .fraction isDigits isExponent
        | cons c whole => exact .point ⟨List.cons_ne_nil c whole, wholeDigits⟩ isDigits.2 isExponent
  · intro h
    cases h with
    | whole isDigits isExponent => exact .whole isDigits isExponent
    | point isDigits fractionDigits isExponent =>
        exact .pointBehind isDigits fractionDigits isExponent
    | @fraction fraction exponent isDigits isExponent =>
        have noDigits : ∀ c ∈ ([] : List Char), c.isDigit = true := by simp
        exact .pointInside noDigits isDigits isExponent

/-- The first character of a literal. -/
theorem IsLiteral.exists_cons (h : IsLiteral cs) :
    ∃ c rest, cs = c :: rest ∧ (c.isDigit = true ∨ c = '.') := by
  cases h with
  | @whole whole exponent isDigits _ =>
      obtain ⟨c, whole, rfl⟩ := List.exists_cons_of_ne_nil isDigits.1
      exact ⟨c, _, rfl, Or.inl (isDigits.2 c List.mem_cons_self)⟩
  | @point whole fraction exponent isDigits _ _ =>
      obtain ⟨c, whole, rfl⟩ := List.exists_cons_of_ne_nil isDigits.1
      exact ⟨c, _, rfl, Or.inl (isDigits.2 c List.mem_cons_self)⟩
  | fraction isDigits isExponent => exact ⟨'.', _, rfl, Or.inr rfl⟩

/-! ## Signs -/

/-- A text without the sign in front of it. -/
def dropSign : List Char → List Char
  | '+' :: cs => cs
  | '-' :: cs => cs
  | cs => cs

theorem dropSign_of_head {c : Char} (noSign : ¬ (c = '+' ∨ c = '-')) :
    dropSign (c :: rest) = c :: rest := by
  unfold dropSign
  split
  · rename_i same
    exact absurd (Or.inl (List.cons.inj same).1) noSign
  · rename_i same
    exact absurd (Or.inr (List.cons.inj same).1) noSign
  · rfl

/-- A sign in front is one that may be dropped, where no text of the kind begins with one. -/
theorem signed_iff {kind : List Char → Prop}
    (noSign : ∀ sign cs, sign = '+' ∨ sign = '-' → ¬ kind (sign :: cs)) :
    Signed kind cs ↔ kind (dropSign cs) := by
  constructor
  · intro h
    cases h with
    | bare ofKind =>
        cases cs with
        | nil => exact ofKind
        | cons c cs =>
            rw [dropSign_of_head fun isSign => noSign c cs isSign ofKind]
            exact ofKind
    | signed isSign ofKind => rcases isSign with rfl | rfl <;> exact ofKind
  · intro ofKind
    unfold dropSign at ofKind
    split at ofKind
    · exact .signed (Or.inl rfl) ofKind
    · exact .signed (Or.inr rfl) ofKind
    · exact .bare ofKind

theorem not_isLiteral_sign (sign : Char) (cs : List Char) (isSign : sign = '+' ∨ sign = '-') :
    ¬ IsLiteral (sign :: cs) := by
  intro h
  obtain ⟨c, rest, same, start⟩ := h.exists_cons
  obtain ⟨rfl, -⟩ := List.cons.inj same
  rcases isSign with rfl | rfl <;> exact absurd start (by decide)

/-! ## The reader of floats -/

/-- The words for infinity. -/
def infinityWords : List (List Char) := ["inf".toList, "infinity".toList]

/-- The word for what is not a number. -/
def notANumberWord : List Char := "nan".toList

/-- The value of a text without a sign.  Words may be in small or in large letters. -/
def parseUnsigned? (cs : List Char) : Option Float :=
  let word := cs.map Char.toLower
  if word ∈ infinityWords then some (Binary64.ofMagnitude false Binary64.infinity)
  else if word = notANumberWord then some Binary64.notANumber
  else value? cs

/-- The value of a text as a float, and nothing if it is none. -/
def parse? : List Char → Option Float
  | '+' :: cs => parseUnsigned? cs
  | '-' :: cs => (parseUnsigned? cs).map fun x => -x
  | cs => parseUnsigned? cs

/-- The texts without a sign that are floats: the words and the numbers. -/
def IsUnsignedFloat (cs : List Char) : Prop :=
  cs.map Char.toLower ∈ infinityWords ∨ cs.map Char.toLower = notANumberWord ∨ IsNumber cs

theorem isSome_parseUnsigned?_iff : (parseUnsigned? cs).isSome = true ↔ IsUnsignedFloat cs := by
  unfold parseUnsigned? IsUnsignedFloat
  simp only
  split
  · rename_i infinite
    simp [infinite]
  · split
    · rename_i noNumber
      simp [noNumber]
    · rename_i finite number
      rw [isSome_value?_iff, isNumber_iff, or_iff_right finite, or_iff_right number]

theorem not_isUnsignedFloat_sign (sign : Char) (cs : List Char)
    (isSign : sign = '+' ∨ sign = '-') : ¬ IsUnsignedFloat (sign :: cs) := by
  rintro (infinite | noNumber | number)
  · rcases isSign with rfl | rfl <;>
      simp [infinityWords] at infinite
  · rcases isSign with rfl | rfl <;>
      simp [notANumberWord] at noNumber
  · exact not_isLiteral_sign sign cs isSign (isNumber_iff.mp number)

/-- **The reader of floats follows its grammar.** -/
theorem isSome_parse?_iff : (parse? cs).isSome = true ↔ Signed IsUnsignedFloat cs := by
  rw [signed_iff not_isUnsignedFloat_sign, ← isSome_parseUnsigned?_iff]
  unfold parse? dropSign
  split
  · rfl
  · rw [Option.isSome_map]
  · rfl

/-! ## Recognizers -/

/-- What a recognizer finds at the front of a text: something, and what is behind it; or nothing; or
something that makes the text wrong, and then no other recognizer is tried. -/
inductive Reading where
  | behind (rest : List Char)
  | absent
  | wrong
  deriving DecidableEq

abbrev Recognizer := List Char → Reading

namespace Recognizer

/-- One character of a kind. -/
def one (kind : Char → Bool) : Recognizer
  | [] => .absent
  | c :: rest => if kind c then .behind rest else .absent

/-- Digits, as many as there are and at least one. -/
def digits : Recognizer := fun cs =>
  if leadingDigits cs = [] then .absent else .behind (afterDigits cs)

/-- The first and behind it the second. -/
def andThen (first second : Recognizer) : Recognizer := fun cs =>
  match first cs with
  | .behind rest => second rest
  | .absent => .absent
  | .wrong => .wrong

/-- The first, or the second where there is no first. -/
def orElse (first second : Recognizer) : Recognizer := fun cs =>
  match first cs with
  | .absent => second cs
  | found => found

/-- Something that may be left out. -/
def optional (inner : Recognizer) : Recognizer := fun cs =>
  match inner cs with
  | .absent => .behind cs
  | found => found

/-- Something without which the text is wrong. -/
def required (inner : Recognizer) : Recognizer := fun cs =>
  match inner cs with
  | .absent => .wrong
  | found => found

def sign : Recognizer := one fun c => c = '+' ∨ c = '-'

def point : Recognizer := one (· = '.')

def letter : Recognizer := one fun c => c = 'e' ∨ c = 'E'

/-- Digits with or without a point, which may have digits in front of it, behind it or both. -/
def mantissa : Recognizer :=
  (digits.andThen (point.andThen digits.optional).optional).orElse (point.andThen digits)

/-- The exponent of a float.  Once its letter is found there must be digits. -/
def exponent : Recognizer :=
  letter.andThen (sign.optional.andThen digits.required)

/-- A float. -/
def float : Recognizer :=
  sign.optional.andThen (mantissa.andThen exponent.optional)

end Recognizer

/-- The recognizer takes those texts as a whole that are literals, perhaps behind a sign. -/
def TakesFloats (recognize : Recognizer) : Prop :=
  ∀ cs, recognize cs = .behind [] ↔ Signed IsLiteral cs

namespace Recognizer

variable {first second inner : Recognizer}

theorem one_of_kind {kind : Char → Bool} {c : Char} (ofKind : kind c = true) :
    one kind (c :: rest) = .behind rest :=
  if_pos ofKind

theorem one_of_not_kind {kind : Char → Bool} {c : Char} (other : kind c = false) :
    one kind (c :: rest) = .absent :=
  if_neg (ne_true_of_eq_false other)

theorem andThen_of_behind (found : first cs = .behind rest) :
    first.andThen second cs = second rest := by
  simp only [andThen, found]

theorem andThen_of_absent (absent : first cs = .absent) : first.andThen second cs = .absent := by
  simp only [andThen, absent]

theorem orElse_of_behind (found : first cs = .behind rest) :
    first.orElse second cs = .behind rest := by
  simp only [orElse, found]

theorem orElse_of_absent (absent : first cs = .absent) : first.orElse second cs = second cs := by
  simp only [orElse, absent]

theorem optional_of_behind (found : inner cs = .behind rest) : inner.optional cs = .behind rest := by
  simp only [optional, found]

theorem optional_of_absent (absent : inner cs = .absent) : inner.optional cs = .behind cs := by
  simp only [optional, absent]

theorem sign_optional (cs : List Char) : sign.optional cs = .behind (dropSign cs) := by
  cases cs with
  | nil => rfl
  | cons c cs =>
      by_cases isSign : c = '+' ∨ c = '-'
      · rcases isSign with rfl | rfl <;> rfl
      · rw [dropSign_of_head isSign]
        exact optional_of_absent (one_of_not_kind (decide_eq_false isSign))

/-! ## Digits -/

theorem digits_of_none (none : leadingDigits cs = []) : digits cs = .absent :=
  if_pos none

theorem digits_of_some (some : leadingDigits cs ≠ []) : digits cs = .behind (afterDigits cs) :=
  if_neg some

theorem afterDigits_eq_self (none : leadingDigits cs = []) : afterDigits cs = cs := by
  have parts : leadingDigits cs ++ afterDigits cs = cs := List.takeWhile_append_dropWhile
  rwa [none, List.nil_append] at parts

theorem digits_optional (cs : List Char) : digits.optional cs = .behind (afterDigits cs) := by
  by_cases none : leadingDigits cs = []
  · rw [optional_of_absent (digits_of_none none), afterDigits_eq_self none]
  · exact optional_of_behind (digits_of_some none)

theorem digits_eq_nil_iff : digits cs = .behind [] ↔ IsDigits cs := by
  unfold digits
  constructor
  · intro h
    split at h
    · exact absurd h (by simp)
    · rename_i some
      have parts : leadingDigits cs ++ afterDigits cs = cs := List.takeWhile_append_dropWhile
      rw [Reading.behind.inj h, List.append_nil] at parts
      rw [← parts]
      exact ⟨some, fun c mem => isDigit_of_mem_leadingDigits mem⟩
  · intro isDigits
    have all : leadingDigits (cs ++ []) = cs := leadingDigits_append isDigits.2 rfl
    have none : afterDigits (cs ++ []) = [] := afterDigits_append isDigits.2 rfl
    rw [List.append_nil] at all none
    rw [all, none, if_neg isDigits.1]

theorem digits_required_eq_nil_iff : digits.required cs = .behind [] ↔ IsDigits cs := by
  rw [← digits_eq_nil_iff, required]
  split
  · rename_i none
    simp [none]
  · rfl

theorem digits_required_ne_absent : digits.required cs ≠ .absent := by
  unfold required
  split
  · simp
  · rename_i found
    exact found

/-! ## Exponents -/

theorem isExponent_cons_iff {letter : Char} :
    IsExponent (letter :: cs) ↔ (letter = 'e' ∨ letter = 'E') ∧ Signed IsDigits cs := by
  constructor
  · intro h
    cases h with
    | unsigned isLetter isDigits => exact ⟨isLetter, .bare isDigits⟩
    | signed isLetter isSign isDigits => exact ⟨isLetter, .signed isSign isDigits⟩
  · rintro ⟨isLetter, h⟩
    cases h with
    | bare isDigits => exact .unsigned isLetter isDigits
    | signed isSign isDigits => exact .signed isLetter isSign isDigits

/-- **An exponent that may be left out** takes a text as a whole if that is an exponent or nothing. -/
theorem exponent_optional_eq_nil_iff : exponent.optional cs = .behind [] ↔ IsExponent cs := by
  cases cs with
  | nil => exact iff_of_true rfl .none
  | cons c cs =>
      rw [isExponent_cons_iff, signed_iff fun sign cs isSign => not_isDigits_sign isSign]
      by_cases isLetter : c = 'e' ∨ c = 'E'
      · have found : letter (c :: cs) = .behind cs := one_of_kind (decide_eq_true isLetter)
        have taken : exponent (c :: cs) = digits.required (dropSign cs) := by
          rw [exponent, andThen_of_behind found, andThen_of_behind (sign_optional cs)]
        rw [and_iff_right isLetter, ← digits_required_eq_nil_iff, optional, taken]
        split
        · rename_i absent
          exact absurd absent digits_required_ne_absent
        · rfl
      · have absent : exponent (c :: cs) = .absent :=
          andThen_of_absent (one_of_not_kind (decide_eq_false isLetter))
        rw [optional_of_absent absent]
        simp [isLetter]

/-! ## Floats -/

/-- What is behind a point and the digits that follow it, if there is a point. -/
def afterFraction : List Char → List Char
  | '.' :: rest => afterDigits rest
  | rest => rest

theorem afterFraction_of_ne (noPoint : ∀ rest, cs ≠ '.' :: rest) : afterFraction cs = cs := by
  unfold afterFraction
  split
  · exact absurd rfl (noPoint _)
  · rfl

theorem point_of_ne {c : Char} (other : c ≠ '.') : point (c :: rest) = .absent :=
  one_of_not_kind (decide_eq_false other)

theorem fraction_optional (cs : List Char) :
    (point.andThen digits.optional).optional cs = .behind (afterFraction cs) := by
  cases cs with
  | nil => rfl
  | cons c cs =>
      by_cases isPoint : c = '.'
      · obtain rfl := isPoint
        have found : point ('.' :: cs) = .behind cs := rfl
        exact optional_of_behind ((andThen_of_behind found).trans (digits_optional cs))
      · rw [afterFraction_of_ne fun rest same => isPoint (List.cons.inj same).1]
        exact optional_of_absent (andThen_of_absent (point_of_ne isPoint))

theorem mantissa_of_digits (some : leadingDigits cs ≠ []) :
    mantissa cs = .behind (afterFraction (afterDigits cs)) := by
  apply orElse_of_behind
  rw [andThen_of_behind (digits_of_some some), fraction_optional]

theorem mantissa_of_no_digits (none : leadingDigits cs = []) :
    mantissa cs = point.andThen digits cs :=
  orElse_of_absent (andThen_of_absent (digits_of_none none))

theorem isSome_read?_of_digits (some : leadingDigits cs ≠ []) :
    (read? cs).isSome = true ↔ IsExponent (afterFraction (afterDigits cs)) := by
  unfold read?
  simp only [some, false_and, if_false]
  generalize afterDigits cs = behind
  split
  · rw [Option.isSome_map, isSome_exponent?_iff]
    rfl
  · rename_i noPoint
    rw [afterFraction_of_ne noPoint, Option.isSome_map, isSome_exponent?_iff]

theorem isSome_read?_of_point :
    (read? ('.' :: rest)).isSome = true
      ↔ leadingDigits rest ≠ [] ∧ IsExponent (afterDigits rest) := by
  unfold read?
  simp only [leadingDigits_point, afterDigits_eq_self leadingDigits_point, true_and]
  split
  · rename_i noFraction
    simp [noFraction]
  · rename_i some
    rw [Option.isSome_map, isSome_exponent?_iff, and_iff_right some]

/-- **Without a sign the recognizer takes literals as a whole, and nothing else.** -/
theorem unsigned_eq_nil_iff :
    mantissa.andThen exponent.optional cs = .behind [] ↔ IsLiteral cs := by
  by_cases some : leadingDigits cs ≠ []
  · rw [andThen_of_behind (mantissa_of_digits some), exponent_optional_eq_nil_iff,
      ← isSome_read?_of_digits some, isSome_read?_iff]
  · have none : leadingDigits cs = [] := Decidable.not_not.mp some
    by_cases isPoint : ∃ rest, cs = '.' :: rest
    · obtain ⟨rest, rfl⟩ := isPoint
      have found : point ('.' :: rest) = .behind rest := rfl
      have after : mantissa ('.' :: rest) = digits rest :=
        (mantissa_of_no_digits none).trans (andThen_of_behind found)
      rw [← isSome_read?_iff, isSome_read?_of_point]
      by_cases noFraction : leadingDigits rest = []
      · rw [andThen_of_absent (after.trans (digits_of_none noFraction))]
        simp [noFraction]
      · rw [andThen_of_behind (after.trans (digits_of_some noFraction)),
          exponent_optional_eq_nil_iff, and_iff_right noFraction]
    · -- neither digits nor a point
      have absent : mantissa cs = .absent := by
        rw [mantissa_of_no_digits none]
        cases cs with
        | nil => rfl
        | cons c rest =>
            have other : c ≠ '.' := fun same => isPoint ⟨rest, same ▸ rfl⟩
            exact andThen_of_absent (point_of_ne other)
      rw [andThen_of_absent absent]
      refine iff_of_false (by simp) ?_
      intro literal
      obtain ⟨c, rest, rfl, digit | rfl⟩ := literal.exists_cons
      · exact absurd none (by simp [leadingDigits, digit])
      · exact isPoint ⟨rest, rfl⟩

/-- **The recognizer follows its grammar.** -/
theorem takesFloats_float : TakesFloats float := by
  intro cs
  rw [signed_iff not_isLiteral_sign, ← unsigned_eq_nil_iff, float,
    andThen_of_behind (sign_optional cs)]

end Recognizer

/-! ## Both readers on one word -/

/-- Whether a text begins with a digit or with a point. -/
def beginsNumber : List Char → Bool
  | [] => false
  | c :: _ => c.isDigit || c = '.'

/-- The value of a word that begins like a number and is taken by the recognizer as a whole, if the
reader of floats has one. -/
def number? (recognize : Recognizer) (cs : List Char) : Option Float :=
  if beginsNumber cs = true ∧ recognize cs = .behind [] then parse? cs else none

theorem beginsNumber_cons {c : Char} :
    beginsNumber (c :: rest) = true ↔ c.isDigit = true ∨ c = '.' := by
  simp [beginsNumber]

theorem IsLiteral.beginsNumber (h : IsLiteral cs) : beginsNumber cs = true := by
  obtain ⟨c, rest, rfl, start⟩ := h.exists_cons
  exact beginsNumber_cons.mpr start

/-- What begins like a number has no sign. -/
theorem dropSign_of_beginsNumber (begins : beginsNumber cs = true) : dropSign cs = cs := by
  cases cs with
  | nil => rfl
  | cons c rest =>
      apply dropSign_of_head
      rintro (rfl | rfl) <;> exact absurd (beginsNumber_cons.mp begins) (by decide)

theorem toLower_of_isDigit {c : Char} (digit : c.isDigit = true) : c.toLower = c := by
  unfold Char.toLower
  rw [dif_neg]
  rintro ⟨fromLetter, -⟩
  simp only [Char.isDigit, Bool.and_eq_true, decide_eq_true_eq, ge_iff_le,
    UInt32.le_iff_toNat_le] at digit fromLetter
  have := Nat.le_trans fromLetter digit.2
  exact absurd this (by decide)

theorem parseUnsigned?_of_beginsNumber (begins : beginsNumber cs = true) :
    parseUnsigned? cs = value? cs := by
  cases cs with
  | nil => exact absurd begins (by decide)
  | cons c rest =>
      have start := beginsNumber_cons.mp begins
      have same : c.toLower = c := by
        rcases start with digit | rfl
        · exact toLower_of_isDigit digit
        · rfl
      -- all words begin with one of these two letters
      have noI : c ≠ 'i' := by
        rintro rfl
        exact absurd start (by decide)
      have noN : c ≠ 'n' := by
        rintro rfl
        exact absurd start (by decide)
      unfold parseUnsigned?
      simp [same, infinityWords, notANumberWord, noI, noN]

/-- What begins like a number is none of the words of the reader of floats. -/
theorem parse?_of_beginsNumber (begins : beginsNumber cs = true) : parse? cs = value? cs := by
  have noSign := dropSign_of_beginsNumber begins
  unfold parse?
  split
  · exact absurd noSign (List.cons_ne_self _ _).symm
  · exact absurd noSign (List.cons_ne_self _ _).symm
  · exact parseUnsigned?_of_beginsNumber begins

/-- What begins like a number and is taken as a whole is a literal. -/
theorem isLiteral_of_recognized {recognize : Recognizer} (takes : TakesFloats recognize)
    (begins : beginsNumber cs = true) (recognized : recognize cs = .behind []) : IsLiteral cs := by
  have unsigned := (signed_iff not_isLiteral_sign).mp ((takes cs).mp recognized)
  rwa [dropSign_of_beginsNumber begins] at unsigned

/-- **Both readers together are the reader of literals.** -/
theorem number?_eq_value? {recognize : Recognizer} (takes : TakesFloats recognize)
    (cs : List Char) : number? recognize cs = value? cs := by
  unfold number?
  by_cases literal : IsLiteral cs
  · have recognized : recognize cs = .behind [] := (takes cs).mpr (.bare literal)
    rw [if_pos ⟨literal.beginsNumber, recognized⟩, parse?_of_beginsNumber literal.beginsNumber]
  · rw [value?_eq_none_iff.mpr literal, if_neg]
    rintro ⟨begins, recognized⟩
    exact literal (isLiteral_of_recognized takes begins recognized)

end Calculator.Literal
