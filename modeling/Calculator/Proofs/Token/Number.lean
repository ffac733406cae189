/-
# Calculator.Proofs.Token.Number — which words are numbers, and where they stand

The tokens of a text stand in it one behind the other: the text may be cut around each of them, and the
tokens in front of it and behind it are the tokens of the two parts that remain (`exists_part`).  So a
number among them is the value of a literal that stands in the text, and this literal has no separators
in it.  With the two signs as separators it has no signed exponent.

The words that are numbers have one grammar, by whichever of the readers they are told, and no name
belongs to it (`number_test_exact`).
-/

import Calculator.Proofs.Expr.Source
import Calculator.Proofs.Number.ReadBack
import Calculator.Proofs.Number.Recognizer
import Calculator.Proofs.Token.Greedy

namespace Calculator

/-! ## Where a token stands -/

namespace Separators

variable {separators : Separators}

/-- The part of a text that a token comes from: its separator, or its run. -/
inductive ComesFrom (separators : Separators) : List Char → Token → Prop
  | symbol {c : Char} : Text.isBlank c = false → separators.contains c = true →
      ComesFrom separators [c] (.symbol c)
  | run {run : List Char} : run ≠ [] → (∀ c ∈ run, separators.IsPlain c) →
      ComesFrom separators run (.ofRun run)

/-- The part at the front of a text gives one token or none, in front of all that is behind it and in
front of a part of that. -/
theorem exists_firstPart (separators : Separators) (c : Char) (cs : List Char) :
    ∃ (part rest : List Char) (token? : Option Token),
      c :: cs = part ++ rest ∧ rest.length < (c :: cs).length
      ∧ (∀ front, front <+: rest →
          separators.pieces (part ++ front) = token?.toList ++ separators.pieces front)
      ∧ ∀ token ∈ token?, separators.ComesFrom part token := by
  cases blank : Text.isBlank c with
  | true =>
      refine ⟨[c], cs, none, rfl, Nat.lt_succ_self _, fun front _ => ?_, by simp⟩
      exact pieces_cons_blank blank front
  | false =>
      cases separates : separators.contains c with
      | true =>
          refine ⟨[c], cs, some (.symbol c), rfl, Nat.lt_succ_self _, fun front _ => ?_, ?_⟩
          · exact pieces_cons_separator blank separates front
          · rintro _ ⟨⟩
            exact .symbol blank separates
      | false =>
          have plain : separators.IsPlain c := ⟨blank, separates⟩
          refine ⟨c :: cs.takeWhile separators.joins, cs.dropWhile separators.joins,
            some (.ofRun (c :: cs.takeWhile separators.joins)), ?_, ?_, fun front inRest => ?_, ?_⟩
          · rw [List.cons_append, List.takeWhile_append_dropWhile]
          · exact Nat.lt_succ_of_le (List.dropWhile_suffix _).length_le
          · exact pieces_longestRun_append plain inRest
          · rintro _ ⟨⟩
            refine .run (List.cons_ne_nil _ _) (List.forall_mem_cons.mpr ⟨plain, ?_⟩)
            intro d mem
            exact joins_iff.mp (List.all_eq_true.mp List.all_takeWhile d mem)

/-- **A text may be cut around each of its tokens.** -/
theorem exists_part {cs : List Char} {before behind : List Token} {token : Token}
    (h : separators.pieces cs = before ++ token :: behind) :
    ∃ front part back, cs = front ++ part ++ back ∧ separators.pieces front = before
      ∧ separators.pieces back = behind ∧ separators.ComesFrom part token := by
  -- the first part gives the token, or it goes in front of what the parts behind it are cut into
  induction size : cs.length using Nat.strong_induction_on generalizing cs before with
  | _ length ih =>
    cases cs with
    | nil => exact absurd h (by simp)
    | cons c cs =>
        obtain ⟨first, rest, token?, whole, shorter, cut, comes⟩ :=
          separators.exists_firstPart c cs
        rw [whole, cut rest (List.prefix_refl rest)] at h
        have ofRest : ∀ before', before = token?.toList ++ before' →
            separators.pieces rest = before' ++ token :: behind →
            ∃ front part back, c :: cs = front ++ part ++ back ∧ separators.pieces front = before
              ∧ separators.pieces back = behind ∧ separators.ComesFrom part token := by
          intro before' split later
          obtain ⟨front, part, back, rfl, inFront, inBack, comesFrom⟩ :=
            ih _ (size ▸ shorter) later rfl
          refine ⟨first ++ front, part, back, ?_, ?_, inBack, comesFrom⟩
          · rw [whole]
            simp only [List.append_assoc]
          · rw [cut front ⟨part ++ back, (List.append_assoc ..).symm⟩, inFront, split]
        cases token? with
        | none => exact ofRest before rfl h
        | some found =>
            cases before with
            | nil =>
                obtain ⟨rfl, rfl⟩ := List.cons.inj h
                exact ⟨[], first, rest, whole, rfl, rfl, comes found rfl⟩
            | cons start before =>
                obtain ⟨rfl, later⟩ := List.cons.inj h
                exact ofRest before rfl later

/-- **A number comes from a literal in the text**, and this literal has no separators in it. -/
theorem exists_literal {text : String} {before behind : List Token} {value : Float}
    (h : separators.tokens text = before ++ .number value :: behind) :
    ∃ front literal back : String, text = front ++ literal ++ back
      ∧ separators.tokens front = before ∧ separators.tokens back = behind
      ∧ Literal.value? literal.toList = some value ∧ ∀ c ∈ literal.toList, c ∉ separators := by
  obtain ⟨front, part, back, whole, inFront, inBack, comes⟩ := exists_part h
  refine ⟨String.ofList front, String.ofList part, String.ofList back, ?_, ?_, ?_, ?_⟩
  · rw [← String.ofList_toList (s := text), whole, String.ofList_append, String.ofList_append]
  · rw [tokens_eq_pieces, String.toList_ofList, inFront]
  · rw [tokens_eq_pieces, String.toList_ofList, inBack]
  · rw [String.toList_ofList]
    generalize same : Token.number value = token at comes
    cases comes with
    | symbol visible separates => exact absurd same (by simp)
    | run some plain =>
        refine ⟨value?_of_ofRun_eq_number same.symm, fun c mem separates => ?_⟩
        exact Bool.false_ne_true ((plain c mem).2.symm.trans (contains_iff.mpr separates))

end Separators

/-! ## Which words are numbers -/

/-- No name that can be typed is a literal. -/
theorem Literal.IsLiteral.isValid_eq_false {cs : List Char} (h : Literal.IsLiteral cs) :
    Name.isValid (String.ofList cs) = false := by
  apply eq_false_of_ne_true
  intro valid
  obtain ⟨c, rest, rfl, start⟩ := h.exists_cons
  obtain ⟨-, letters⟩ := Name.isValid_iff.mp valid
  rw [String.toList_ofList] at letters
  have letter := letters c List.mem_cons_self
  rcases start with digit | rfl
  · exact absurd (Separators.isDigit_eq_false_of_isAlpha letter) (ne_false_of_eq_true digit)
  · exact absurd letter (by decide)

open Literal in
/-- **The test for numbers is one grammar.**  Take any recognizer that follows the grammar of floats, as
the one does that is put together here, and the reader of floats, which follows its own.  The words that
begin with a digit or a point, are taken as a whole and have a value are the literals, with the values
of literals.  Whatever is begun and taken like that has a value and becomes a number.  No value is
without being a number or has a sign, and no literal is a name.  If the two signs are separators then
each number of a text comes from a literal in it without a sign. -/
theorem number_test_exact :
    TakesFloats Recognizer.float
    ∧ (∀ word, (parse? word).isSome = true ↔ Signed IsUnsignedFloat word)
    ∧ (∀ recognize, TakesFloats recognize → ∀ word,
        number? recognize word = value? word
        ∧ ((number? recognize word).isSome = true ↔ IsLiteral word)
        ∧ (beginsNumber word = true → recognize word = .behind [] →
            ∃ value, parse? word = some value ∧ Token.ofRun word = .number value))
    ∧ (∀ word value, value? word = some value →
        value.isNaN = false ∧ Binary64.isNegative value = false)
    ∧ (∀ word, IsLiteral word → Name.isValid (String.ofList word) = false)
    ∧ ∀ separators : Separators, '+' ∈ separators → '-' ∈ separators →
        ∀ text before value behind, separators.tokens text = before ++ .number value :: behind →
        ∃ front literal back, text = front ++ literal ++ back
          ∧ separators.tokens front = before ∧ separators.tokens back = behind
          ∧ value? literal.toList = some value ∧ '+' ∉ literal.toList ∧ '-' ∉ literal.toList := by
  refine ⟨Recognizer.takesFloats_float, fun word => isSome_parse?_iff, ?_, ?_,
    fun word literal => literal.isValid_eq_false, ?_⟩
  · intro recognize takes word
    have same := number?_eq_value? takes word
    refine ⟨same, by rw [same, isSome_value?_iff], ?_⟩
    intro begins recognized
    have literal : IsLiteral word := isLiteral_of_recognized takes begins recognized
    obtain ⟨value, reads, token⟩ := Separators.ofRun_of_isLiteral literal
    exact ⟨value, (parse?_of_beginsNumber begins).trans reads, token⟩
  · intro word value reads
    obtain ⟨positive, bound⟩ := Binary64.value?_bounds reads
    exact ⟨Binary64.isNaN_eq_false bound, positive⟩
  · intro separators plus minus text before value behind h
    obtain ⟨front, literal, back, whole, inFront, inBack, reads, free⟩ :=
      Separators.exists_literal h
    exact ⟨front, literal, back, whole, inFront, inBack, reads, fun mem => free _ mem plus,
      fun mem => free _ mem minus⟩

open Literal in
/-- A word with a point, no digits behind it and a signed exponent is a number, and it is no number where
the sign is a separator. -/
theorem number_test_exact_signed_exponent :
    let word := "1.e-5".toList
    beginsNumber word = true ∧ Recognizer.float word = .behind []
      ∧ (∃ value, parse? word = some value ∧ Token.ofRun word = .number value
        ∧ value.isNaN = false ∧ Binary64.isNegative value = false)
      ∧ Recognizer.float "1.e".toList = .wrong ∧ number? Recognizer.float "1.e".toList = none
      ∧ Name.isValid (String.ofList word) = false
      ∧ Separators.standard.tokens "1.e-5" = [.word "1.e", .symbol '-'] ++ .number 5 :: []
      ∧ ∃ front literal back : String, "1.e-5" = front ++ literal ++ back
        ∧ Separators.standard.tokens front = [.word "1.e", .symbol '-']
        ∧ value? literal.toList = some 5 ∧ '-' ∉ literal.toList := by
  intro word
  obtain ⟨takes, -, test, bounds, noName, places⟩ := number_test_exact
  have begins : beginsNumber word = true := by decide
  have recognized : Recognizer.float word = .behind [] := by decide +kernel
  have literal : IsLiteral word := by decide +kernel
  obtain ⟨-, -, agree⟩ := test Recognizer.float takes word
  obtain ⟨value, reads, token⟩ := agree begins recognized
  have ofLiteral : value? word = some value := Separators.value?_of_ofRun_eq_number token
  obtain ⟨number, positive⟩ := bounds word value ofLiteral
  obtain ⟨broken, -, -⟩ := test Recognizer.float takes "1.e".toList
  have tokens : Separators.standard.tokens "1.e-5"
      = [.word "1.e", .symbol '-'] ++ .number 5 :: [] := by decide +kernel
  obtain ⟨front, found, back, whole, inFront, -, readsFound, -, noMinus⟩ :=
    places .standard (by decide) (by decide) "1.e-5" _ _ _ tokens
  refine ⟨begins, recognized, ⟨value, reads, token, number, positive⟩, by decide +kernel, ?_,
    noName word literal, tokens, front, found, back, whole, inFront, readsFound, noMinus⟩
  rw [broken]
  decide +kernel

end Calculator
