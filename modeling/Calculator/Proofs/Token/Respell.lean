/-
# Calculator.Proofs.Token.Respell — tokens written out and scanned again

A scan gives only tokens that are whole under its own separators: a symbol is a visible separator, a
word is a run that is no literal, and a number has the value of a literal, so it has no sign.  The
text of such a token stays one piece and is the token again (`Scanned.pieces_text`), and a blank
between two texts is enough to keep them apart.  So the tokens of any text, written with blanks
between them, have the same tokens (`tokens_intercalate_text`).

Two things are asked for, and both are about numbers.  Digits and the point must not separate, or the
text of a number falls apart.  And no number may be infinite, since infinity is shown as a word.
-/

import Calculator.Proofs.Token.Widen

namespace Calculator.Separators

variable {separators : Separators}

/-! ## One token -/

/-- The text of a token of a scan is one piece, the token. -/
theorem Scanned.pieces_text (digits : ∀ c ∈ separators, c.isDigit = false)
    (point : '.' ∉ separators) {token : Token} (scanned : separators.Scanned token)
    (finite : ∀ value, token = .number value → Binary64.magnitude value ≠ Binary64.infinity) :
    separators.pieces token.text.toList = [token] := by
  cases scanned with
  | @symbol c visible separates =>
      -- the separator is cut from nothing on either side
      have cut := pieces_append_separator visible separates [] []
      rw [Token.text, String.toList_singleton]
      exact cut
  | @run run some plain =>
      cases token : Token.ofRun run with
      | number value =>
          have literal := value?_of_ofRun_eq_number token
          obtain ⟨sign, bound⟩ := Binary64.value?_bounds literal
          exact pieces_number digits point sign (bound.lt_of_ne (finite value token))
      | word text =>
          have same := eq_of_ofRun_eq_word token
          rw [Token.text, ← same, pieces_of_plain some plain, token]
      | symbol c => exact absurd token (ofRun_ne_symbol run c)

/-! ## All tokens of a text -/

/-- Texts that are one piece each, written with blanks between them, give their tokens. -/
theorem pieces_intercalate_text {tokens : List Token}
    (whole : ∀ token ∈ tokens, separators.pieces token.text.toList = [token]) :
    separators.pieces (" ".intercalate (tokens.map Token.text)).toList = tokens := by
  induction tokens with
  | nil => rfl
  | cons first rest ih =>
      obtain ⟨firstWhole, restWhole⟩ := List.forall_mem_cons.mp whole
      cases rest with
      | nil => simpa using firstWhole
      | cons second rest =>
          have blank : Text.isBlank ' ' = true := by decide
          have cut := @pieces_append_blank separators ' ' blank first.text.toList
            (" ".intercalate ((second :: rest).map Token.text)).toList
          rw [firstWhole, ih restWhole] at cut
          simpa using cut

/-- **Tokens written out and scanned again are the same tokens**, for every text, if no digit and no
point separates and no number is infinite. -/
theorem tokens_intercalate_text (digits : ∀ c ∈ separators, c.isDigit = false)
    (point : '.' ∉ separators) {text : String}
    (finite : ∀ value, .number value ∈ separators.tokens text →
      Binary64.magnitude value ≠ Binary64.infinity) :
    separators.tokens (" ".intercalate ((separators.tokens text).map Token.text))
      = separators.tokens text := by
  rw [tokens_eq_pieces (" ".intercalate _)]
  apply pieces_intercalate_text
  intro token mem
  apply (scanned_of_mem_tokens mem).pieces_text digits point
  rintro value rfl
  exact finite value mem

/-- A text that is no expression, under separators of which one is a letter and one a blank: the number
loses its zeros and the tab becomes a blank, but the tokens stay. -/
theorem tokens_intercalate_text_malformed :
    (Separators.ofString ";x ").tokens "01.50;\tmax 1e ."
        = [.number 1.5, .symbol ';', .word "ma", .symbol 'x', .word "1e", .word "."]
      ∧ (Separators.ofString ";x ").tokens "1.5 ; ma x 1e ."
        = [.number 1.5, .symbol ';', .word "ma", .symbol 'x', .word "1e", .word "."] := by
  have tokens : (Separators.ofString ";x ").tokens "01.50;\tmax 1e ."
      = [.number 1.5, .symbol ';', .word "ma", .symbol 'x', .word "1e", .word "."] := by
    decide +kernel
  have digits : ∀ c ∈ Separators.ofString ";x ", c.isDigit = false := by
    show ∀ c ∈ [';', 'x', ' '], c.isDigit = false
    simp
  have again := @tokens_intercalate_text (Separators.ofString ";x ") digits (by decide)
    "01.50;\tmax 1e ." (by rw [tokens]; simpa using (by decide +kernel))
  have written : " ".intercalate (((Separators.ofString ";x ").tokens "01.50;\tmax 1e .").map
      Token.text) = "1.5 ; ma x 1e ." := by
    rw [tokens]
    decide +kernel
  rw [written, tokens] at again
  exact ⟨tokens, again⟩

end Calculator.Separators
