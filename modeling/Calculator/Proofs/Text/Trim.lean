/-
# Calculator.Proofs.Text.Trim — what a line loses at its ends

A line is looked at without the blanks at its two ends.  What is left has no blank at either end, so
dropping them twice is dropping them once (`trim_trim`).  And a scan does not see them: a blank leaves
nothing behind wherever it stands, so the line with its blanks and the line without them have the same
tokens, whatever the separators are (`tokens_trim`).
-/

import Calculator.Interpret
import Calculator.Proofs.Token.Greedy
import Mathlib.Data.List.DropRight

namespace Calculator

namespace Text

/-! ## Blanks at the ends -/

theorem trimChars_eq (cs : List Char) :
    trimChars cs = (cs.dropWhile isBlank).rdropWhile isBlank := rfl

/-- What does not begin with a blank does not begin with one when it has lost those at its end. -/
theorem dropWhile_rdropWhile {cs : List Char} (first : cs.dropWhile isBlank = cs) :
    (cs.rdropWhile isBlank).dropWhile isBlank = cs.rdropWhile isBlank := by
  have start : cs.rdropWhile isBlank <+: cs := List.rdropWhile_prefix isBlank cs
  rw [List.dropWhile_eq_self_iff] at first ⊢
  intro some
  rw [start.getElem some]
  exact first (some.trans_le start.length_le)

theorem trimChars_trimChars (cs : List Char) : trimChars (trimChars cs) = trimChars cs := by
  have front : (cs.dropWhile isBlank).dropWhile isBlank = cs.dropWhile isBlank :=
    List.dropWhile_idempotent isBlank cs
  rw [trimChars_eq, trimChars_eq, dropWhile_rdropWhile front, List.rdropWhile_idempotent]

theorem trimChars_concat {cs : List Char} {c : Char} (blank : isBlank c = true) :
    trimChars (cs ++ [c]) = trimChars cs := by
  have alone : [c].dropWhile isBlank = [] := List.dropWhile_cons_of_pos blank
  rw [trimChars_eq, trimChars_eq, List.dropWhile_append, alone]
  split
  · rename_i blanks
    rw [List.isEmpty_iff.mp blanks]
  · rw [List.rdropWhile_concat_pos _ _ _ blank]

/-- **A text that has lost the blanks at its ends has no more to lose.** -/
theorem trim_trim (text : String) : trim (trim text) = trim text := by
  have same := trimChars_trimChars text.toList
  unfold trim
  rw [String.toList_ofList, same]

end Text

/-! ## Blanks and tokens -/

namespace Separators

variable {separators : Separators}

theorem pieces_of_blanks {cs : List Char} (blanks : ∀ c ∈ cs, Text.isBlank c = true) :
    separators.pieces cs = [] := by
  induction cs with
  | nil => rfl
  | cons c cs ih =>
      obtain ⟨blank, others⟩ := List.forall_mem_cons.mp blanks
      rw [pieces_cons_blank blank, ih others]

/-- Blanks at the end of a text change nothing. -/
theorem pieces_append_blanks (cs : List Char) {blanks : List Char}
    (h : ∀ c ∈ blanks, Text.isBlank c = true) :
    separators.pieces (cs ++ blanks) = separators.pieces cs := by
  cases blanks with
  | nil => rw [List.append_nil]
  | cons c blanks =>
      obtain ⟨blank, others⟩ := List.forall_mem_cons.mp h
      rw [pieces_append_blank blank, pieces_of_blanks others, List.append_nil]

theorem pieces_rdropWhile_isBlank (cs : List Char) :
    separators.pieces (cs.rdropWhile Text.isBlank) = separators.pieces cs := by
  have blanks : ∀ c ∈ cs.rtakeWhile Text.isBlank, Text.isBlank c = true := by
    intro c mem
    exact List.mem_rtakeWhile_imp mem
  rw [← pieces_append_blanks _ blanks, List.rdropWhile_append_rtakeWhile]

/-- **A line has the tokens that it has without the blanks at its ends.** -/
theorem tokens_trim (text : String) : separators.tokens (Text.trim text) = separators.tokens text := by
  rw [tokens_eq_pieces, tokens_eq_pieces, Text.toList_trim, Text.trimChars_eq,
    pieces_rdropWhile_isBlank, pieces_dropWhile_isBlank]

theorem parse_trim (text : String) : separators.parse (Text.trim text) = separators.parse text := by
  rw [parse, parse, tokens_trim]

/-- So it has the same value, and leaves the same environment. -/
theorem interpret_trim (text : String) (env : Environment) :
    separators.interpret (Text.trim text) env = separators.interpret text env := by
  rw [interpret, interpret, parse_trim]

end Separators

end Calculator
