/-
# Calculator.Proofs.Text.Delimited — parts of a text that end where they must

A part of a text that is written with certain characters only, and is followed by one that is not
among them, ends there: whoever reads the text knows the part, the character behind it and the rest
(`eq_of_append_delimiter`).  Numbers are such parts, and so are names that can be typed.  A letter
ends no name and may belong to a number; brackets, quotes, colons and commas end both.
-/

import Calculator.Name
import Calculator.Proofs.Number.Shown

namespace Calculator

/-- **A part ends at the first character that cannot be in it**, so two equal texts that begin with
such parts begin with the same part. -/
theorem Text.eq_of_append_delimiter {inside : Char → Prop} {xs ys r s : List Char} {c d : Char}
    (insideX : ∀ x ∈ xs, inside x) (insideY : ∀ y ∈ ys, inside y) (endX : ¬ inside c)
    (endY : ¬ inside d) (h : xs ++ c :: r = ys ++ d :: s) : xs = ys ∧ c = d ∧ r = s := by
  induction xs generalizing ys with
  | nil =>
      cases ys with
      | nil => exact ⟨rfl, List.cons.inj h⟩
      | cons y ys =>
          obtain ⟨rfl, -⟩ := List.cons.inj h
          exact absurd (insideY c List.mem_cons_self) endX
  | cons x xs ih =>
      cases ys with
      | nil =>
          obtain ⟨rfl, -⟩ := List.cons.inj h
          exact absurd (insideX x List.mem_cons_self) endY
      | cons y ys =>
          obtain ⟨rfl, behind⟩ := List.cons.inj h
          obtain ⟨rfl, ends⟩ := ih (List.forall_mem_cons.mp insideX).2
            (List.forall_mem_cons.mp insideY).2 behind
          exact ⟨rfl, ends⟩

variable {c d : Char} {r s : List Char}

/-- The text of a number ends at the first character that no number is shown with. -/
theorem Binary64.eq_of_chars_append {x y : Float} (endX : ¬ IsShown c) (endY : ¬ IsShown d)
    (h : chars x ++ c :: r = chars y ++ d :: s) : x = y ∧ c = d ∧ r = s := by
  obtain ⟨same, ends⟩ := Text.eq_of_append_delimiter (fun _ => isShown_of_mem_chars)
    (fun _ => isShown_of_mem_chars) endX endY h
  exact ⟨chars_injective same, ends⟩

/-- A name that can be typed ends at the first character that is no letter. -/
theorem Name.eq_of_toList_append {m n : Name} (validM : isValid m.text = true)
    (validN : isValid n.text = true) (endM : c.isAlpha = false) (endN : d.isAlpha = false)
    (h : m.text.toList ++ c :: r = n.text.toList ++ d :: s) : m = n ∧ c = d ∧ r = s := by
  obtain ⟨same, ends⟩ := Text.eq_of_append_delimiter (isValid_iff.mp validM).2
    (isValid_iff.mp validN).2 (ne_true_of_eq_false endM) (ne_true_of_eq_false endN) h
  cases m; cases n
  exact ⟨congrArg Name.mk (String.toList_inj.mp same), ends⟩

end Calculator
