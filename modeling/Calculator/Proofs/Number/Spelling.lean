/-
# Calculator.Proofs.Number.Spelling — the characters that literals are written with

A text that has a value as a literal is written with digits, the point, the letter of an exponent and
its sign, and with nothing else.  In particular no operator but the two signs ever stands in one.
-/

import Calculator.Number.Literal

namespace Calculator.Literal

/-- The characters of literals. -/
def IsSpelling (c : Char) : Prop :=
  c.isDigit = true ∨ c ∈ ['.', 'e', 'E', '+', '-']

theorem isSpelling_of_exponentDigits? {cs : List Char} {n : Nat} (h : exponentDigits? cs = some n) :
    ∀ c ∈ cs, IsSpelling c := by
  intro c mem
  unfold exponentDigits? at h
  split at h
  · rename_i digits
    exact Or.inl (List.all_eq_true.mp digits.2 c mem)
  · exact absurd h (by simp)

theorem isSpelling_of_signedExponent? {cs : List Char} {n : Int} (h : signedExponent? cs = some n) :
    ∀ c ∈ cs, IsSpelling c := by
  unfold signedExponent? at h
  split at h
  · obtain ⟨m, counted, -⟩ := Option.map_eq_some_iff.mp h
    obtain ⟨k, digits, -⟩ := Option.bind_eq_some_iff.mp counted
    exact List.forall_mem_cons.mpr ⟨Or.inr (by simp), isSpelling_of_exponentDigits? digits⟩
  · obtain ⟨m, digits, -⟩ := Option.map_eq_some_iff.mp h
    exact List.forall_mem_cons.mpr ⟨Or.inr (by simp), isSpelling_of_exponentDigits? digits⟩
  · obtain ⟨m, digits, -⟩ := Option.map_eq_some_iff.mp h
    exact isSpelling_of_exponentDigits? digits

theorem isSpelling_of_exponent? {cs : List Char} {n : Int} (h : exponent? cs = some n) :
    ∀ c ∈ cs, IsSpelling c := by
  cases cs with
  | nil => simp
  | cons first cs =>
      rw [exponent?] at h
      split at h
      · rename_i letter
        refine List.forall_mem_cons.mpr ⟨Or.inr ?_, isSpelling_of_signedExponent? h⟩
        rcases letter with rfl | rfl <;> simp
      · exact absurd h (by simp)

theorem isSpelling_of_mem_leadingDigits {cs : List Char} : ∀ c ∈ leadingDigits cs, IsSpelling c := by
  intro c mem
  have digits := List.all_takeWhile (p := Char.isDigit) (l := cs)
  exact Or.inl (List.all_eq_true.mp digits c mem)

/-- A text is written like a literal if what is behind its leading digits is. -/
theorem isSpelling_of_afterDigits {cs : List Char} (behind : ∀ c ∈ afterDigits cs, IsSpelling c) :
    ∀ c ∈ cs, IsSpelling c := by
  have parts : leadingDigits cs ++ afterDigits cs = cs := List.takeWhile_append_dropWhile
  rw [← parts]
  exact List.forall_mem_append.mpr ⟨isSpelling_of_mem_leadingDigits, behind⟩

/-- **A literal is written with the characters of literals.** -/
theorem isSpelling_of_value? {cs : List Char} {value : Float} (h : value? cs = some value) :
    ∀ c ∈ cs, IsSpelling c := by
  obtain ⟨decimal, read, -⟩ := Option.map_eq_some_iff.mp h
  apply isSpelling_of_afterDigits
  unfold read? at read
  simp only at read
  split at read
  · rename_i rest point
    split at read
    · exact absurd read (by simp)
    · obtain ⟨n, exponent, -⟩ := Option.map_eq_some_iff.mp read
      rw [point]
      refine List.forall_mem_cons.mpr ⟨Or.inr (by simp), ?_⟩
      exact isSpelling_of_afterDigits (isSpelling_of_exponent? exponent)
  · split at read
    · exact absurd read (by simp)
    · obtain ⟨n, exponent, -⟩ := Option.map_eq_some_iff.mp read
      exact isSpelling_of_exponent? exponent

end Calculator.Literal
