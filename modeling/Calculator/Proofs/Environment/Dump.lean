/-
# Calculator.Proofs.Environment.Dump — the text of an environment says what is in it

The text of an environment lists its pairs between braces, with commas between them and a colon inside
each.  None of these characters can be in a name that can be typed or in the text of a number, so the
text can be taken apart again in one way only, however many pairs there are (`text_injective`).  A name
made by hand may hold them, and then two environments can have the same text.
-/

import Calculator.Proofs.Environment.Canonical
import Calculator.Proofs.Text.Delimited

namespace Calculator.Environment

/-! ## The characters of the text -/

/-- The characters of one pair. -/
def entryChars (entry : Name × Float) : List Char :=
  entry.1.text.toList ++ ':' :: ' ' :: Binary64.chars entry.2

/-- What stands behind a pair: the pairs after it, each behind a comma, and the closing brace. -/
def behindEntry : List (Name × Float) → List Char
  | [] => ['}']
  | entry :: rest => ',' :: ' ' :: (entryChars entry ++ behindEntry rest)

/-- What stands behind the opening brace. -/
def listedChars : List (Name × Float) → List Char
  | [] => ['}']
  | entry :: rest => entryChars entry ++ behindEntry rest

theorem toList_entryText (entry : Name × Float) : (entryText entry).toList = entryChars entry := by
  simp [entryText, entryChars, Binary64.text]

theorem toList_intercalate_entryText (entries : List (Name × Float)) :
    (", ".intercalate (entries.map entryText)).toList ++ ['}'] = listedChars entries := by
  cases entries with
  | nil => rfl
  | cons entry rest =>
      induction rest generalizing entry with
      | nil => simp [toList_entryText, listedChars, behindEntry]
      | cons next rest ih =>
          have later := ih next
          rw [List.map_cons] at later ⊢
          rw [List.map_cons, String.intercalate_cons_cons]
          simp only [String.toList_append, toList_entryText, List.append_assoc, later]
          rfl

theorem toList_text (env : Environment) : env.text.toList = '{' :: listedChars env.entries := by
  unfold text
  rw [String.toList_append, String.toList_append, List.append_assoc, ← toList_intercalate_entryText]
  rfl

/-! ## Taking the text apart -/

variable {entry entry' : Name × Float} {rest rest' first second : List (Name × Float)}

/-- A text with a pair begins with the letter of a name, so it is not the text without any. -/
theorem listedChars_cons_ne (valid : Name.isValid entry.1.text = true) :
    listedChars (entry :: rest) ≠ listedChars [] := by
  intro same
  obtain ⟨some, letters⟩ := Name.isValid_iff.mp valid
  obtain ⟨c, cs, eq⟩ := List.exists_cons_of_ne_nil some
  have letter : c.isAlpha = true := letters c (by rw [eq]; exact List.mem_cons_self)
  change entryChars entry ++ behindEntry rest = ['}'] at same
  rw [entryChars, eq] at same
  obtain rfl : c = '}' := (List.cons.inj same).1
  exact absurd letter (by decide)

theorem exists_behindEntry (rest : List (Name × Float)) :
    ∃ c r, behindEntry rest = c :: r ∧ ¬ Binary64.IsShown c := by
  cases rest with
  | nil => exact ⟨'}', [], rfl, by decide⟩
  | cons entry rest => exact ⟨',', _, rfl, by decide⟩

/-- **A pair ends where the text goes on with a comma or the closing brace.** -/
theorem eq_of_entryChars_append (valid : Name.isValid entry.1.text = true)
    (valid' : Name.isValid entry'.1.text = true)
    (h : entryChars entry ++ behindEntry rest = entryChars entry' ++ behindEntry rest') :
    entry = entry' ∧ behindEntry rest = behindEntry rest' := by
  obtain ⟨c, r, behind, ends⟩ := exists_behindEntry rest
  obtain ⟨d, s, behind', ends'⟩ := exists_behindEntry rest'
  rw [behind, behind'] at h ⊢
  simp only [entryChars, List.append_assoc, List.cons_append] at h
  obtain ⟨name, -, atValue⟩ := Name.eq_of_toList_append valid valid' (by decide) (by decide) h
  obtain ⟨value, same, later⟩ := Binary64.eq_of_chars_append ends ends' (List.cons.inj atValue).2
  exact ⟨Prod.ext name value, by rw [same, later]⟩

/-- What stands behind a pair says which pairs are after it. -/
theorem behindEntry_inj (valid : ∀ entry ∈ rest, Name.isValid entry.1.text = true)
    (valid' : ∀ entry ∈ rest', Name.isValid entry.1.text = true)
    (h : behindEntry rest = behindEntry rest') : rest = rest' := by
  induction rest generalizing rest' with
  | nil =>
      cases rest' with
      | nil => rfl
      | cons entry' rest' => exact absurd (List.cons.inj h).1 (by decide)
  | cons entry rest ih =>
      cases rest' with
      | nil => exact absurd (List.cons.inj h).1 (by decide)
      | cons entry' rest' =>
          obtain ⟨validHere, validLater⟩ := List.forall_mem_cons.mp valid
          obtain ⟨validHere', validLater'⟩ := List.forall_mem_cons.mp valid'
          have entries := (List.cons.inj (List.cons.inj h).2).2
          obtain ⟨rfl, behind⟩ := eq_of_entryChars_append validHere validHere' entries
          rw [ih validLater validLater' behind]

theorem listedChars_inj (valid : ∀ entry ∈ first, Name.isValid entry.1.text = true)
    (valid' : ∀ entry ∈ second, Name.isValid entry.1.text = true)
    (h : listedChars first = listedChars second) : first = second := by
  cases first with
  | nil =>
      cases second with
      | nil => rfl
      | cons entry' rest' =>
          exact absurd h.symm (listedChars_cons_ne (valid' entry' List.mem_cons_self))
  | cons entry rest =>
      obtain ⟨validHere, validLater⟩ := List.forall_mem_cons.mp valid
      cases second with
      | nil => exact absurd h (listedChars_cons_ne validHere)
      | cons entry' rest' =>
          obtain ⟨validHere', validLater'⟩ := List.forall_mem_cons.mp valid'
          obtain ⟨rfl, behind⟩ := eq_of_entryChars_append validHere validHere' h
          rw [behindEntry_inj validLater validLater' behind]

/-! ## Names that can be typed -/

/-- All names of an environment can be typed. -/
def NamesValid (env : Environment) : Prop :=
  ∀ name ∈ env.names, Name.isValid name.text = true

variable {env other : Environment}

theorem namesValid_empty : empty.NamesValid := by
  intro name mem
  exact absurd mem List.not_mem_nil

theorem NamesValid.assign (h : env.NamesValid) {name : Name} (valid : Name.isValid name.text = true)
    (value : Float) : (env.assign name value).NamesValid := by
  intro other mem
  obtain ⟨entry, listed, rfl⟩ := List.mem_map.mp mem
  rcases fst_of_mem_insert listed with same | before
  · rw [same]
    exact valid
  · exact h entry.1 (List.mem_map_of_mem before)

/-- **Where all names can be typed, environments with the same text are the same**, with the sign of
every zero. -/
theorem eq_of_text_eq (valid : env.NamesValid) (valid' : other.NamesValid)
    (h : env.text = other.text) : env = other := by
  have chars := congrArg String.toList h
  rw [toList_text, toList_text] at chars
  have entries : env.entries = other.entries := by
    apply listedChars_inj _ _ (List.cons.inj chars).2
    · intro entry mem
      exact valid entry.1 (List.mem_map_of_mem mem)
    · intro entry mem
      exact valid' entry.1 (List.mem_map_of_mem mem)
  cases env
  cases other
  cases entries
  rfl

/-- A name made by hand can look like another pair. -/
example : (ofAssignments [(⟨"x: 1, y"⟩, 2)]).text = (ofAssignments [(⟨"x"⟩, 1), (⟨"y"⟩, 2)]).text := by
  decide +kernel

end Calculator.Environment
