/-
# Calculator.Text.Backspace — a text as it was typed

A text may hold backspaces, and each takes back what was typed before it.  What it takes back is a
size: the bytes that the last cluster takes in UTF-8, remembered when that cluster was typed.  A size
is remembered in a single byte, so a cluster of 256 bytes or more is remembered as too small and loses
no more than its end.  A backspace with nothing before it does nothing.

`Draft` is the text typed so far with the sizes remembered for it.  Main statements: taking back undoes
typing for every cluster of less than 256 bytes (`erase?_push`), and a text without backspaces stays as
it is (`applyBackspaces?_of_not_mem`).
-/

import Calculator.Text.Cluster

namespace Calculator.Text

/-! ## Sizes in UTF-8 -/

/-- The number of bytes that characters take in UTF-8. -/
def utf8Size : List Char → Nat
  | [] => 0
  | c :: cs => c.utf8Size + utf8Size cs

/-- What is left behind characters that take so many bytes in front, unless the last of them would
have to be cut in two. -/
def dropSize? : Nat → List Char → Option (List Char)
  | 0, cs => some cs
  | _ + 1, [] => none
  | size + 1, c :: rest =>
    if c.utf8Size ≤ size + 1 then dropSize? (size + 1 - c.utf8Size) rest else none

theorem utf8Size_append (cs ds : List Char) : utf8Size (cs ++ ds) = utf8Size cs + utf8Size ds := by
  induction cs with
  | nil => simp [utf8Size]
  | cons c cs ih => rw [List.cons_append, utf8Size, utf8Size, ih, Nat.add_assoc]

theorem utf8Size_reverse (cs : List Char) : utf8Size cs.reverse = utf8Size cs := by
  induction cs with
  | nil => rfl
  | cons c cs ih =>
    rw [List.reverse_cons, utf8Size_append, ih, utf8Size, Nat.add_comm]
    rfl

/-- Whole characters can always be dropped. -/
theorem dropSize?_append (front rest : List Char) :
    dropSize? (utf8Size front) (front ++ rest) = some rest := by
  induction front with
  | nil => simp [utf8Size, dropSize?]
  | cons c front ih =>
    have pos := c.utf8Size_pos
    obtain ⟨size, eq⟩ : ∃ size, utf8Size (c :: front) = size + 1 :=
      Nat.exists_eq_add_one.2 (by rw [utf8Size]; omega)
    have split : size + 1 = c.utf8Size + utf8Size front := by rw [← eq, utf8Size]
    have left : size + 1 - c.utf8Size = utf8Size front := by omega
    have fits : c.utf8Size ≤ size + 1 := by omega
    simp [eq, dropSize?, fits, left, ih]

/-! ## Drafts -/

/-- A text as far as it has been typed, with the sizes of its clusters.  In both, the last comes
first. -/
structure Draft where
  chars : List Char := []
  sizes : List UInt8 := []

namespace Draft

/-- One more cluster at the end. -/
def push (draft : Draft) (cluster : List Char) : Draft where
  chars := cluster.reverse ++ draft.chars
  sizes := (utf8Size cluster).toUInt8 :: draft.sizes

/-- The draft without the size that was remembered last, unless that splits a character. -/
def erase? (draft : Draft) : Option Draft :=
  match draft.sizes with
  | [] => some draft
  | size :: sizes => (dropSize? size.toNat draft.chars).map fun chars => ⟨chars, sizes⟩

/-- Taking back undoes typing. -/
theorem erase?_push (draft : Draft) (cluster : List Char) (small : utf8Size cluster < 256) :
    (draft.push cluster).erase? = some draft := by
  have word : (utf8Size cluster).toUInt8.toNat = utf8Size cluster.reverse := by
    rw [utf8Size_reverse]; exact Nat.mod_eq_of_lt small
  simp [erase?, push, word, dropSize?_append]

end Draft

/-! ## Backspaces -/

/-- The character that takes back. -/
def backspace : Char := '\x08'

/-- The draft after one more cluster, which takes back if it is a backspace. -/
def Draft.next? (draft : Draft) (cluster : List Char) : Option Draft :=
  if cluster = [backspace] then draft.erase? else some (draft.push cluster)

/-- What is left of a text after its backspaces, if they split no character. -/
def applyBackspaces? (text : String) : Option String :=
  ((clusters text.toList).foldlM Draft.next? {}).map fun draft =>
    String.ofList draft.chars.reverse

theorem chars_of_foldlM_next? (draft : Draft) (pieces : List (List Char))
    (free : [backspace] ∉ pieces) :
    (pieces.foldlM Draft.next? draft).map Draft.chars =
      some (pieces.flatten.reverse ++ draft.chars) := by
  induction pieces generalizing draft with
  | nil => simp
  | cons piece pieces ih =>
    have ⟨head, tail⟩ : piece ≠ [backspace] ∧ [backspace] ∉ pieces := by
      simpa [eq_comm] using free
    simp [Draft.next?, head, ih _ tail, Draft.push]

/-- A text without backspaces stays as it is. -/
theorem applyBackspaces?_of_not_mem (text : String) (free : backspace ∉ text.toList) :
    applyBackspaces? text = some text := by
  have pieces : [backspace] ∉ clusters text.toList := fun h =>
    free (by rw [← flatten_clusters text.toList]; exact List.mem_flatten.2 ⟨_, h, by simp⟩)
  have chars := chars_of_foldlM_next? {} _ pieces
  obtain ⟨draft, run, eq⟩ := Option.map_eq_some_iff.1 chars
  simp [applyBackspaces?, run, eq, flatten_clusters]

end Calculator.Text
