/-
# Calculator.Proofs.Text.Backspace — what backspaces leave of a text

Backspaces take characters away and never bring in others (`mem_of_applyBackspaces?`).  So a text on one
line is still on one line when they have done their work.

They split a character only where a cluster of 256 bytes or more was typed, since only its size is
remembered as too small.  A text of shorter clusters always has something left
(`exists_applyBackspaces?`).
-/

import Calculator.Proofs.Text.Line
import Calculator.Text.Backspace

namespace Calculator.Text

/-! ## No other characters -/

theorem mem_of_dropSize? {size : Nat} {cs rest : List Char} (h : dropSize? size cs = some rest)
    {c : Char} (mem : c ∈ rest) : c ∈ cs := by
  induction cs generalizing size with
  | nil =>
      cases size with
      | zero => rwa [← Option.some.inj h] at mem
      | succ size => exact absurd h (by simp [dropSize?])
  | cons d cs ih =>
      cases size with
      | zero => rwa [← Option.some.inj h] at mem
      | succ size =>
          rw [dropSize?] at h
          split at h
          · exact List.mem_cons_of_mem d (ih h)
          · exact absurd h (by simp)

theorem Draft.mem_of_erase? {draft next : Draft} (h : draft.erase? = some next) {c : Char}
    (mem : c ∈ next.chars) : c ∈ draft.chars := by
  unfold erase? at h
  split at h
  · rwa [Option.some.inj h]
  · obtain ⟨chars, dropped, rfl⟩ := Option.map_eq_some_iff.mp h
    exact mem_of_dropSize? dropped mem

theorem Draft.mem_of_next? {draft next : Draft} {cluster : List Char}
    (h : draft.next? cluster = some next) {c : Char} (mem : c ∈ next.chars) :
    c ∈ cluster ∨ c ∈ draft.chars := by
  unfold next? at h
  split at h
  · exact Or.inr (mem_of_erase? h mem)
  · rw [← Option.some.inj h, push, List.mem_append, List.mem_reverse] at mem
    exact mem

theorem mem_of_foldlM_next? {draft last : Draft} {pieces : List (List Char)}
    (h : pieces.foldlM Draft.next? draft = some last) {c : Char} (mem : c ∈ last.chars) :
    c ∈ pieces.flatten ∨ c ∈ draft.chars := by
  induction pieces generalizing draft with
  | nil =>
      obtain rfl : draft = last := Option.some.inj h
      exact Or.inr mem
  | cons piece pieces ih =>
      rw [List.foldlM_cons] at h
      obtain ⟨next, step, later⟩ := Option.bind_eq_some_iff.mp h
      rw [List.flatten_cons, List.mem_append, or_assoc]
      rcases ih later with behind | before
      · exact Or.inr (Or.inl behind)
      · exact (Draft.mem_of_next? step before).imp_right Or.inr

/-- **Backspaces leave no character that was not typed.** -/
theorem mem_of_applyBackspaces? {typed text : String} (h : applyBackspaces? typed = some text)
    {c : Char} (mem : c ∈ text.toList) : c ∈ typed.toList := by
  obtain ⟨draft, run, rfl⟩ := Option.map_eq_some_iff.mp h
  rw [String.toList_ofList, List.mem_reverse] at mem
  rcases mem_of_foldlM_next? run mem with inside | none
  · rwa [flatten_clusters] at inside
  · exact absurd none List.not_mem_nil

/-! ## No cut inside a character -/

/-- A draft of clusters that all took less than 256 bytes. -/
inductive Draft.IsShort : Draft → Prop
  | empty : IsShort {}
  | push {draft : Draft} {cluster : List Char} : IsShort draft → utf8Size cluster < 256 →
      IsShort (draft.push cluster)

theorem Draft.IsShort.next? {draft : Draft} (h : draft.IsShort) {cluster : List Char}
    (small : utf8Size cluster < 256) : ∃ next, draft.next? cluster = some next ∧ next.IsShort := by
  unfold Draft.next?
  split
  · cases h with
    | empty => exact ⟨{}, rfl, .empty⟩
    | @push before last short smallLast =>
        exact ⟨before, before.erase?_push last smallLast, short⟩
  · exact ⟨_, rfl, h.push small⟩

theorem Draft.IsShort.foldlM_next? {draft : Draft} (h : draft.IsShort) {pieces : List (List Char)}
    (small : ∀ piece ∈ pieces, utf8Size piece < 256) :
    ∃ last, pieces.foldlM Draft.next? draft = some last := by
  induction pieces generalizing draft with
  | nil => exact ⟨draft, rfl⟩
  | cons piece pieces ih =>
      obtain ⟨smallHere, smallLater⟩ := List.forall_mem_cons.mp small
      obtain ⟨next, step, short⟩ := h.next? smallHere
      obtain ⟨last, run⟩ := ih short smallLater
      refine ⟨last, ?_⟩
      rw [List.foldlM_cons, step]
      exact run

/-- **Where every cluster is shorter than 256 bytes, backspaces split no character.** -/
theorem exists_applyBackspaces? {typed : String}
    (small : ∀ cluster ∈ clusters typed.toList, utf8Size cluster < 256) :
    ∃ text, applyBackspaces? typed = some text := by
  obtain ⟨draft, run⟩ := Draft.IsShort.empty.foldlM_next? small
  refine ⟨String.ofList draft.chars.reverse, ?_⟩
  rw [applyBackspaces?, run, Option.map_some]

end Calculator.Text
