/-
# Calculator.Proofs.Random.Draw — what holds of a draw whatever the source delivers

A source is a state and a step, and nothing is known of either.  So what is said of a draw here is said
of all results that it can have, from every state of every source (`Always`).  Such statements go
through a chain of draws one step at a time: what always holds of the first draw may be used of its
result (`Always.bind`).

Where a draw comes from a list, its result is an element of the list, and where it is what is left of a
larger number, it is below the bound.  That is all the rest needs.  In particular nothing depends on
how often a fair draw is tried, or on whether one of the tries succeeded.
-/

import Calculator.Random.Source

namespace Calculator.Random

variable {σ α β : Type}

/-- A property holds of every result that a draw can have. -/
def Always (P : α → Prop) (draw : Draw σ α) : Prop := ∀ source, P (draw source).1

namespace Always

variable {P Q : α → Prop} {R : β → Prop}

theorem pure {a : α} (h : P a) : Always P (Pure.pure a : Draw σ α) := fun _ => h

theorem bind {draw : Draw σ α} {next : α → Draw σ β} (first : Always P draw)
    (later : ∀ a, P a → Always R (next a)) : Always R (draw >>= next) := by
  intro source
  exact later (draw source).1 (first source) (draw source).2

theorem mono {draw : Draw σ α} (h : Always P draw) (le : ∀ a, P a → Q a) : Always Q draw := by
  intro source
  exact le _ (h source)

/-- Nothing is known of the result of a draw, which is enough where it only chooses the way on. -/
theorem trivial (draw : Draw σ α) : Always (fun _ => True) draw := fun _ => True.intro

theorem ite {condition : Prop} [Decidable condition] {draw other : Draw σ α}
    (yes : condition → Always P draw) (no : ¬ condition → Always P other) :
    Always P (if condition then draw else other) := by
  split
  · rename_i holds
    exact yes holds
  · rename_i fails
    exact no fails

end Always

/-! ## Elements of lists and numbers below bounds -/

theorem getD_mem_cons (xs : List α) (i : Nat) (default : α) :
    (default :: xs).getD i default ∈ default :: xs := by
  rw [List.getD_eq_getElem?_getD]
  cases found : (default :: xs)[i]? with
  | none => exact List.mem_cons_self
  | some x => exact List.mem_of_getElem? found

variable [WordSource σ]

theorem choose_mem (first : α) (rest : List α) :
    Always (· ∈ first :: rest) (choose first rest : Draw σ α) := by
  refine Always.bind (Always.trivial (below (rest.length + 1))) ?_
  intro index _
  exact Always.pure (getD_mem_cons rest index first)

theorem pick_lt {bound : Nat} (pos : 0 < bound) : Always (· < bound) (pick bound : Draw σ Nat) := by
  refine Always.bind (Always.trivial wide) ?_
  intro n _
  exact Always.pure (Nat.mod_lt n pos)

theorem narrow_lt : Always (· < 0x10000) (narrow : Draw σ Nat) := by
  refine Always.bind (Always.trivial (below 10)) ?_
  intro tenth _
  refine Always.ite ?_ ?_
  · intro _
    refine (choose_mem 0 [1, 0xFFFF]).mono ?_
    intro n mem
    have ends : ∀ n ∈ [0, 1, 0xFFFF], n < 0x10000 := by decide
    exact ends n mem
  · intro _
    refine Always.bind (Always.trivial halfWord) ?_
    intro n _
    exact Always.pure (Nat.mod_lt n (by decide))

end Calculator.Random
