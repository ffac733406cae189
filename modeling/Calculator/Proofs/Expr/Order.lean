/-
# Calculator.Proofs.Expr.Order — the parts of an expression in two orders

The parts of an expression are the expression itself and the parts of its sides.  They can be listed
with a node before its sides, which is the order in which evaluation comes to them, or with a node
behind its sides, which is the order in which their brackets close.  Both lists have the same members
(`mem_postorder_iff`), so they agree on whether there is a part of some kind, and may differ on which
one is the first.

The parts of interest are assignments to something that is not a variable.  An expression without
them is one that can be evaluated (`targetsAreNames_iff`).
-/

import Calculator.Proofs.Expr.Shape

namespace Calculator.Expr

/-! ## Two orders -/

/-- The parts of an expression, each before the parts of its sides, left before right. -/
def preorder : Expr → List Expr
  | number value => [number value]
  | name n => [name n]
  | operation operator left right =>
    operation operator left right :: (left.preorder ++ right.preorder)

/-- The parts of an expression, each behind the parts of its sides, left before right. -/
def postorder : Expr → List Expr
  | number value => [number value]
  | name n => [name n]
  | operation operator left right =>
    left.postorder ++ right.postorder ++ [operation operator left right]

/-- The two orders list the same parts. -/
theorem mem_postorder_iff {part expr : Expr} : part ∈ expr.postorder ↔ part ∈ expr.preorder := by
  induction expr with
  | number value => exact Iff.rfl
  | name n => exact Iff.rfl
  | operation op left right ihl ihr =>
      simp only [postorder, preorder, List.mem_append, List.mem_cons, List.not_mem_nil, or_false,
        ihl, ihr]
      exact or_comm

/-! ## Assignments to what is not a variable -/

/-- The left side of an assignment if it is not a variable. -/
def unassignable? : Expr → Option Expr
  | operation .assign left _ => if left.isName then none else some left
  | _ => none

/-- Some assignment in the expression has something else than a variable on its left. -/
def AssignsToNoName (expr : Expr) : Prop :=
  ∃ left right, operation .assign left right ∈ expr.preorder ∧ left.isName = false

theorem unassignable?_eq_some_iff {part target : Expr} :
    part.unassignable? = some target
      ↔ ∃ right, part = operation .assign target right ∧ target.isName = false := by
  constructor
  · intro h
    unfold unassignable? at h
    split at h
    · rename_i left right
      split at h
      · exact absurd h (by simp)
      · rename_i unnamed
        obtain rfl : left = target := Option.some.inj h
        exact ⟨right, rfl, eq_false_of_ne_true unnamed⟩
    · exact absurd h (by simp)
  · rintro ⟨right, rfl, unnamed⟩
    simp [unassignable?, unnamed]

/-- Looking for such an assignment in a list of parts finds one if there is one. -/
theorem exists_findSome?_unassignable?_iff {parts : List Expr} :
    (∃ target, parts.findSome? unassignable? = some target)
      ↔ ∃ left right, operation .assign left right ∈ parts ∧ left.isName = false := by
  rw [← Option.isSome_iff_exists, List.findSome?_isSome_iff]
  constructor
  · rintro ⟨part, mem, found⟩
    obtain ⟨target, is⟩ := Option.isSome_iff_exists.mp found
    obtain ⟨right, rfl, unnamed⟩ := unassignable?_eq_some_iff.mp is
    exact ⟨target, right, mem, unnamed⟩
  · rintro ⟨left, right, mem, unnamed⟩
    refine ⟨_, mem, Option.isSome_iff_exists.mpr ⟨left, ?_⟩⟩
    exact unassignable?_eq_some_iff.mpr ⟨right, rfl, unnamed⟩

theorem exists_findSome?_preorder_iff {expr : Expr} :
    (∃ target, expr.preorder.findSome? unassignable? = some target) ↔ expr.AssignsToNoName :=
  exists_findSome?_unassignable?_iff

theorem exists_findSome?_postorder_iff {expr : Expr} :
    (∃ target, expr.postorder.findSome? unassignable? = some target) ↔ expr.AssignsToNoName := by
  rw [exists_findSome?_unassignable?_iff]
  simp only [mem_postorder_iff, AssignsToNoName]

theorem assignsToNoName_operation {op : Operator} {left right : Expr} :
    (operation op left right).AssignsToNoName
      ↔ (op = .assign ∧ left.isName = false) ∨ left.AssignsToNoName ∨ right.AssignsToNoName := by
  constructor
  · rintro ⟨l, r, mem, unnamed⟩
    rcases List.mem_cons.mp mem with same | inSide
    · obtain ⟨rfl, rfl, rfl⟩ := operation.inj same
      exact Or.inl ⟨rfl, unnamed⟩
    · rcases List.mem_append.mp inSide with inLeft | inRight
      · exact Or.inr (Or.inl ⟨l, r, inLeft, unnamed⟩)
      · exact Or.inr (Or.inr ⟨l, r, inRight, unnamed⟩)
  · rintro (⟨rfl, unnamed⟩ | ⟨l, r, mem, unnamed⟩ | ⟨l, r, mem, unnamed⟩)
    · exact ⟨left, right, List.mem_cons_self, unnamed⟩
    · exact ⟨l, r, List.mem_cons_of_mem _ (List.mem_append_left _ mem), unnamed⟩
    · exact ⟨l, r, List.mem_cons_of_mem _ (List.mem_append_right _ mem), unnamed⟩

/-- All assignments are to variables where none is to something else. -/
theorem targetsAreNames_iff {expr : Expr} : expr.TargetsAreNames ↔ ¬ expr.AssignsToNoName := by
  induction expr with
  | number value => simp [TargetsAreNames, AssignsToNoName, preorder]
  | name n => simp [TargetsAreNames, AssignsToNoName, preorder]
  | operation op left right ihl ihr =>
      rw [TargetsAreNames, ihl, ihr, assignsToNoName_operation]
      simp

end Calculator.Expr
