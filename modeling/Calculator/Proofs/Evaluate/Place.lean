/-
# Calculator.Proofs.Evaluate.Place — the parts of an expression with their places

The same part can stand at several places of an expression, and what evaluation does with it depends
on the place.  So the two orders of the parts are needed with places: the order in which evaluation
comes to the parts, a node before its sides, and the order in which it is done with them, a node behind
its sides.

Two questions are asked of these orders.  `firstUnassignable?` is the first assignment that evaluation
comes to whose left side is not a variable, and `lastStore?` is the assignment to a given name that is
completed last.
-/

import Calculator.Proofs.Evaluate.Visit
import Calculator.Proofs.Expr.Order

namespace Calculator.Expr

/-! ## The two orders with places -/

/-- A part of a side with its place in the whole. -/
def inSide (side : Side) (entry : List Side × Expr) : List Side × Expr :=
  (side :: entry.1, entry.2)

/-- The parts with their places, each before the parts of its sides, left before right. -/
def placedPreorder : Expr → List (List Side × Expr)
  | number value => [([], number value)]
  | name n => [([], name n)]
  | operation operator left right =>
    ([], operation operator left right)
      :: (left.placedPreorder.map (inSide .left) ++ right.placedPreorder.map (inSide .right))

/-- The parts with their places, each behind the parts of its sides, left before right. -/
def placedPostorder : Expr → List (List Side × Expr)
  | number value => [([], number value)]
  | name n => [([], name n)]
  | operation operator left right =>
    left.placedPostorder.map (inSide .left) ++ right.placedPostorder.map (inSide .right)
      ++ [([], operation operator left right)]

theorem map_inSide_eq_some_iff {side : Side} {placed? : Option (List Side × Expr)}
    {place : List Side} {part : Expr} :
    placed?.map (inSide side) = some (place, part)
      ↔ ∃ rest, place = side :: rest ∧ placed? = some (rest, part) := by
  constructor
  · intro found
    obtain ⟨⟨rest, part'⟩, is, same⟩ := Option.map_eq_some_iff.mp found
    obtain ⟨rfl, rfl⟩ := Prod.mk.inj same
    exact ⟨rest, rfl, is⟩
  · rintro ⟨rest, rfl, rfl⟩
    rfl

theorem map_snd_placedPreorder (expr : Expr) :
    expr.placedPreorder.map Prod.snd = expr.preorder := by
  induction expr with
  | number value => rfl
  | name n => rfl
  | operation op left right ihl ihr =>
      simp only [placedPreorder, preorder, List.map_cons, List.map_append, List.map_map]
      rw [← ihl, ← ihr]
      rfl

theorem map_snd_placedPostorder (expr : Expr) :
    expr.placedPostorder.map Prod.snd = expr.postorder := by
  induction expr with
  | number value => rfl
  | name n => rfl
  | operation op left right ihl ihr =>
      simp only [placedPostorder, postorder, List.map_cons, List.map_nil, List.map_append,
        List.map_map]
      rw [← ihl, ← ihr]
      rfl

/-! ## The assignment to a name that is completed last -/

/-- Some assignment in the expression is to the name. -/
def Assigns (expr : Expr) (n : Name) : Prop :=
  ∃ right, operation .assign (name n) right ∈ expr.preorder

/-- Whether an expression itself is an assignment to the name. -/
def isStoreTo (n : Name) : Expr → Bool
  | operation .assign (name m) _ => m = n
  | _ => false

/-- The assignments to a name with their places, in the order in which they are completed. -/
def stores (expr : Expr) (n : Name) : List (List Side × Expr) :=
  expr.placedPostorder.filter fun entry => entry.2.isStoreTo n

/-- The assignment to a name that is completed last, and its place. -/
def lastStore? (expr : Expr) (n : Name) : Option (List Side × Expr) :=
  (expr.stores n).getLast?

variable {n m : Name} {left right part : Expr} {place : List Side} {arithmetic : Arithmetic}

theorem isStoreTo_iff :
    part.isStoreTo n = true ↔ ∃ right, part = operation .assign (name n) right := by
  constructor
  · intro h
    unfold isStoreTo at h
    split at h
    · rename_i m right
      obtain rfl : m = n := of_decide_eq_true h
      exact ⟨right, rfl⟩
    · exact absurd h Bool.false_ne_true
  · rintro ⟨right, rfl⟩
    exact decide_eq_true rfl

theorem not_assigns_number {value : Float} : ¬ (number value).Assigns n := by
  simp [Assigns, preorder]

theorem not_assigns_name : ¬ (name m).Assigns n := by
  simp [Assigns, preorder]

theorem assigns_operation {op : Operator} :
    (operation op left right).Assigns n
      ↔ (op = .assign ∧ left = name n) ∨ left.Assigns n ∨ right.Assigns n := by
  constructor
  · rintro ⟨r, mem⟩
    rcases List.mem_cons.mp mem with same | inSides
    · obtain ⟨rfl, rfl, rfl⟩ := operation.inj same
      exact Or.inl ⟨rfl, rfl⟩
    · rcases List.mem_append.mp inSides with inLeft | inRight
      · exact Or.inr (Or.inl ⟨r, inLeft⟩)
      · exact Or.inr (Or.inr ⟨r, inRight⟩)
  · rintro (⟨rfl, rfl⟩ | ⟨r, mem⟩ | ⟨r, mem⟩)
    · exact ⟨right, List.mem_cons_self⟩
    · exact ⟨r, List.mem_cons_of_mem _ (List.mem_append_left _ mem)⟩
    · exact ⟨r, List.mem_cons_of_mem _ (List.mem_append_right _ mem)⟩

theorem Assigns.of_left {op : Operator} (h : left.Assigns n) :
    (operation op left right).Assigns n :=
  assigns_operation.mpr (Or.inr (Or.inl h))

theorem Assigns.of_right {op : Operator} (h : right.Assigns n) :
    (operation op left right).Assigns n :=
  assigns_operation.mpr (Or.inr (Or.inr h))

/-- There is a last assignment to a name if there is one at all. -/
theorem lastStore?_eq_none_iff {expr : Expr} : expr.lastStore? n = none ↔ ¬ expr.Assigns n := by
  rw [lastStore?, List.getLast?_eq_none_iff, stores, List.filter_eq_nil_iff]
  constructor
  · rintro none ⟨right, mem⟩
    rw [← mem_postorder_iff, ← map_snd_placedPostorder] at mem
    obtain ⟨entry, entryMem, same⟩ := List.mem_map.mp mem
    exact none entry entryMem (isStoreTo_iff.mpr ⟨right, same⟩)
  · intro never entry entryMem isStore
    obtain ⟨right, same⟩ := isStoreTo_iff.mp isStore
    apply never
    refine ⟨right, ?_⟩
    rw [← mem_postorder_iff, ← map_snd_placedPostorder, ← same]
    exact List.mem_map_of_mem entryMem

/-- An assignment is completed after everything in it, and the right side after the left one. -/
theorem lastStore?_operation {op : Operator} :
    (operation op left right).lastStore? n
      = if (operation op left right).isStoreTo n then some ([], operation op left right)
        else ((right.lastStore? n).map (inSide .right)).or ((left.lastStore? n).map (inSide .left)) := by
  have below : ∀ side (expr : Expr), ((expr.placedPostorder.map (inSide side)).filter
      fun entry => entry.2.isStoreTo n).getLast? = (expr.lastStore? n).map (inSide side) := by
    intro side expr
    rw [List.filter_map, List.getLast?_map]
    rfl
  rw [lastStore?, stores, placedPostorder, List.filter_append, List.filter_append,
    List.getLast?_append, List.getLast?_append, below, below]
  split <;> rename_i isStore <;> simp [isStore]

theorem lastStore?_arithmetic_cases
    (last : (operation (.arithmetic arithmetic) left right).lastStore? n = some (place, part)) :
    (∃ rest, place = .right :: rest ∧ right.lastStore? n = some (rest, part))
    ∨ ∃ rest, place = .left :: rest ∧ ¬ right.Assigns n ∧ left.lastStore? n = some (rest, part) := by
  rw [lastStore?_operation, if_neg (by simp [isStoreTo])] at last
  rcases Option.or_eq_some_iff.mp last with inRight | ⟨none, inLeft⟩
  · exact Or.inl (map_inSide_eq_some_iff.mp inRight)
  · obtain ⟨rest, rfl, found⟩ := map_inSide_eq_some_iff.mp inLeft
    have never := lastStore?_eq_none_iff.mp (Option.map_eq_none_iff.mp none)
    exact Or.inr ⟨rest, rfl, never, found⟩

theorem lastStore?_assign_cases
    (last : (operation .assign (name m) right).lastStore? n = some (place, part)) :
    (m = n ∧ place = [] ∧ part = operation .assign (name m) right)
    ∨ m ≠ n ∧ ∃ rest, place = .right :: rest ∧ right.lastStore? n = some (rest, part) := by
  have target : (name m).lastStore? n = none := rfl
  rw [lastStore?_operation, target, Option.map_none, Option.or_none] at last
  by_cases same : m = n
  · rw [if_pos (by simp [isStoreTo, same])] at last
    obtain ⟨here, whole⟩ := Prod.mk.inj (Option.some.inj last)
    exact Or.inl ⟨same, here.symm, whole.symm⟩
  · rw [if_neg (by simp [isStoreTo, same])] at last
    exact Or.inr ⟨same, map_inSide_eq_some_iff.mp last⟩

/-! ## The first assignment to what is not a variable -/

/-- The first assignment, in the order in which evaluation comes to the parts, whose left side is not a
variable, and its place. -/
def firstUnassignable? (expr : Expr) : Option (List Side × Expr) :=
  expr.placedPreorder.find? fun entry => entry.2.unassignable?.isSome

theorem firstUnassignable?_operation {op : Operator} :
    (operation op left right).firstUnassignable?
      = if (operation op left right).unassignable?.isSome then some ([], operation op left right)
        else ((left.firstUnassignable?).map (inSide .left)).or
          ((right.firstUnassignable?).map (inSide .right)) := by
  rw [firstUnassignable?, placedPreorder, List.find?_cons, List.find?_append, List.find?_map,
    List.find?_map]
  split
  · rename_i found
    rw [if_pos found]
  · rename_i found
    rw [if_neg (by simp [found])]
    rfl

theorem firstUnassignable?_arithmetic_cases
    (first : (operation (.arithmetic arithmetic) left right).firstUnassignable?
      = some (place, part)) :
    (∃ rest, place = .left :: rest ∧ left.firstUnassignable? = some (rest, part))
    ∨ ∃ rest, place = .right :: rest ∧ left.firstUnassignable? = none
        ∧ right.firstUnassignable? = some (rest, part) := by
  rw [firstUnassignable?_operation, if_neg (by simp [unassignable?])] at first
  rcases Option.or_eq_some_iff.mp first with inLeft | ⟨none, inRight⟩
  · exact Or.inl (map_inSide_eq_some_iff.mp inLeft)
  · obtain ⟨rest, rfl, found⟩ := map_inSide_eq_some_iff.mp inRight
    exact Or.inr ⟨rest, rfl, Option.map_eq_none_iff.mp none, found⟩

theorem firstUnassignable?_assign_cases
    (first : (operation .assign left right).firstUnassignable? = some (place, part)) :
    (left.isName = false ∧ place = [] ∧ part = operation .assign left right)
    ∨ ∃ n rest, left = name n ∧ place = .right :: rest
        ∧ right.firstUnassignable? = some (rest, part) := by
  rw [firstUnassignable?_operation] at first
  cases named : left.isName with
  | false =>
      rw [if_pos (by simp [unassignable?, named])] at first
      obtain ⟨here, whole⟩ := Prod.mk.inj (Option.some.inj first)
      exact Or.inl ⟨rfl, here.symm, whole.symm⟩
  | true =>
      obtain ⟨n, rfl⟩ := exists_of_isName named
      have target : (name n).firstUnassignable? = none := rfl
      rw [if_neg (by simp [unassignable?, named]), target, Option.map_none, Option.none_or] at first
      obtain ⟨rest, same, found⟩ := map_inSide_eq_some_iff.mp first
      exact Or.inr ⟨n, rest, rfl, same, found⟩

/-- It is the first one in the list of the parts without places. -/
theorem findSome?_preorder_eq (expr : Expr) :
    expr.preorder.findSome? unassignable?
      = expr.firstUnassignable?.bind fun entry => entry.2.unassignable? := by
  rw [← map_snd_placedPreorder, List.findSome?_map, firstUnassignable?]
  induction expr.placedPreorder with
  | nil => rfl
  | cons entry rest ih =>
      rw [List.findSome?_cons, List.find?_cons]
      cases found : entry.2.unassignable? with
      | none => simpa [found] using ih
      | some target => simp [found]

end Calculator.Expr
