/-
# Calculator.Environment — the values of variables

An environment is a finite map from names to numbers.  It is kept as the list of its pairs in strictly
increasing order of names, and the order is part of the type.  So two environments with the same
values are the same environment, however they came about, and showing one needs no sorting.

A variable that was never assigned reads as what is not a number.
-/

import Calculator.Expr

namespace Calculator

/-- The values of variables: pairs in strictly increasing order of their names. -/
structure Environment where
  entries : List (Name × Float)
  ordered : entries.Pairwise fun a b => a.1 < b.1

namespace Environment

/-! ## Pairs in order -/

/-- The pairs with a name set to a value: in its place if the name is new, instead of the old value
if it is not. -/
def insert (name : Name) (value : Float) : List (Name × Float) → List (Name × Float)
  | [] => [(name, value)]
  | entry :: rest =>
    if name < entry.1 then (name, value) :: entry :: rest
    else if entry.1 < name then entry :: insert name value rest
    else (name, value) :: rest

theorem fst_of_mem_insert {name : Name} {value : Float} {entries : List (Name × Float)}
    {entry : Name × Float} (h : entry ∈ insert name value entries) :
    entry.1 = name ∨ entry ∈ entries := by
  induction entries with
  | nil => exact Or.inl (congrArg Prod.fst (List.mem_singleton.mp h))
  | cons first rest ih =>
    unfold insert at h
    split at h
    · rcases List.mem_cons.mp h with rfl | h
      · exact Or.inl rfl
      · exact Or.inr h
    · split at h
      · rcases List.mem_cons.mp h with rfl | h
        · exact Or.inr List.mem_cons_self
        · exact (ih h).imp_right (List.mem_cons_of_mem first)
      · rcases List.mem_cons.mp h with rfl | h
        · exact Or.inl rfl
        · exact Or.inr (List.mem_cons_of_mem first h)

/-- Setting a value keeps the pairs in order. -/
theorem pairwise_insert (name : Name) (value : Float) {entries : List (Name × Float)}
    (h : entries.Pairwise fun a b => a.1 < b.1) :
    (insert name value entries).Pairwise fun a b => a.1 < b.1 := by
  induction entries with
  | nil => exact List.pairwise_singleton ..
  | cons first rest ih =>
    have ⟨above, rest_ordered⟩ := List.pairwise_cons.mp h
    unfold insert
    split
    · rename_i before
      refine List.pairwise_cons.mpr ⟨?_, h⟩
      intro entry mem
      rcases List.mem_cons.mp mem with rfl | mem
      · exact before
      · exact Name.lt_trans before (above entry mem)
    · split
      · rename_i after
        refine List.pairwise_cons.mpr ⟨?_, ih rest_ordered⟩
        intro entry mem
        rcases fst_of_mem_insert mem with same | mem
        · exact same ▸ after
        · exact above entry mem
      · rename_i notBefore notAfter
        have same : first.1 = name := Name.eq_of_not_lt notAfter notBefore
        exact List.pairwise_cons.mpr ⟨fun entry mem => same ▸ above entry mem, rest_ordered⟩

/-! ## Reading and writing -/

/-- The environment without variables. -/
def empty : Environment := ⟨[], List.Pairwise.nil⟩

/-- The environment with a variable set to a value. -/
def assign (env : Environment) (name : Name) (value : Float) : Environment :=
  ⟨insert name value env.entries, pairwise_insert name value env.ordered⟩

/-- The value of a variable, if it was ever assigned. -/
def get? (env : Environment) (name : Name) : Option Float :=
  (env.entries.find? fun entry => entry.1 = name).map Prod.snd

/-- The value that reading a variable gives. -/
def lookup (env : Environment) (name : Name) : Float :=
  (env.get? name).getD Binary64.notANumber

/-- How many variables have a value. -/
def size (env : Environment) : Nat := env.entries.length

/-- Whether no variable has a value. -/
def isEmpty (env : Environment) : Bool := env.entries.isEmpty

/-! ## Text and comparison -/

/-- The text of one variable and its value. -/
def entryText (entry : Name × Float) : String :=
  entry.1.text ++ ": " ++ Binary64.text entry.2

/-- The text that shows all variables in order. -/
def text (env : Environment) : String :=
  "\x7b" ++ ", ".intercalate (env.entries.map entryText) ++ "\x7d"

/-- Comparison with numbers taken as numbers: an environment that holds what is not a number differs
from itself. -/
def equal (env other : Environment) : Bool :=
  env.entries.map Prod.fst == other.entries.map Prod.fst
    && env.entries.map Prod.snd == other.entries.map Prod.snd

instance : BEq Environment := ⟨equal⟩

end Environment

end Calculator
