/-
# Calculator.Proofs.Environment.Lookup — what is found after an assignment

Assigning to a name changes what is found under that name and nothing else.  Where the pair goes in
the order of the names does not matter for this.  So no name is ever lost, and the number of names
that have a value cannot shrink (`size_le_size_assign`).
-/

import Calculator.Environment

namespace Calculator.Environment

theorem find?_insert (name other : Name) (value : Float) (entries : List (Name × Float)) :
    (insert name value entries).find? (fun entry => entry.1 = other)
      = if other = name then some (name, value)
        else entries.find? fun entry => entry.1 = other := by
  induction entries with
  | nil => by_cases same : name = other <;> simp [insert, same, eq_comm]
  | cons first rest ih =>
      unfold insert
      split
      · by_cases same : name = other <;> simp [same, eq_comm]
      · split
        · rename_i before
          by_cases here : first.1 = other
          · -- the pair in front is found, and it is below the new one
            have differs : other ≠ name := by
              rintro rfl
              exact Name.lt_irrefl other (here ▸ before)
            simp [here, differs]
          · simp [here, ih]
        · rename_i notBefore notAfter
          have replaced : first.1 = name := Name.eq_of_not_lt notAfter notBefore
          by_cases same : name = other <;> simp [same, replaced, eq_comm]

/-- **An assignment is seen under its name and nowhere else.** -/
theorem get?_assign (env : Environment) (name other : Name) (value : Float) :
    (env.assign name value).get? other = if other = name then some value else env.get? other := by
  unfold get? assign
  rw [find?_insert]
  split <;> rfl

/-- What reading gives after an assignment. -/
theorem lookup_assign (env : Environment) (name other : Name) (value : Float) :
    (env.assign name value).lookup other = if other = name then value else env.lookup other := by
  unfold lookup
  rw [get?_assign]
  split <;> rfl

/-! ## Names that have a value -/

/-- A name has a value in an environment. -/
def Binds (env : Environment) (name : Name) : Prop :=
  ∃ value, env.get? name = some value

theorem binds_assign_self (env : Environment) (name : Name) (value : Float) :
    (env.assign name value).Binds name := by
  refine ⟨value, ?_⟩
  rw [get?_assign, if_pos rfl]

theorem Binds.assign {env : Environment} {other : Name} (h : env.Binds other) (name : Name)
    (value : Float) : (env.assign name value).Binds other := by
  obtain ⟨old, found⟩ := h
  by_cases same : other = name
  · subst same
    exact binds_assign_self env other value
  · refine ⟨old, ?_⟩
    rw [get?_assign, if_neg same, found]

theorem length_le_length_insert (name : Name) (value : Float) (entries : List (Name × Float)) :
    entries.length ≤ (insert name value entries).length := by
  induction entries with
  | nil => exact Nat.zero_le _
  | cons first rest ih =>
      unfold insert
      split
      · exact Nat.le_succ _
      · split
        · exact Nat.succ_le_succ ih
        · exact Nat.le_refl _

theorem size_le_size_assign (env : Environment) (name : Name) (value : Float) :
    env.size ≤ (env.assign name value).size :=
  length_le_length_insert name value env.entries

end Calculator.Environment
