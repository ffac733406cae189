/-
# Calculator.Proofs.Environment.Canonical — an environment is what was last assigned to its names

The pairs of an environment are in strictly increasing order of names, so no name comes twice and an
environment is determined by what is found in it (`ext_get?`).  What is found under a name is what was
last assigned to it (`get?_ofAssignments`).  So the way an environment came about leaves no other
trace: assignments that leave every name with the same last value make the same environment, in
whatever order they were made.
-/

import Calculator.Proofs.Environment.Lookup
import Mathlib.Data.Finset.Card
import Mathlib.Data.List.Sort

namespace Calculator.Environment

variable {env other : Environment} {name : Name} {value : Float}

/-! ## Names in order -/

/-- The names that have a value, in their order. -/
def names (env : Environment) : List Name := env.entries.map Prod.fst

theorem names_ascending (env : Environment) : env.names.Pairwise (· < ·) :=
  List.pairwise_map.mpr env.ordered

theorem nodup_names (env : Environment) : env.names.Nodup := by
  apply env.names_ascending.imp
  rintro m n lt rfl
  exact Name.lt_irrefl m lt

theorem mem_names_of_mem_entries (h : (name, value) ∈ env.entries) : name ∈ env.names :=
  List.mem_map_of_mem h

/-- **The pairs that are listed are those that are found.** -/
theorem get?_eq_some_iff : env.get? name = some value ↔ (name, value) ∈ env.entries := by
  constructor
  · intro h
    obtain ⟨entry, found, rfl⟩ := Option.map_eq_some_iff.mp h
    obtain rfl : entry.1 = name := by simpa using List.find?_some found
    exact List.mem_of_find?_eq_some found
  · intro mem
    have some : (env.entries.find? fun entry => entry.1 = name).isSome = true :=
      List.find?_isSome.mpr ⟨(name, value), mem, decide_eq_true rfl⟩
    obtain ⟨entry, found⟩ := Option.isSome_iff_exists.mp some
    have same : entry.1 = name := by simpa using List.find?_some found
    -- no name comes twice, so it is the pair
    have pair : entry = (name, value) :=
      List.inj_on_of_nodup_map env.nodup_names (List.mem_of_find?_eq_some found) mem same
    rw [get?, found, pair]
    rfl

theorem mem_names_iff : name ∈ env.names ↔ env.Binds name := by
  constructor
  · intro mem
    obtain ⟨⟨_, value⟩, listed, rfl⟩ := List.mem_map.mp mem
    exact ⟨value, get?_eq_some_iff.mpr listed⟩
  · rintro ⟨value, found⟩
    exact mem_names_of_mem_entries (get?_eq_some_iff.mp found)

/-- **An environment is what is found in it.** -/
theorem ext_get? (same : ∀ name, env.get? name = other.get? name) : env = other := by
  have irreflexive : Std.Irrefl fun a b : Name × Float => a.1 < b.1 := ⟨fun a => Name.lt_irrefl a.1⟩
  have antisymmetric : Std.Antisymm fun a b : Name × Float => a.1 < b.1 :=
    ⟨fun a b ab ba => absurd (Name.lt_trans ab ba) (Name.lt_irrefl a.1)⟩
  have entries : env.entries = other.entries := by
    apply env.ordered.eq_of_mem_iff other.ordered
    rintro ⟨name, value⟩
    rw [← get?_eq_some_iff, ← get?_eq_some_iff, same]
  cases env
  cases other
  cases entries
  rfl

/-! ## Assignments one after another -/

/-- The environment that assignments make of the one without variables. -/
def ofAssignments (assignments : List (Name × Float)) : Environment :=
  assignments.foldl (fun env entry => env.assign entry.1 entry.2) empty

/-- The value that was last assigned to a name. -/
def lastAssigned? (assignments : List (Name × Float)) (name : Name) : Option Float :=
  (assignments.reverse.find? fun entry => entry.1 = name).map Prod.snd

variable {assignments first second : List (Name × Float)}

theorem ofAssignments_concat (assignments : List (Name × Float)) (last : Name × Float) :
    ofAssignments (assignments ++ [last]) = (ofAssignments assignments).assign last.1 last.2 :=
  List.foldl_concat ..

theorem lastAssigned?_concat (assignments : List (Name × Float)) (last : Name × Float)
    (name : Name) : lastAssigned? (assignments ++ [last]) name
      = if name = last.1 then some last.2 else lastAssigned? assignments name := by
  unfold lastAssigned?
  rw [List.reverse_concat, List.find?_cons]
  by_cases same : last.1 = name
  · simp [same]
  · simp [same, Ne.symm same]

theorem exists_lastAssigned?_iff :
    (∃ value, lastAssigned? assignments name = some value) ↔ name ∈ assignments.map Prod.fst := by
  rw [← Option.isSome_iff_exists, lastAssigned?, Option.isSome_map, List.find?_isSome]
  simp

/-- **What is found under a name is what was last assigned to it.** -/
theorem get?_ofAssignments (assignments : List (Name × Float)) (name : Name) :
    (ofAssignments assignments).get? name = lastAssigned? assignments name := by
  induction assignments using List.reverseRecOn with
  | nil => rfl
  | append_singleton assignments last ih =>
      rw [ofAssignments_concat, get?_assign, lastAssigned?_concat, ih]

theorem mem_names_ofAssignments :
    name ∈ (ofAssignments assignments).names ↔ name ∈ assignments.map Prod.fst := by
  rw [mem_names_iff, ← exists_lastAssigned?_iff]
  simp only [Binds, get?_ofAssignments]

/-- Assignments that leave every name with the same last value make the same environment. -/
theorem ofAssignments_eq (same : ∀ name, lastAssigned? first name = lastAssigned? second name) :
    ofAssignments first = ofAssignments second := by
  apply ext_get?
  intro name
  rw [get?_ofAssignments, get?_ofAssignments, same]

/-! ## What an environment lists -/

/-- An environment is an ordered list of assignments: it lists each assigned name once, in increasing
order and with its last value, and it is read as it is listed. -/
structure Lists (env : Environment) (assignments : List (Name × Float)) : Prop where
  ascending : env.names.Pairwise (· < ·)
  mem_names : ∀ name, name ∈ env.names ↔ name ∈ assignments.map Prod.fst
  mem_entries : ∀ name value,
    (name, value) ∈ env.entries ↔ lastAssigned? assignments name = some value
  size : env.size = (assignments.map Prod.fst).toFinset.card
  get? : ∀ name value, env.get? name = some value ↔ (name, value) ∈ env.entries
  lookup : ∀ name value, (name, value) ∈ env.entries → env.lookup name = value
  lookup_other : ∀ name, name ∉ env.names → env.lookup name = Binary64.notANumber

theorem size_ofAssignments (assignments : List (Name × Float)) :
    (ofAssignments assignments).size = (assignments.map Prod.fst).toFinset.card := by
  have same : (ofAssignments assignments).names.toFinset = (assignments.map Prod.fst).toFinset := by
    ext name
    rw [List.mem_toFinset, List.mem_toFinset, mem_names_ofAssignments]
  rw [← same, List.toFinset_card_of_nodup (nodup_names _), names, List.length_map]
  rfl

/-- **Assignments make the environment that lists them.** -/
theorem lists_ofAssignments (assignments : List (Name × Float)) :
    (ofAssignments assignments).Lists assignments where
  ascending := names_ascending _
  mem_names _ := mem_names_ofAssignments
  mem_entries name value := by rw [← get?_eq_some_iff, get?_ofAssignments]
  size := size_ofAssignments assignments
  get? _ _ := get?_eq_some_iff
  lookup name value listed := by
    rw [Environment.lookup, get?_eq_some_iff.mpr listed]
    rfl
  lookup_other name missing := by
    have none : (ofAssignments assignments).get? name = Option.none := by
      rw [Option.eq_none_iff_forall_ne_some]
      intro value found
      exact missing (mem_names_iff.mpr ⟨value, found⟩)
    rw [Environment.lookup, none]
    rfl

end Calculator.Environment
