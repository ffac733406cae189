/-
# Calculator.Proofs.Parse.Rejected — brackets that the parser rejects when they close

A bracket around an assignment to something that is not a variable is a form like any other, and the
parser rejects it when it closes.  `Rejects` says where tokens end with such a bracket, without
reference to a parser, and `Quiet` that no beginning of the tokens does.

Brackets never overlap: a bracket that begins within a form also ends within it (`Form.apart`).  So
the first rejected bracket of a sentence can be looked for side by side, and everything to the left of
it is quiet and can be read.  That is how the parser comes to it (`operand_of_rejects`).
-/

import Calculator.Proofs.Parse.Accept
import Calculator.Proofs.Parse.Due
import Mathlib.Data.Nat.Find

namespace Calculator.Parse

/-! ## Rejected brackets -/

/-- The tokens end with a bracket around an assignment to a target that is not a variable. -/
def Rejects (target : Expr) (tokens : List Token) : Prop :=
  ∃ before group value, tokens = before ++ group
    ∧ Form (.operation .assign target value) group ∧ target.isName = false

/-- No bracket that closes in the tokens is rejected. -/
def Quiet (tokens : List Token) : Prop :=
  ∀ q, q <+: tokens → ∀ target, ¬ Rejects target q

/-- The first bracket of the tokens that is rejected when it closes assigns to the target. -/
def RejectsFirst (target : Expr) (tokens : List Token) : Prop :=
  ∃ q, q <+: tokens ∧ Rejects target q
    ∧ ∀ q', q' <+: tokens → ∀ target', Rejects target' q' → q <+: q'

variable {target : Expr} {tokens : List Token}

theorem Form.opening {op : Operator} {left right : Expr} {group : List Token}
    (h : Form (.operation op left right) group) : ∃ inside, group = .symbol '(' :: inside := by
  cases h with
  | operation hl ho hr => exact ⟨_, rfl⟩

theorem Rejects.bracket_mem (h : Rejects target tokens) : .symbol '(' ∈ tokens := by
  obtain ⟨before, group, value, rfl, form, -⟩ := h
  obtain ⟨inside, rfl⟩ := form.opening
  exact List.mem_append_right before List.mem_cons_self

theorem Rejects.append_left (h : Rejects target tokens) (before : List Token) :
    Rejects target (before ++ tokens) := by
  obtain ⟨inner, group, value, rfl, form, unnamed⟩ := h
  exact ⟨before ++ inner, group, value, (List.append_assoc ..).symm, form, unnamed⟩

theorem Quiet.of_prefix {q : List Token} (h : Quiet tokens) (shorter : q <+: tokens) : Quiet q := by
  intro q' within
  exact h q' (within.trans shorter)

theorem Quiet.of_append_right (before : List Token) (h : Quiet (before ++ tokens)) :
    Quiet tokens := by
  intro q within target rejects
  exact h (before ++ q) ((List.prefix_append_right_inj before).mpr within) target
    (rejects.append_left before)

theorem Quiet.of_append_left {behind : List Token} (h : Quiet (tokens ++ behind)) : Quiet tokens :=
  h.of_prefix (List.prefix_append tokens behind)

/-- Where some bracket is rejected there is a first one. -/
theorem exists_rejectsFirst (h : ¬ Quiet tokens) : ∃ target, RejectsFirst target tokens := by
  classical
  have rejected : ∃ n, ∃ q, q <+: tokens ∧ q.length = n ∧ ∃ target, Rejects target q := by
    apply Classical.byContradiction
    intro none
    apply h
    intro q within target rejects
    exact none ⟨q.length, q, within, rfl, target, rejects⟩
  obtain ⟨q, within, length, target, rejects⟩ := Nat.find_spec rejected
  refine ⟨target, q, within, rejects, ?_⟩
  intro q' within' target' rejects'
  -- of two beginnings of the same tokens the shorter one begins the other
  apply List.prefix_of_prefix_length_le within within'
  rw [length]
  exact Nat.find_min' rejected ⟨q', within', rfl, target', rejects'⟩

/-- In a quiet form all assignments are to variables. -/
theorem Form.targets_of_quiet {expr : Expr} {p : List Token} (h : Form expr p) (quiet : Quiet p) :
    expr.TargetsAreNames := by
  induction h with
  | number value => trivial
  | name valid => trivial
  | @operation op left right token ls rs hl ho hr ihl ihr =>
      have inside : Quiet (ls ++ token :: (rs ++ [.symbol ')'])) :=
        Quiet.of_append_right [.symbol '('] quiet
      have behindLeft : Quiet (rs ++ [.symbol ')']) :=
        Quiet.of_append_right [token] (inside.of_append_right ls)
      refine ⟨?_, ihl inside.of_append_left, ihr behindLeft.of_append_left⟩
      rintro rfl
      apply eq_true_of_ne_false
      intro unnamed
      exact quiet _ (List.prefix_refl _) left ⟨[], _, right, rfl, hl.operation ho hr, unnamed⟩

/-! ## Brackets never overlap -/

/-- Wherever the two meet in a list of tokens, the bracket lies behind the part or within it. -/
def Apart (group p : List Token) : Prop :=
  ∀ rest before behind, p ++ rest = before ++ group ++ behind →
    p <+: before ∨ before ++ group <+: p

/-- A bracket does not begin at a token that is not an opening one. -/
theorem apart_singleton {group : List Token} {token : Token}
    (opening : ∃ inside, group = .symbol '(' :: inside) (other : token ≠ .symbol '(') :
    Apart group [token] := by
  obtain ⟨inside, rfl⟩ := opening
  intro rest before behind same
  cases before with
  | nil => exact absurd (List.cons.inj same).1 other
  | cons first before =>
      obtain ⟨rfl, -⟩ := List.cons.inj same
      exact Or.inl ⟨before, rfl⟩

/-- A bracket that begins inside another one lies in the left side, in the right side or behind. -/
theorem bracket_cases {group ls rs rest before behind : List Token} {token : Token}
    (opening : ∃ inside, group = .symbol '(' :: inside) (separates : token ≠ .symbol '(')
    (hl : Apart group ls) (hr : Apart group rs)
    (same : ls ++ token :: (rs ++ .symbol ')' :: rest) = before ++ group ++ behind) :
    before ++ group <+: ls
      ∨ (∃ y, before = ls ++ token :: y ∧ y ++ group <+: rs)
      ∨ ∃ w, before = ls ++ token :: (rs ++ .symbol ')' :: w) := by
  obtain ⟨inside, rfl⟩ := opening
  rcases hl _ _ _ same with ⟨x, rfl⟩ | within
  · rw [List.append_assoc, List.append_assoc, List.append_cancel_left_eq] at same
    cases x with
    | nil => exact absurd (List.cons.inj same).1 separates
    | cons t y =>
        obtain ⟨rfl, atRight⟩ := List.cons.inj same
        replace atRight : rs ++ .symbol ')' :: rest = y ++ (.symbol '(' :: inside) ++ behind := by
          rw [List.append_assoc]
          exact atRight
        rcases hr _ _ _ atRight with ⟨z, rfl⟩ | within
        · rw [List.append_assoc, List.append_assoc, List.append_cancel_left_eq] at atRight
          cases z with
          | nil => exact absurd (List.cons.inj atRight).1 (by decide)
          | cons t w =>
              obtain ⟨rfl, -⟩ := List.cons.inj atRight
              exact Or.inr (Or.inr ⟨w, rfl⟩)
        · exact Or.inr (Or.inl ⟨y, rfl, within⟩)
  · exact Or.inl within

/-- **A bracket that begins within a form ends within it.** -/
theorem Form.apart {expr left right : Expr} {op : Operator} {p group : List Token}
    (h : Form expr p) (hg : Form (.operation op left right) group) : Apart group p := by
  induction h with
  | number value => exact apart_singleton hg.opening (by simp)
  | name valid => exact apart_singleton hg.opening (by simp)
  | @operation op' left' right' token ls rs hl ho hr ihl ihr =>
      intro rest before behind same
      cases before with
      | nil =>
          -- two forms that begin together are the same
          obtain ⟨-, rfl, -⟩ := (hl.operation ho hr).append_inj hg same
          exact Or.inr (List.prefix_refl _)
      | cons first before =>
          obtain ⟨rfl, inside⟩ := List.cons.inj same
          have separates : token ≠ .symbol '(' := by
            rintro rfl
            exact not_operatorForm_bracket (Or.inl rfl) ho
          have tail : ls ++ token :: (rs ++ .symbol ')' :: rest) = before ++ group ++ behind := by
            simpa using inside
          rcases bracket_cases hg.opening separates ihl ihr tail with
            ⟨z, rfl⟩ | ⟨y, rfl, z, rfl⟩ | ⟨w, rfl⟩
          · exact Or.inr ⟨z ++ token :: (rs ++ [.symbol ')']), by simp⟩
          · exact Or.inr ⟨z ++ [.symbol ')'], by simp⟩
          · exact Or.inl ⟨w, by simp⟩

/-! ## The parser comes to the first rejected bracket -/

/-- Whatever is in front, only the last token of a part that is quiet before it may end a rejected
bracket. -/
theorem quiet_dropLast_of_append (before : List Token) {q : List Token} (some : q ≠ [])
    (quiet : Quiet (before ++ q).dropLast) : Quiet q.dropLast := by
  rw [List.dropLast_append_of_ne_nil some] at quiet
  exact quiet.of_append_right before

/-- **The parser stops at the first bracket that is rejected**, whatever is behind it. -/
theorem operand_of_rejects {expr : Expr} {p q behind : List Token} (h : Form expr p)
    (split : p = q ++ behind) {levels : Nat} (fits : expr.nesting ≤ levels)
    (rejects : Rejects target q) (first : Quiet q.dropLast) (rest : List Token) :
    (operand levels (q ++ rest)).result = .error (.invalidAssignmentTarget target) := by
  induction h generalizing levels q behind rest with
  | number value =>
      have mem := List.mem_append_left behind rejects.bracket_mem
      rw [← split] at mem
      exact absurd mem (by simp)
  | name valid =>
      have mem := List.mem_append_left behind rejects.bracket_mem
      rw [← split] at mem
      exact absurd mem (by simp)
  | @operation op left right token ls rs hl ho hr ihl ihr =>
      obtain ⟨before, group, value, rfl, hg, unnamed⟩ := rejects
      have some : group ≠ [] := by
        obtain ⟨inside, rfl⟩ := hg.opening
        exact List.cons_ne_nil _ _
      obtain ⟨levels, rfl, leftFits, rightFits⟩ := Expr.nesting_operation_le_iff.mp fits
      cases before with
      | nil =>
          -- the rejected bracket is the whole form, and both of its sides are quiet
          obtain ⟨same, rfl, -⟩ := (hl.operation ho hr).append_inj hg
            ((List.append_nil _).trans split)
          obtain ⟨rfl, rfl, rfl⟩ := Expr.operation.inj same
          have sides : Quiet (ls ++ token :: rs) := by
            apply Quiet.of_append_right [.symbol '(']
            have whole : .symbol '(' :: (ls ++ token :: (rs ++ [.symbol ')']))
                = [.symbol '('] ++ (ls ++ token :: rs) ++ [.symbol ')'] := by simp
            rwa [List.nil_append, whole, List.dropLast_concat] at first
          have rightQuiet : Quiet rs :=
            Quiet.of_append_right [token] (sides.of_append_right ls)
          simp only [List.nil_append, List.cons_append, List.append_assoc]
          exact operand_of_close_error hl (hl.targets_of_quiet sides.of_append_left) leftFits ho
            hr (hr.targets_of_quiet rightQuiet) rightFits (close_of_unnamed rest unnamed)
      | cons opening before =>
          obtain ⟨rfl, inside⟩ := List.cons.inj split
          have separates : token ≠ .symbol '(' := by
            rintro rfl
            exact not_operatorForm_bracket (Or.inl rfl) ho
          have tail : ls ++ token :: (rs ++ .symbol ')' :: []) = before ++ group ++ behind := by
            simpa using inside
          rcases bracket_cases hg.opening separates (hl.apart hg) (hr.apart hg) tail with
            ⟨z, within⟩ | ⟨y, rfl, z, within⟩ | ⟨w, rfl⟩
          · have leftFails := ihl within.symm leftFits ⟨before, group, value, rfl, hg, unnamed⟩
              (quiet_dropLast_of_append [.symbol '('] (by simp [some]) first) rest
            exact operand_of_left_error leftFails
          · -- the left side ends before the rejected bracket begins
            have leftQuiet : Quiet ls := by
              have early : Quiet (.symbol '(' :: (ls ++ token :: (y ++ group.dropLast))) := by
                rw [List.dropLast_append_of_ne_nil some] at first
                simpa using first
              exact (Quiet.of_append_right [.symbol '('] early).of_append_left
            have rightFirst : Quiet (y ++ group).dropLast := by
              apply quiet_dropLast_of_append (.symbol '(' :: (ls ++ [token]))
              · simp [some]
              · simpa using first
            have rightFails := ihr within.symm rightFits ⟨y, group, value, rfl, hg, unnamed⟩
              rightFirst rest
            simp only [List.cons_append, List.append_assoc]
            rw [List.append_assoc] at rightFails
            exact operand_of_right_error hl (hl.targets_of_quiet leftQuiet) leftFits ho rightFails
          · exact absurd tail (by simp [some])

end Calculator.Parse
