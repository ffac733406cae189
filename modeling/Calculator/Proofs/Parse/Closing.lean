/-
# Calculator.Proofs.Parse.Closing — the brackets that close in a list of tokens

A closing bracket belongs to the bracket pair that it closes, and that pair is a form of an operation:
it has a left side, an operator and a right side.  `Closings` lists these for all closing brackets of
some tokens, in the order in which they stand.  It looks at tokens and forms only and knows of no
parser.

A bracket pair is found from its end as well as from its beginning (`Form.append_left_inj`), so there
is at most one such list (`Closings.unique`).  It has one entry for each closing bracket, and for the
tokens of a form it is the list of the groups of the expression.
-/

import Calculator.Proofs.Parse.Rejected

namespace Calculator.Parse

/-! ## A bracket pair from its end -/

theorem Form.ne_nil {expr : Expr} {p : List Token} (h : Form expr p) : p ≠ [] := by
  cases h <;> exact List.cons_ne_nil _ _

/-- A bracket pair in another one does not end where the other one does. -/
theorem Form.not_suffix {op op' : Operator} {left right left' right' : Expr}
    {group inside before : List Token} {first : Token}
    (h : Form (.operation op left right) group) (h' : Form (.operation op' left' right') inside) :
    group ≠ first :: (before ++ inside) := by
  rintro rfl
  have some := List.length_pos_iff.mpr h'.ne_nil
  generalize whole : first :: (before ++ inside) = tokens at h
  cases h with
  | @operation _ _ _ token ls rs hl ho hr =>
      have separates : token ≠ .symbol '(' := by
        rintro rfl
        exact not_operatorForm_bracket (Or.inl rfl) ho
      have tail : ls ++ token :: (rs ++ .symbol ')' :: []) = before ++ inside ++ [] := by
        rw [List.append_nil]
        exact (List.cons.inj whole).2.symm
      have lengths := congrArg List.length tail
      -- wherever the inner pair lies, at least the closing bracket of the outer one is behind it
      rcases bracket_cases h'.opening separates (hl.apart h') (hr.apart h') tail with
        ⟨z, rfl⟩ | ⟨y, rfl, z, rfl⟩ | ⟨w, rfl⟩
      all_goals
        simp only [List.length_append, List.length_cons, List.length_nil] at lengths
        omega

/-- **Two bracket pairs that end the same tokens are the same pair.** -/
theorem Form.append_left_inj {op op' : Operator} {left right left' right' : Expr}
    {group group' before before' : List Token} (h : Form (.operation op left right) group)
    (h' : Form (.operation op' left' right') group') (same : before ++ group = before' ++ group') :
    op = op' ∧ left = left' ∧ right = right' := by
  have one : group = group' := by
    rcases List.append_eq_append_iff.mp same with ⟨x, -, split⟩ | ⟨x, -, split⟩
    · cases x with
      | nil => exact split
      | cons first x => exact absurd split (h.not_suffix h')
    · cases x with
      | nil => exact split.symm
      | cons first x => exact absurd split (h'.not_suffix h)
  obtain ⟨sameExpr, -, -⟩ := h.append_inj h' (congrArg (· ++ []) one)
  exact Expr.operation.inj sameExpr

/-! ## All closing brackets -/

/-- The groups that the closing brackets of some tokens close, in the order of these brackets. -/
inductive Closings : List Token → List Event → Prop
  | nil : Closings [] []
  | other {q : List Token} {events : List Event} {token : Token} : Closings q events →
      token ≠ .symbol ')' → Closings (q ++ [token]) events
  | closing {q before group : List Token} {events : List Event} {op : Operator}
      {left right : Expr} : Closings q events → q ++ [.symbol ')'] = before ++ group →
      Form (.operation op left right) group →
      Closings (q ++ [.symbol ')']) (events ++ [.group left op right])

variable {q q' : List Token} {events events' : List Event}

theorem Closings.singleton {token : Token} (other : token ≠ .symbol ')') : Closings [token] [] :=
  Closings.nil.other other

/-- What closes in the second part of some tokens closes behind what closes in the first. -/
theorem Closings.append (h : Closings q events) (h' : Closings q' events') :
    Closings (q ++ q') (events ++ events') := by
  induction h' with
  | nil => simpa using h
  | other _ differs ih =>
      rw [← List.append_assoc]
      exact ih.other differs
  | @closing r before group later op left right _ split form ih =>
      rw [← List.append_assoc, ← List.append_assoc]
      have whole : q ++ r ++ [.symbol ')'] = (q ++ before) ++ group := by
        rw [List.append_assoc, split, List.append_assoc]
      exact ih.closing whole form

theorem OperatorForm.ne_closing {op : Operator} {token : Token} (h : OperatorForm op token) :
    token ≠ .symbol ')' := by
  rintro rfl
  exact not_operatorForm_bracket (Or.inr rfl) h

/-- What closes inside an opened bracket, up to somewhere in its right side. -/
theorem Closings.inside {op : Operator} {token : Token} {ls : List Token} (hl : Closings ls events)
    (ho : OperatorForm op token) (h : Closings q events') :
    Closings (.symbol '(' :: (ls ++ token :: q)) (events ++ events') := by
  have opened : Closings [.symbol '('] [] := Closings.singleton (by decide)
  have operator : Closings [token] [] := Closings.singleton ho.ne_closing
  exact opened.append (hl.append (operator.append h))

/-- In a form the groups of the expression close. -/
theorem Form.closings {expr : Expr} {p : List Token} (h : Form expr p) : Closings p (groups expr) := by
  induction h with
  | number value => exact Closings.singleton (by simp)
  | name valid => exact Closings.singleton (by simp)
  | @operation op left right token ls rs hl ho hr ihl ihr =>
      have sides : Closings (.symbol '(' :: (ls ++ token :: rs)) (groups left ++ groups right) :=
        ihl.inside ho ihr
      have whole : .symbol '(' :: (ls ++ token :: rs) ++ [.symbol ')']
          = [] ++ .symbol '(' :: (ls ++ token :: (rs ++ [.symbol ')'])) := by simp
      have closed := sides.closing whole (hl.operation ho hr)
      rwa [whole] at closed

/-- There is one entry for each closing bracket. -/
theorem Closings.length_eq (h : Closings q events) :
    events.length = q.countP fun token => token = .symbol ')' := by
  induction h with
  | nil => rfl
  | other _ differs ih => simp [ih, differs]
  | closing _ _ _ ih => simp [ih]

/-- Nothing but groups is listed. -/
theorem Closings.exists_group (h : Closings q events) :
    ∀ event ∈ events, ∃ left op right, event = .group left op right := by
  induction h with
  | nil => simp
  | other _ _ ih => exact ih
  | @closing _ _ _ events op left right _ _ _ ih =>
      intro event mem
      rcases List.mem_append.mp mem with earlier | last
      · exact ih event earlier
      · exact ⟨left, op, right, List.mem_singleton.mp last⟩

/-- **The closing brackets of some tokens have one list of groups.** -/
theorem Closings.unique (h : Closings q events) (h' : Closings q events') : events = events' := by
  induction h generalizing events' with
  | nil =>
      generalize empty : ([] : List Token) = r at h'
      cases h' with
      | nil => rfl
      | other _ _ => exact absurd empty (by simp)
      | closing _ _ _ => exact absurd empty (by simp)
  | @other q events token _ differs ih =>
      generalize same : q ++ [token] = r at h'
      cases h' with
      | nil => exact absurd same (by simp)
      | other earlier _ =>
          obtain ⟨rfl, -⟩ := List.append_inj' same rfl
          exact ih earlier
      | closing _ _ _ =>
          obtain ⟨-, last⟩ := List.append_inj' same rfl
          exact absurd (List.cons.inj last).1 differs
  | @closing q before group events op left right _ split form ih =>
      generalize same : q ++ [.symbol ')'] = r at h' split
      cases h' with
      | nil => exact absurd same (by simp)
      | other _ differs =>
          obtain ⟨-, last⟩ := List.append_inj' same rfl
          exact absurd (List.cons.inj last).1.symm differs
      | closing earlier split' form' =>
          obtain ⟨rfl, -⟩ := List.append_inj' same rfl
          obtain ⟨rfl, rfl, rfl⟩ := form.append_left_inj form' (split.symm.trans split')
          rw [ih earlier]

end Calculator.Parse
