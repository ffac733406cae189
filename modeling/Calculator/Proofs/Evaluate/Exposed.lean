/-
# Calculator.Proofs.Evaluate.Exposed — what the value of an expression depends on

An evaluation reads variables and stores into variables, in an order that the expression alone decides
(`accesses`).  A name that is read before anything is stored under it is exposed: what is read is then
what the environment held before.  In `(a = (a * 5))` the name is exposed, because the right side comes
before the store; in `((a = 3) + (a * 2))` it is not.

Nothing else of the environment matters.  Two environments that read the same under every exposed name
give the same value, and afterwards they read the same under every name that was assigned, and still do
under every other name under which they did before (`evaluate_agree`).  It is what reading gives that
counts, so a name that is not set is the same as one that is set to what is not a number.
-/

import Calculator.Proofs.Environment.Lookup
import Calculator.Proofs.Evaluate.Place
import Calculator.Proofs.Evaluate.Total

namespace Calculator

/-- What evaluation does with a variable. -/
inductive Access where
  | read (name : Name)
  | store (name : Name)
  deriving DecidableEq

namespace Expr

/-! ## Reads and stores in order -/

/-- The reads and stores of an evaluation in their order: left before right, and the right side of an
assignment before its store.  An assignment to what is not a variable fails before either. -/
def accesses : Expr → List Access
  | number _ => []
  | name n => [.read n]
  | operation (.arithmetic _) left right => left.accesses ++ right.accesses
  | operation .assign (name n) right => right.accesses ++ [.store n]
  | operation .assign _ _ => []

/-- A name is read before anything is stored under it. -/
def Exposed (expr : Expr) (n : Name) : Prop :=
  ∃ before behind, expr.accesses = before ++ .read n :: behind ∧ .store n ∉ before

variable {expr left right : Expr} {n m : Name} {arithmetic : Arithmetic}

/-- What is stored under is what is assigned. -/
theorem store_mem_accesses_iff (targets : expr.TargetsAreNames) :
    .store n ∈ expr.accesses ↔ expr.Assigns n := by
  induction expr with
  | number value => simp [accesses, not_assigns_number]
  | name m => simp [accesses, not_assigns_name]
  | operation op left right ihl ihr =>
      obtain ⟨target, leftTargets, rightTargets⟩ := targets
      rw [assigns_operation]
      cases op with
      | arithmetic arithmetic =>
          rw [accesses, List.mem_append, ihl leftTargets, ihr rightTargets]
          simp
      | assign =>
          obtain ⟨m, rfl⟩ := exists_of_isName (target rfl)
          rw [accesses, List.mem_append, ihr rightTargets]
          simp [not_assigns_name, eq_comm, or_comm]

theorem Exposed.of_name : (name n).Exposed n :=
  ⟨[], [], rfl, List.not_mem_nil⟩

theorem Exposed.of_left (h : left.Exposed n) :
    (operation (.arithmetic arithmetic) left right).Exposed n := by
  obtain ⟨before, behind, split, first⟩ := h
  refine ⟨before, behind ++ right.accesses, ?_, first⟩
  rw [accesses, split, List.append_assoc, List.cons_append]

/-- A name that the left side assigns is not exposed by the right side. -/
theorem Exposed.of_right (targets : left.TargetsAreNames) (never : ¬ left.Assigns n)
    (h : right.Exposed n) : (operation (.arithmetic arithmetic) left right).Exposed n := by
  obtain ⟨before, behind, split, first⟩ := h
  refine ⟨left.accesses ++ before, behind, ?_, ?_⟩
  · rw [accesses, split, List.append_assoc]
  · rw [List.mem_append, store_mem_accesses_iff targets]
    exact not_or.mpr ⟨never, first⟩

/-- The name that is assigned can be exposed by the right side. -/
theorem Exposed.of_value (h : right.Exposed n) :
    (operation .assign (name m) right).Exposed n := by
  obtain ⟨before, behind, split, first⟩ := h
  refine ⟨before, behind ++ [.store m], ?_, first⟩
  rw [accesses, split, List.append_assoc, List.cons_append]

/-! ## Two environments -/

/-- **Only what is exposed matters.**  If all assignments are to variables, and two environments read
the same under every exposed name, then the expression has the same value in both.  Afterwards they
read the same under every name that the expression assigns, and under every name under which they did
before. -/
theorem evaluate_agree (targets : expr.TargetsAreNames) {env other : Environment}
    (agree : ∀ n, expr.Exposed n → env.lookup n = other.lookup n) :
    ∃ value after otherAfter, expr.evaluate env = (.ok value, after)
      ∧ expr.evaluate other = (.ok value, otherAfter)
      ∧ ∀ n, expr.Assigns n ∨ env.lookup n = other.lookup n →
          after.lookup n = otherAfter.lookup n := by
  induction expr generalizing env other with
  | number value =>
      refine ⟨value, env, other, rfl, rfl, ?_⟩
      intro n cause
      exact cause.resolve_left not_assigns_number
  | name m =>
      refine ⟨env.lookup m, env, other, rfl, ?_, ?_⟩
      · rw [agree m .of_name, Expr.evaluate]
      · intro n cause
        exact cause.resolve_left not_assigns_name
  | operation op left right ihl ihr =>
      obtain ⟨target, leftTargets, rightTargets⟩ := targets
      cases op with
      | arithmetic arithmetic =>
          obtain ⟨x, between, otherBetween, leftRun, otherLeftRun, sameBetween⟩ :=
            ihl leftTargets fun n exposed => agree n exposed.of_left
          -- what the right side exposes was assigned by the left one, or the whole exposes it
          have agreeBetween : ∀ n, right.Exposed n → between.lookup n = otherBetween.lookup n := by
            intro n exposed
            apply sameBetween n
            by_cases assigned : left.Assigns n
            · exact Or.inl assigned
            · exact Or.inr (agree n (exposed.of_right leftTargets assigned))
          obtain ⟨y, after, otherAfter, rightRun, otherRightRun, sameAfter⟩ :=
            ihr rightTargets agreeBetween
          refine ⟨arithmetic.apply x y, after, otherAfter, ?_, ?_, ?_⟩
          · simp only [Expr.evaluate, leftRun, rightRun]
          · simp only [Expr.evaluate, otherLeftRun, otherRightRun]
          · intro n cause
            apply sameAfter n
            rcases cause with assigned | same
            · rcases assigns_operation.mp assigned with ⟨here, -⟩ | inLeft | inRight
              · exact absurd here (by simp)
              · exact Or.inr (sameBetween n (Or.inl inLeft))
              · exact Or.inl inRight
            · exact Or.inr (sameBetween n (Or.inr same))
      | assign =>
          obtain ⟨m, rfl⟩ := exists_of_isName (target rfl)
          obtain ⟨value, between, otherBetween, rightRun, otherRightRun, sameBetween⟩ :=
            ihr rightTargets fun n exposed => agree n exposed.of_value
          refine ⟨value, between.assign m value, otherBetween.assign m value, ?_, ?_, ?_⟩
          · simp only [Expr.evaluate, rightRun]
          · simp only [Expr.evaluate, otherRightRun]
          · intro n cause
            rw [Environment.lookup_assign, Environment.lookup_assign]
            split
            · rfl
            · rename_i different
              apply sameBetween n
              rcases cause with assigned | same
              · rcases assigns_operation.mp assigned with ⟨-, here⟩ | inTarget | inRight
                · exact absurd (name.inj here).symm different
                · exact absurd inTarget not_assigns_name
                · exact Or.inl inRight
              · exact Or.inr same

/-- `((a = 3) + (a * b))` exposes `b` and not `a`, so it has the same value where neither is set and
where `a` is one and `b` is not a number. -/
theorem evaluate_agree_sum :
    let sum : Expr := .operation (.arithmetic .add) (.operation .assign (.name ⟨"a"⟩) (.number 3))
      (.operation (.arithmetic .mul) (.name ⟨"a"⟩) (.name ⟨"b"⟩))
    let other := (Environment.empty.assign ⟨"a"⟩ 1).assign ⟨"b"⟩ Binary64.notANumber
    sum.TargetsAreNames
      ∧ (∀ n, sum.Exposed n → Environment.empty.lookup n = other.lookup n)
      ∧ Environment.empty.lookup ⟨"a"⟩ ≠ other.lookup ⟨"a"⟩
      ∧ (sum.evaluate .empty).1 = (sum.evaluate other).1
      ∧ (sum.evaluate .empty).2.lookup ⟨"a"⟩ = (sum.evaluate other).2.lookup ⟨"a"⟩ := by
  intro sum other
  have targets : sum.TargetsAreNames := by decide
  have agree : ∀ n, sum.Exposed n → Environment.empty.lookup n = other.lookup n := by
    rintro n ⟨before, behind, split, first⟩
    have onlyB : n = ⟨"b"⟩ := by
      match before, split, first with
      | [], split, _ => exact absurd (List.cons.inj split).1 (by simp)
      | [store], split, first =>
          obtain ⟨rfl, rest⟩ := List.cons.inj split
          obtain rfl : Name.mk "a" = n := Access.read.inj (List.cons.inj rest).1
          exact absurd List.mem_cons_self first
      | [_, _], split, _ =>
          exact (Access.read.inj (List.cons.inj (List.cons.inj (List.cons.inj split).2).2).1).symm
      | _ :: _ :: _ :: _, split, _ =>
          have rest := (List.cons.inj (List.cons.inj (List.cons.inj split).2).2).2
          exact absurd rest (by simp)
    rw [onlyB, Environment.lookup_assign, if_pos rfl]
    rfl
  obtain ⟨value, after, otherAfter, run, otherRun, same⟩ := evaluate_agree targets agree
  refine ⟨targets, agree, by decide +kernel, ?_, ?_⟩
  · rw [run, otherRun]
  · rw [run, otherRun]
    exact same _ (Or.inl (Assigns.of_left ⟨.number 3, List.mem_cons_self⟩))

end Expr

end Calculator
