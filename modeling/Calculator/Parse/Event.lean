/-
# Calculator.Parse.Event — what a parser reports while it works

A parser reports every pair of brackets when it reaches the closing one, so inner pairs come before
the pair around them.  When it has the whole expression it reports that too, and then the tokens behind
the expression if there are any.  A parser that fails has reported the pairs it had closed until then.

`Traced` is a computation of this kind: the events, and a result or an error.  Running one after
another puts their events in a row and stops at the first error.
-/

import Calculator.Log
import Calculator.Parse.Error

namespace Calculator.Parse

/-! ## Events -/

/-- A step that a parser reports. -/
inductive Event where
  /-- A pair of brackets was closed around an operator and its two sides. -/
  | group (left : Expr) (operator : Operator) (right : Expr)
  /-- The whole expression was read. -/
  | expression (expr : Expr)
  /-- Tokens were left over behind the expression. -/
  | remaining (tokens : List Token)
  deriving DecidableEq

/-- The record of an event in a log. -/
def Event.record : Event → Log.Record
  | group left operator right =>
    ⟨.trace, "L:" ++ left.canonical ++ " OP:" ++ String.singleton operator.symbol
      ++ " R:" ++ right.canonical⟩
  | expression expr => ⟨.debug, "EXPR: " ++ expr.canonical⟩
  | remaining tokens =>
    ⟨.warn, "ignoring " ++ toString tokens.length ++ " trailing token(s): "
      ++ " ".intercalate (tokens.map Token.text)⟩

/-! ## Computations that report -/

/-- The events of a computation and what it came to. -/
structure Traced (α : Type) where
  events : List Event
  result : Except Error α

namespace Traced

variable {α β : Type}

/-- A result without events. -/
def ok (a : α) : Traced α := ⟨[], .ok a⟩

/-- An error without events. -/
def fail (error : Error) : Traced α := ⟨[], .error error⟩

/-- One event and no result to speak of. -/
def report (event : Event) : Traced Unit := ⟨[event], .ok ()⟩

/-- The second computation after the first, unless the first failed. -/
def andThen (x : Traced α) (f : α → Traced β) : Traced β :=
  match x.result with
  | .ok a => ⟨x.events ++ (f a).events, (f a).result⟩
  | .error error => ⟨x.events, .error error⟩

instance : Monad Traced where
  pure := ok
  bind := andThen

@[simp]
theorem events_pure (a : α) : (pure a : Traced α).events = [] := rfl

@[simp]
theorem result_pure (a : α) : (pure a : Traced α).result = .ok a := rfl

@[simp]
theorem ok_bind (a : α) (f : α → Traced β) : ok a >>= f = f a := rfl

@[simp]
theorem mk_ok_bind (events : List Event) (a : α) (f : α → Traced β) :
    (⟨events, .ok a⟩ : Traced α) >>= f = ⟨events ++ (f a).events, (f a).result⟩ := rfl

theorem bind_eq_of_ok {x : Traced α} {f : α → Traced β} {a : α} (h : x.result = .ok a) :
    x >>= f = ⟨x.events ++ (f a).events, (f a).result⟩ := by
  show andThen x f = _
  simp [andThen, h]

/-- A chain has a result when both of its parts have one. -/
theorem result_bind_eq_ok_iff {x : Traced α} {f : α → Traced β} {b : β} :
    (x >>= f).result = .ok b ↔ ∃ a, x.result = .ok a ∧ (f a).result = .ok b := by
  show (andThen x f).result = .ok b ↔ _
  cases h : x.result <;> simp [andThen, h]

theorem bind_eq_of_error {x : Traced α} {f : α → Traced β} {error : Error}
    (h : x.result = .error error) : x >>= f = ⟨x.events, .error error⟩ := by
  show andThen x f = _
  simp [andThen, h]

end Traced

end Calculator.Parse
