/-
# Calculator.Proofs.Parse.Report — the reports of the parser tell what it did

A run that succeeds reports the groups of its expression in postorder, then the expression, and then
the tokens that are left over if there are any.  A run that fails reports groups and nothing else: one
for each closing bracket that it accepted, in the order of these brackets.  Which tokens it accepted is
said by the grammar (`StopsBehind`): all tokens in front of the fault, or, where a bracket is rejected,
all tokens up to the one that closes it.

The parser collects its reports.  A parser may also hand each report to a sink as it goes along, and a
sink may do with it what it likes.  `expressionTo` is that parser, step by step the same with a sink in
hand.  It gives the same result for every sink, and the sink is handed the same reports in the same
order (`expressionTo_eq`).  A log is a sink that keeps the record of each report, and the record shows
all of it but the tokens that are left over, of which it shows the number and the texts
(`Event.Shows`).
-/

import Calculator.Proofs.Evaluate.Targets
import Calculator.Proofs.Parse.Fault
import Calculator.Proofs.Parse.Stopped

namespace Calculator.Parse

/-! ## Which tokens a failing parser has accepted -/

/-- The tokens behind which a parser that fails stops: in front of the fault, or behind the closing
bracket of the first pair that is rejected. -/
inductive StopsBehind (tokens : List Token) : Error → List Token → Prop
  | fault {error : Error} {accepted : List Token} : accepted <+: tokens →
      IsFault maxDepth tokens accepted.length → Quiet accepted →
      (∀ target, error ≠ .invalidAssignmentTarget target) → StopsBehind tokens error accepted
  | rejected {target : Expr} {inside : List Token} : inside ++ [.symbol ')'] <+: tokens →
      Quiet inside → Rejects target (inside ++ [.symbol ')']) →
      StopsBehind tokens (.invalidAssignmentTarget target) (inside ++ [.symbol ')'])

variable {tokens read rest : List Token} {error : Error} {events : List Event}

/-- Nothing that was read has been rejected, since it would have been the error. -/
theorem Stopped.quiet (h : Stopped maxDepth read rest error events) : Quiet read := by
  apply Classical.byContradiction
  intro loud
  obtain ⟨target, first⟩ := exists_rejectsFirst loud
  have rejected := expression_of_rejectsFirst h.unfinished.begins first []
  rw [List.append_nil] at rejected
  obtain ⟨e, alone, other⟩ := h.alone
  rw [expression_eq_error alone] at rejected
  exact other target (Except.error.inj rejected)

/-- The next token does not go on with the sentence.  If it did, some sentence would begin with it, and
a sentence fails for a rejected bracket or not at all. -/
theorem Stopped.isFault (h : Stopped maxDepth read rest error events)
    (other : ∀ target, error ≠ .invalidAssignmentTarget target) :
    IsFault maxDepth (read ++ rest) read.length := by
  refine ⟨by simp, by simpa using h.unfinished, ?_⟩
  cases rest with
  | nil => exact Or.inl (by simp)
  | cons token behind =>
      refine Or.inr ?_
      have next : (read ++ token :: behind).take (read.length + 1) = read ++ [token] := by
        simp [List.take_append]
      rw [next]
      rintro ⟨others, expr, form, fits⟩
      have failed := h.ahead (token :: others) rfl
      have same : read ++ [token] ++ others = read ++ token :: others := List.append_assoc ..
      rw [same] at form
      have whole := expression_eq_error failed
      rw [← List.append_nil (read ++ token :: others)] at whole
      obtain ⟨target, -, bad⟩ := (expression_eq_error_iff form [] fits error).mp whole
      exact other target bad

/-- A run on all tokens fails as the run on its operand does. -/
theorem operand_of_expression_error (failed : (expression tokens).result = .error error) :
    (operand maxDepth tokens).result = .error error
      ∧ (expression tokens).events = (operand maxDepth tokens).events := by
  cases run : (operand maxDepth tokens).result with
  | error e =>
      rw [expression_eq_error run] at failed
      rw [expression, Traced.bind_eq_of_error run]
      exact ⟨congrArg _ (Except.error.inj failed), rfl⟩
  | ok result =>
      obtain ⟨p, reads, rfl⟩ := reads_of_operand run
      rw [expression_of_form reads.form _ reads.targets reads.fits] at failed
      exact absurd failed (by simp)

/-- **A run that fails reports the groups that closed in what it accepted.**  Where a bracket is
rejected, its group is the last report. -/
theorem exists_stopsBehind (failed : (expression tokens).result = .error error) :
    ∃ accepted, StopsBehind tokens error accepted ∧ Closings accepted (expression tokens).events
      ∧ ∀ target, error = .invalidAssignmentTarget target →
          ∃ value, (expression tokens).events.getLast? = some (.group target .assign value) := by
  obtain ⟨run, same⟩ := operand_of_expression_error failed
  obtain ⟨read, rest, rfl, stopped⟩ := stopped_operand run
  rw [← same] at stopped
  have reported := stopped.reported
  generalize (expression (read ++ rest)).events = events at reported stopped ⊢
  cases reported with
  | closed other closings =>
      refine ⟨read, .fault (List.prefix_append ..) (stopped.isFault other) stopped.quiet other,
        closings, ?_⟩
      intro target bad
      exact absurd bad (other target)
  | @rejected behind target value earlier next rejects closings =>
      subst next
      refine ⟨_, .rejected ⟨behind, by simp⟩ stopped.quiet rejects, closings, ?_⟩
      intro target' bad
      obtain rfl := Error.invalidAssignmentTarget.inj bad
      exact ⟨value, by simp⟩

/-! ## Reporting to a sink -/

/-- A computation that hands its reports to a sink.  It takes the state of the sink along, and ends with
a result or an error. -/
abbrev Telling (σ : Type) := ExceptT Error (StateM σ)

section Sink

variable {σ α β : Type} (sink : σ → Event → σ)

/-- The sink receives an event. -/
def tell (event : Event) : Telling σ Unit := modify fun state => sink state event

/-- The operator at the front of the tokens; nothing is reported of it. -/
def operatorTo : List Token → Telling σ (Operator × List Token)
  | [] => throw .malformedExpression
  | token :: rest =>
    match operator? token with
    | some operator => return (operator, rest)
    | none => throw (.unknownOperator token)

/-- The operation whose closing bracket is at the front of the tokens; the sink has received it before
its left side is looked at. -/
def closeTo (left : Expr) (operator : Operator) (right : Expr) :
    List Token → Telling σ (Expr × List Token)
  | .symbol ')' :: rest => do
    tell sink (.group left operator right)
    if operator = .assign ∧ left.isName = false then throw (.invalidAssignmentTarget left)
    else return (.operation operator left right, rest)
  | _ => throw .malformedExpression

/-- The operand at the front of the tokens, read with a sink in hand. -/
def operandTo : Nat → List Token → Telling σ (Expr × List Token)
  | _, .number value :: rest => return (.number value, rest)
  | _, .word text :: rest =>
    if Name.isValid text then return (.name ⟨text⟩, rest)
    else throw (.invalidToken (some (.word text)))
  | 0, .symbol '(' :: _ => throw (.tooDeep maxDepth)
  | levels + 1, .symbol '(' :: rest => do
    let (left, rest) ← operandTo levels rest
    let (operator, rest) ← operatorTo rest
    let (right, rest) ← operandTo levels rest
    closeTo sink left operator right rest
  | _, tokens => throw (.invalidToken tokens.head?)

/-- The expression at the front of the tokens, read with a sink in hand. -/
def expressionTo (tokens : List Token) : Telling σ Expr := do
  let (expr, rest) ← operandTo sink maxDepth tokens
  tell sink (.expression expr)
  if rest ≠ [] then
    tell sink (.remaining rest)
  return expr

/-- Handing over what was collected, when all is done. -/
def Traced.handOver (x : Traced α) : Telling σ α :=
  ExceptT.mk fun state => (x.result, x.events.foldl sink state)

@[simp]
theorem handOver_ok (a : α) : (Traced.ok a).handOver sink = pure a := rfl

@[simp]
theorem handOver_fail (error : Error) : (Traced.fail error : Traced α).handOver sink = throw error := rfl

@[simp]
theorem handOver_report (event : Event) : (Traced.report event).handOver sink = tell sink event := rfl

/-- **Handing over goes step by step**: what the first computation reports, the sink receives before
the second one begins. -/
theorem handOver_bind (x : Traced α) (f : α → Traced β) :
    (x >>= f).handOver sink = x.handOver sink >>= fun a => (f a).handOver sink := by
  funext state
  cases result : x.result with
  | ok a =>
      rw [Traced.bind_eq_of_ok result]
      simp [Traced.handOver, bind, ExceptT.bind, ExceptT.bindCont, ExceptT.mk, StateT.bind, result]
  | error e =>
      rw [Traced.bind_eq_of_error result]
      simp [Traced.handOver, bind, ExceptT.bind, ExceptT.bindCont, ExceptT.mk, StateT.bind, result]
      rfl

theorem operatorTo_eq (tokens : List Token) : operatorTo tokens = (operator tokens).handOver sink := by
  cases tokens with
  | nil => rfl
  | cons token rest =>
      rw [operatorTo, operator]
      cases operator? token <;> rfl

theorem closeTo_eq (left : Expr) (op : Operator) (right : Expr) (tokens : List Token) :
    closeTo sink left op right tokens = (close left op right tokens).handOver sink := by
  fun_cases close left op right tokens with
  | case1 rest =>
      rw [closeTo, handOver_bind, handOver_report]
      congr 1
      funext _
      split <;> rfl
  | case2 _ other =>
      unfold closeTo
      split
      · rename_i rest
        exact absurd rfl (other rest)
      · rfl

theorem operandTo_eq (levels : Nat) (tokens : List Token) :
    operandTo sink levels tokens = (operand levels tokens).handOver sink := by
  fun_induction operand levels tokens with
  | case1 levels value tail => simp [operandTo]
  | case2 levels text tail valid => simp [operandTo, valid]
  | case3 levels text tail invalid => simp [operandTo, invalid]
  | case4 tail => simp [operandTo]
  | case5 levels inside ihl ihr =>
      simp only [operandTo, handOver_bind, ihl, operatorTo_eq sink, ihr, closeTo_eq]
  | case6 levels tokens noNumber noWord noBracket noBracket' =>
      rw [operandTo, handOver_fail] <;> assumption

theorem expressionTo_eq (tokens : List Token) :
    expressionTo sink tokens = (expression tokens).handOver sink := by
  unfold expressionTo expression
  rw [operandTo_eq, handOver_bind]
  congr 1
  funext result
  obtain ⟨expr, rest⟩ := result
  rw [handOver_bind, handOver_report]
  by_cases none : rest = []
  · simp only [ne_eq, none, not_true_eq_false, if_false]
    rfl
  · simp only [ne_eq, none, not_false_eq_true, if_true, handOver_bind, handOver_report]
    rfl

end Sink

/-! ## The log -/

/-- The sink that keeps the record of each report. -/
def keepRecord (records : List Log.Record) (event : Event) : List Log.Record :=
  records ++ [event.record]

theorem foldl_keepRecord (events : List Event) (records : List Log.Record) :
    events.foldl keepRecord records = records ++ events.map Event.record := by
  induction events generalizing records with
  | nil => simp
  | cons event events ih => simp [ih, keepRecord]

/-- What the log shows of a report, and how much it matters: single brackets are steps, shown by their
operator and its two sides; the expression is a result; and what is left over is something to be warned
about, shown by how many tokens there are and the text of each. -/
inductive Event.Shows : Event → Log.Record → Prop
  | group (left : Expr) (operator : Operator) (right : Expr) :
      Shows (.group left operator right)
        ⟨.trace, "L:" ++ left.canonical ++ " OP:" ++ String.singleton operator.symbol
          ++ " R:" ++ right.canonical⟩
  | expression (expr : Expr) : Shows (.expression expr) ⟨.debug, "EXPR: " ++ expr.canonical⟩
  | remaining (tokens : List Token) :
      Shows (.remaining tokens)
        ⟨.warn, "ignoring " ++ toString tokens.length ++ " trailing token(s): "
          ++ " ".intercalate (tokens.map Token.text)⟩

theorem Event.shows_record (event : Event) : event.Shows event.record := by
  cases event with
  | group left operator right => exact .group left operator right
  | expression expr => exact .expression expr
  | remaining tokens => exact .remaining tokens

/-- A log that is empty at first shows each report, in the order of the reports. -/
theorem shows_log (events : List Event) :
    List.Forall₂ Event.Shows events (events.foldl keepRecord []) := by
  rw [foldl_keepRecord, List.nil_append, List.forall₂_map_right_iff, List.forall₂_same]
  exact fun event _ => event.shows_record

/-! ## What the reports tell -/

/-- **The reports tell exactly what the parser did.**  If it succeeds they are the groups of the
expression in postorder, the expression, and the tokens that are left over if there are any.  If it fails
they are the groups that closed in the tokens it accepted, one for each closing bracket among these, and
where a bracket was rejected that is the last of them.  A parser with a sink in hand has the same result
and tells it the same, and the log has one record for each report, in the same order, which shows that
report. -/
theorem expression_reports (tokens : List Token) :
    (∀ expr, (expression tokens).result = .ok expr → ∃ p rest, tokens = p ++ rest ∧ Form expr p
      ∧ (expression tokens).events
        = groups expr ++ .expression expr :: (if rest = [] then [] else [.remaining rest]))
    ∧ (∀ error, (expression tokens).result = .error error → ∃ accepted,
      StopsBehind tokens error accepted
      ∧ (∀ events, Closings accepted events ↔ events = (expression tokens).events)
      ∧ (∀ event ∈ (expression tokens).events, ∃ left op right, event = .group left op right)
      ∧ (expression tokens).events.length = accepted.countP (fun token => token = .symbol ')')
      ∧ ∀ target, error = .invalidAssignmentTarget target →
          ∃ value, (expression tokens).events.getLast? = some (.group target .assign value))
    ∧ (∀ (σ : Type) (sink : σ → Event → σ) (state : σ),
      (expressionTo sink tokens).run.run state
        = ((expression tokens).result, (expression tokens).events.foldl sink state))
    ∧ ∃ records, (expressionTo keepRecord tokens).run.run [] = ((expression tokens).result, records)
      ∧ List.Forall₂ Event.Shows (expression tokens).events records := by
  have told : ∀ (σ : Type) (sink : σ → Event → σ) (state : σ),
      (expressionTo sink tokens).run.run state
        = ((expression tokens).result, (expression tokens).events.foldl sink state) := by
    intro σ sink state
    rw [expressionTo_eq]
    rfl
  refine ⟨?_, ?_, told, ?_⟩
  · intro expr accepted
    obtain ⟨p, rest, rfl, form, targets, fits⟩ := form_of_expression accepted
    refine ⟨p, rest, rfl, form, ?_⟩
    rw [expression_of_form form rest targets fits]
  · intro error failed
    obtain ⟨accepted, stops, closings, last⟩ := exists_stopsBehind failed
    refine ⟨accepted, stops, ?_, closings.exists_group, closings.length_eq, last⟩
    intro events
    constructor
    · intro other
      exact other.unique closings
    · rintro rfl
      exact closings
  · exact ⟨(expression tokens).events.foldl keepRecord [], told _ keepRecord [], shows_log _⟩

/-- The inner bracket, the bracket around it and the expression are shown in this order, and then the two
tokens behind it.  Where the outer bracket is rejected, the log ends with it. -/
theorem expression_reports_leftover :
    let inner : List Token := [.symbol '(', .number 1, .symbol '+', .word "a", .symbol ')']
    let read : List Token :=
      .symbol '(' :: inner ++ [.word "^", .word "b", .symbol ')', .word "c", .number 2]
    let rejected : List Token :=
      .symbol '(' :: inner ++ [.symbol '=', .word "b", .symbol ')', .word "c"]
    let log (tokens : List Token) := ((expressionTo keepRecord tokens).run.run []).2
    log read
        = [⟨.trace, "L:Num(1) OP:+ R:Var('a')"⟩,
          ⟨.trace, "L:Add(Num(1), Var('a')) OP:^ R:Var('b')"⟩,
          ⟨.debug, "EXPR: Pow(Add(Num(1), Var('a')), Var('b'))"⟩,
          ⟨.warn, "ignoring 2 trailing token(s): c 2"⟩]
      ∧ log rejected
        = [⟨.trace, "L:Num(1) OP:+ R:Var('a')"⟩,
          ⟨.trace, "L:Add(Num(1), Var('a')) OP:= R:Var('b')"⟩] := by
  intro inner read rejected log
  let sum : Expr := .operation (.arithmetic .add) (.number 1) (.name ⟨"a"⟩)
  let power : Expr := .operation (.arithmetic .pow) sum (.name ⟨"b"⟩)
  have readEvents : (expression read).events
      = [.group (.number 1) (.arithmetic .add) (.name ⟨"a"⟩),
        .group sum (.arithmetic .pow) (.name ⟨"b"⟩), .expression power,
        .remaining [.word "c", .number 2]] := rfl
  have rejectedEvents : (expression rejected).events
      = [.group (.number 1) (.arithmetic .add) (.name ⟨"a"⟩),
        .group sum .assign (.name ⟨"b"⟩)] := rfl
  obtain ⟨-, -, -, readLog, readRun, readShown⟩ := expression_reports read
  obtain ⟨-, -, -, rejectedLog, rejectedRun, rejectedShown⟩ := expression_reports rejected
  rw [readEvents] at readShown
  rw [rejectedEvents] at rejectedShown
  constructor
  · show ((expressionTo keepRecord read).run.run []).2 = _
    rw [readRun]
    rcases readShown with _ | ⟨⟨⟩, _ | ⟨⟨⟩, _ | ⟨⟨⟩, _ | ⟨⟨⟩, ⟨⟩⟩⟩⟩⟩
    decide +kernel
  · show ((expressionTo keepRecord rejected).run.run []).2 = _
    rw [rejectedRun]
    rcases rejectedShown with _ | ⟨⟨⟩, _ | ⟨⟨⟩, ⟨⟩⟩⟩
    decide +kernel

end Calculator.Parse
