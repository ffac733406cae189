/-
# Calculator.Proofs.Token.Split — how the tokens of a text come from the tokens of its parts

A scan keeps nothing of what it has finished except the tokens, so a text may be cut wherever a run
ends: at a blank, which leaves nothing, and at a separator, which leaves its symbol.  Between two cuts
there is a run, and a run is one token.  With these three laws the tokens of any text that is put
together from known pieces can be computed without looking at the scan again.

The last section reads a scan backwards: every token is the symbol of a separator or the token of a
run (`Scanned`).
-/

import Calculator.Token.Scan

namespace Calculator

/-- A character that joins a run: neither blank nor a separator. -/
def Separators.IsPlain (separators : Separators) (c : Char) : Prop :=
  Text.isBlank c = false ∧ separators.contains c = false

/-- The tokens of the characters of a text. -/
def Separators.pieces (separators : Separators) (cs : List Char) : List Token :=
  (Scan.ofChars separators cs).finish

variable {separators : Separators} {c : Char}

/-! ## One character -/

namespace Scan

theorem push_blank (blank : Text.isBlank c = true) (scan : Scan) :
    push separators c scan = ⟨[], scan.finish⟩ := by
  rw [push, if_pos blank]

theorem push_separator (visible : Text.isBlank c = false) (separates : separators.contains c = true)
    (scan : Scan) : push separators c scan = ⟨[], .symbol c :: scan.finish⟩ := by
  rw [push, if_neg (ne_true_of_eq_false visible), if_pos separates]

theorem push_plain (plain : separators.IsPlain c) (scan : Scan) :
    push separators c scan = ⟨c :: scan.run, scan.tokens⟩ := by
  rw [push, if_neg (ne_true_of_eq_false plain.1), if_neg (ne_true_of_eq_false plain.2)]

/-! ## What is finished stays as it is -/

theorem finish_append (run : List Char) (tokens behind : List Token) :
    finish ⟨run, tokens ++ behind⟩ = finish ⟨run, tokens⟩ ++ behind := by
  unfold finish
  by_cases none : run = [] <;> simp [none]

/-- Tokens that are finished do not change how the text in front of them is scanned. -/
theorem foldr_push (cs : List Char) (behind : List Token) :
    cs.foldr (push separators) ⟨[], behind⟩
      = ⟨(ofChars separators cs).run, (ofChars separators cs).tokens ++ behind⟩ := by
  induction cs with
  | nil => rfl
  | cons c cs ih =>
      have step : ofChars separators (c :: cs) = push separators c (ofChars separators cs) := rfl
      -- whatever the character does, it does it in front of what is finished
      rw [List.foldr_cons, ih, step]
      unfold push
      split
      · rw [finish_append]
      · split
        · rw [finish_append, List.cons_append]
        · rfl

end Scan

/-! ## Cutting a text -/

namespace Separators

@[simp]
theorem pieces_nil : separators.pieces [] = [] := rfl

theorem tokens_eq_pieces (text : String) : separators.tokens text = separators.pieces text.toList :=
  rfl

/-- **A blank cuts a text and leaves nothing**, also where it is one of the separators. -/
theorem pieces_append_blank (blank : Text.isBlank c = true) (before behind : List Char) :
    separators.pieces (before ++ c :: behind)
      = separators.pieces before ++ separators.pieces behind := by
  unfold pieces Scan.ofChars
  rw [List.foldr_append, List.foldr_cons, Scan.push_blank blank, Scan.foldr_push, Scan.finish_append]
  rfl

/-- **A separator cuts a text and leaves its symbol.** -/
theorem pieces_append_separator (visible : Text.isBlank c = false)
    (separates : separators.contains c = true) (before behind : List Char) :
    separators.pieces (before ++ c :: behind)
      = separators.pieces before ++ .symbol c :: separators.pieces behind := by
  unfold pieces Scan.ofChars
  rw [List.foldr_append, List.foldr_cons, Scan.push_separator visible separates, Scan.foldr_push,
    Scan.finish_append]
  rfl

theorem ofChars_of_plain {run : List Char} (plain : ∀ c ∈ run, separators.IsPlain c) :
    Scan.ofChars separators run = ⟨run, []⟩ := by
  induction run with
  | nil => rfl
  | cons c run ih =>
      have inner : Scan.ofChars separators run = ⟨run, []⟩ := by
        apply ih
        intro d mem
        exact plain d (List.mem_cons_of_mem c mem)
      have step : Scan.ofChars separators (c :: run)
          = Scan.push separators c (Scan.ofChars separators run) := rfl
      rw [step, inner, Scan.push_plain (plain c List.mem_cons_self)]

/-- **A run is one token.** -/
theorem pieces_of_plain {run : List Char} (some : run ≠ [])
    (plain : ∀ c ∈ run, separators.IsPlain c) : separators.pieces run = [Token.ofRun run] := by
  rw [pieces, ofChars_of_plain plain, Scan.finish, if_neg some]

/-! ## The tokens of a scan -/

/-- The tokens that a scan can give: separators as symbols, and runs. -/
inductive Scanned (separators : Separators) : Token → Prop
  | symbol {c : Char} : Text.isBlank c = false → separators.contains c = true →
      Scanned separators (.symbol c)
  | run {run : List Char} : run ≠ [] → (∀ c ∈ run, separators.IsPlain c) →
      Scanned separators (.ofRun run)

theorem scanned_of_mem_finish {scan : Scan} (plain : ∀ c ∈ scan.run, separators.IsPlain c)
    (finished : ∀ token ∈ scan.tokens, Scanned separators token) :
    ∀ token ∈ scan.finish, Scanned separators token := by
  intro token mem
  unfold Scan.finish at mem
  split at mem
  · exact finished token mem
  · rename_i some
    rcases List.mem_cons.mp mem with rfl | mem
    · exact .run some plain
    · exact finished token mem

/-- Reading one more character keeps the open run plain and the finished tokens scanned. -/
theorem scanned_push {scan : Scan} (c : Char) (plain : ∀ d ∈ scan.run, separators.IsPlain d)
    (finished : ∀ token ∈ scan.tokens, Scanned separators token) :
    (∀ d ∈ (Scan.push separators c scan).run, separators.IsPlain d)
      ∧ ∀ token ∈ (Scan.push separators c scan).tokens, Scanned separators token := by
  have all := scanned_of_mem_finish plain finished
  cases blank : Text.isBlank c with
  | true =>
      rw [Scan.push_blank blank]
      exact ⟨by simp, all⟩
  | false =>
      cases separates : separators.contains c with
      | true =>
          rw [Scan.push_separator blank separates]
          exact ⟨by simp, List.forall_mem_cons.mpr ⟨.symbol blank separates, all⟩⟩
      | false =>
          rw [Scan.push_plain ⟨blank, separates⟩]
          exact ⟨List.forall_mem_cons.mpr ⟨⟨blank, separates⟩, plain⟩, finished⟩

/-- Every token of a text is a separator or a run of it. -/
theorem scanned_of_mem_tokens {text : String} {token : Token} (h : token ∈ separators.tokens text) :
    Scanned separators token := by
  have scan : ∀ cs, (∀ c ∈ (Scan.ofChars separators cs).run, separators.IsPlain c)
      ∧ ∀ token ∈ (Scan.ofChars separators cs).tokens, Scanned separators token := by
    intro cs
    induction cs with
    | nil => exact ⟨by simp [Scan.ofChars, Scan.empty], by simp [Scan.ofChars, Scan.empty]⟩
    | cons c cs ih => exact scanned_push c ih.1 ih.2
  obtain ⟨plain, finished⟩ := scan text.toList
  exact scanned_of_mem_finish plain finished token h

theorem value?_of_ofRun_eq_number {run : List Char} {value : Float}
    (h : Token.ofRun run = .number value) : Literal.value? run = some value := by
  unfold Token.ofRun at h
  split at h
  · rename_i v found
    rw [found, Token.number.inj h]
  · exact absurd h (by simp)

/-- A number among the tokens of a text is the value of a literal. -/
theorem value?_of_number_mem_tokens {text : String} {value : Float}
    (h : .number value ∈ separators.tokens text) : ∃ run, Literal.value? run = some value := by
  generalize same : Token.number value = token at h
  cases scanned_of_mem_tokens h with
  | symbol visible separates => exact absurd same (by simp)
  | @run run some plain => exact ⟨run, value?_of_ofRun_eq_number same.symm⟩

end Separators

end Calculator
