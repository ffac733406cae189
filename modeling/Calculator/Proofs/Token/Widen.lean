/-
# Calculator.Proofs.Token.Widen — the tokens of a text under more separators

More separators can cut a run into several tokens, so the tokens of a text under a wider set can be
very different ones.  What can be said of all texts is that they are the same tokens with every run cut
for itself (`refines_tokens`).

If the separators that are added are operators, and neither of the two signs, then no number and no
name is cut, because none of these characters is written in one.  A word of one operator may become
its symbol.  These are all the tokens of a sentence that are not symbols already, so a sentence stays
one (`Form.refine`).
-/

import Calculator.Proofs.Expr.Source
import Calculator.Proofs.Number.Spelling

namespace Calculator

/-- The operators that are not signs, and so never part of a number. -/
def Separators.unsigned : List Char := ['*', '/', '=', '^', '%']

/-- The wider set has all separators of the narrower one, and beyond them only operators that are not
signs. -/
structure Separators.WidensTo (narrow wider : Separators) : Prop where
  keeps : ∀ c ∈ narrow, c ∈ wider
  adds : ∀ c ∈ wider, c ∈ narrow ∨ c ∈ unsigned

namespace Separators

/-- The separators of a set, and these characters too. -/
def joined (separators : Separators) (added : List Char) : Separators :=
  ⟨separators.chars ++ added⟩

theorem standard_eq : standard = legacy.joined ['^', '%'] := by
  decide

theorem widensTo_joined (separators : Separators) {added : List Char}
    (operators : ∀ c ∈ added, c ∈ unsigned) : separators.WidensTo (separators.joined added) where
  keeps _ mem := List.mem_append_left added mem
  adds c mem := (List.mem_append.mp mem).imp_right (operators c)

theorem legacy_widensTo_standard : legacy.WidensTo standard := by
  rw [standard_eq]
  apply widensTo_joined
  simp [unsigned]

variable {narrow wider : Separators}

theorem WidensTo.isPlain {c : Char} (widens : narrow.WidensTo wider) (plain : narrow.IsPlain c)
    (other : c ∉ unsigned) : wider.IsPlain c := by
  refine ⟨plain.1, contains_eq_false_of_not_mem ?_⟩
  intro mem
  rcases widens.adds c mem with before | added
  · exact absurd plain.2 (ne_false_of_eq_true (contains_iff.mpr before))
  · exact other added

/-! ## Every run is cut for itself -/

/-- Tokens under a narrower set of separators, and the same with every run cut by a wider one. -/
inductive Refines (narrow wider : Separators) : List Token → List Token → Prop
  | nil : Refines narrow wider [] []
  | symbol (c : Char) {ts us : List Token} : Refines narrow wider ts us →
      Refines narrow wider (.symbol c :: ts) (.symbol c :: us)
  | run {run : List Char} {ts us : List Token} : run ≠ [] → (∀ c ∈ run, narrow.IsPlain c) →
      Refines narrow wider ts us → Refines narrow wider (.ofRun run :: ts) (wider.pieces run ++ us)

theorem finish_foldr_push (run : List Char) (behind : List Token) :
    (run.foldr (Scan.push wider) ⟨[], behind⟩).finish = wider.pieces run ++ behind := by
  rw [Scan.foldr_push, Scan.finish_append]
  rfl

/-- Finishing a run refines what it gives. -/
theorem Refines.finish {scan : Scan} {us : List Token} (plain : ∀ c ∈ scan.run, narrow.IsPlain c)
    (h : Refines narrow wider scan.tokens us) :
    Refines narrow wider scan.finish (wider.pieces scan.run ++ us) := by
  unfold Scan.finish
  split
  · rename_i none
    rw [none]
    exact h
  · rename_i some
    exact .run some plain h

/-- The scans of a text under both sets: the wider one has scanned the run that is open in the narrower
one, in front of tokens that refine the finished ones. -/
theorem refines_ofChars (widens : narrow.WidensTo wider) (cs : List Char) :
    (∀ c ∈ (Scan.ofChars narrow cs).run, narrow.IsPlain c)
      ∧ ∃ us, Scan.ofChars wider cs
          = (Scan.ofChars narrow cs).run.foldr (Scan.push wider) ⟨[], us⟩
        ∧ Refines narrow wider (Scan.ofChars narrow cs).tokens us := by
  induction cs with
  | nil => exact ⟨by simp [Scan.ofChars, Scan.empty], [], rfl, .nil⟩
  | cons c cs ih =>
      obtain ⟨plain, us, same, refines⟩ := ih
      have narrowStep : Scan.ofChars narrow (c :: cs) = Scan.push narrow c (Scan.ofChars narrow cs) :=
        rfl
      have wideStep : Scan.ofChars wider (c :: cs) = Scan.push wider c (Scan.ofChars wider cs) := rfl
      have finished := refines.finish plain
      rw [narrowStep, wideStep, same]
      cases blank : Text.isBlank c with
      | true =>
          rw [Scan.push_blank blank, Scan.push_blank blank, finish_foldr_push]
          exact ⟨by simp, _, rfl, finished⟩
      | false =>
          cases separates : narrow.contains c with
          | true =>
              have alsoWide := contains_iff.mpr (widens.keeps c (contains_iff.mp separates))
              rw [Scan.push_separator blank separates, Scan.push_separator blank alsoWide,
                finish_foldr_push]
              exact ⟨by simp, _, rfl, .symbol c finished⟩
          | false =>
              -- the character joins the open run of the narrower scan
              rw [Scan.push_plain ⟨blank, separates⟩]
              exact ⟨List.forall_mem_cons.mpr ⟨⟨blank, separates⟩, plain⟩, us, rfl, refines⟩

/-- **The tokens under a wider set are the tokens under the narrower one with every run cut.** -/
theorem refines_tokens (widens : narrow.WidensTo wider) (text : String) :
    Refines narrow wider (narrow.tokens text) (wider.tokens text) := by
  obtain ⟨plain, us, same, refines⟩ := refines_ofChars widens text.toList
  unfold tokens
  rw [same, finish_foldr_push]
  exact refines.finish plain

/-! ## What is not cut -/

theorem ofRun_ne_symbol (run : List Char) (c : Char) : Token.ofRun run ≠ .symbol c := by
  unfold Token.ofRun
  split <;> simp

theorem eq_of_ofRun_eq_word {run : List Char} {text : String} (h : Token.ofRun run = .word text) :
    run = text.toList := by
  unfold Token.ofRun at h
  split at h
  · exact absurd h (by simp)
  · rw [← Token.word.inj h, String.toList_ofList]

theorem Refines.of_symbol {c : Char} {ts us : List Token}
    (h : Refines narrow wider (.symbol c :: ts) us) :
    ∃ rest, us = .symbol c :: rest ∧ Refines narrow wider ts rest := by
  generalize same : Token.symbol c :: ts = all at h
  cases h with
  | nil => exact absurd same (by simp)
  | symbol d rest =>
      obtain ⟨symbol, rfl⟩ := List.cons.inj same
      obtain rfl := Token.symbol.inj symbol
      exact ⟨_, rfl, rest⟩
  | @run run _ _ some plain rest => exact absurd (List.cons.inj same).1.symm (ofRun_ne_symbol run c)

/-- A token that is no symbol comes from a run. -/
theorem Refines.of_run {token : Token} {ts us : List Token} (visible : ∀ c, token ≠ .symbol c)
    (h : Refines narrow wider (token :: ts) us) :
    ∃ run rest, run ≠ [] ∧ (∀ c ∈ run, narrow.IsPlain c) ∧ Token.ofRun run = token
      ∧ us = wider.pieces run ++ rest ∧ Refines narrow wider ts rest := by
  generalize same : token :: ts = all at h
  cases h with
  | nil => exact absurd same (by simp)
  | symbol d rest => exact absurd (List.cons.inj same).1 (visible d)
  | @run run _ _ some plain rest =>
      obtain ⟨rfl, rfl⟩ := List.cons.inj same
      exact ⟨run, _, some, plain, rfl, rfl, rest⟩

/-- A run without the operators that are added is not cut. -/
theorem WidensTo.pieces_of_plain (widens : narrow.WidensTo wider) {run : List Char} (some : run ≠ [])
    (plain : ∀ c ∈ run, narrow.IsPlain c) (others : ∀ c ∈ run, c ∉ unsigned) :
    wider.pieces run = [Token.ofRun run] := by
  apply Separators.pieces_of_plain some
  intro c mem
  exact widens.isPlain (plain c mem) (others c mem)

theorem not_mem_unsigned_of_isSpelling {c : Char} (h : Literal.IsSpelling c) : c ∉ unsigned := by
  have none : ∀ d ∈ unsigned, ¬ Literal.IsSpelling d := by simp [unsigned, Literal.IsSpelling]
  intro mem
  exact none c mem h

theorem not_mem_unsigned_of_isAlpha {c : Char} (h : c.isAlpha = true) : c ∉ unsigned := by
  have none : ∀ d ∈ unsigned, d.isAlpha = false := by simp [unsigned]
  intro mem
  exact absurd h (ne_true_of_eq_false (none c mem))

theorem Refines.of_number (widens : narrow.WidensTo wider) {value : Float} {ts us : List Token}
    (h : Refines narrow wider (.number value :: ts) us) :
    ∃ rest, us = .number value :: rest ∧ Refines narrow wider ts rest := by
  obtain ⟨run, rest, some, plain, number, rfl, refines⟩ := h.of_run (by simp)
  have literal := value?_of_ofRun_eq_number number
  have whole : wider.pieces run = [Token.ofRun run] := by
    apply widens.pieces_of_plain some plain
    intro c mem
    exact not_mem_unsigned_of_isSpelling (Literal.isSpelling_of_value? literal c mem)
  refine ⟨rest, ?_, refines⟩
  rw [whole, number, List.singleton_append]

theorem Refines.of_name (widens : narrow.WidensTo wider) {text : String}
    (valid : Name.isValid text = true) {ts us : List Token}
    (h : Refines narrow wider (.word text :: ts) us) :
    ∃ rest, us = .word text :: rest ∧ Refines narrow wider ts rest := by
  obtain ⟨run, rest, some, plain, word, rfl, refines⟩ := h.of_run (by simp)
  have whole : wider.pieces run = [Token.ofRun run] := by
    apply widens.pieces_of_plain some plain
    intro c mem
    rw [eq_of_ofRun_eq_word word] at mem
    exact not_mem_unsigned_of_isAlpha ((Name.isValid_iff.mp valid).2 c mem)
  refine ⟨rest, ?_, refines⟩
  rw [whole, word, List.singleton_append]

/-- An operator stays one, and a word of it may become its symbol. -/
theorem Refines.of_operator {op : Operator} {token : Token} (ho : Parse.OperatorForm op token)
    {ts us : List Token} (h : Refines narrow wider (token :: ts) us) :
    ∃ token' rest, us = token' :: rest ∧ Parse.OperatorForm op token' ∧ Refines narrow wider ts rest := by
  cases ho with
  | symbol =>
      obtain ⟨rest, rfl, refines⟩ := h.of_symbol
      exact ⟨_, rest, rfl, .symbol, refines⟩
  | word =>
      obtain ⟨run, rest, some, plain, word, rfl, refines⟩ := h.of_run (by simp)
      have single : run = [op.symbol] := by
        rw [eq_of_ofRun_eq_word word, String.toList_singleton]
      rw [single, pieces_operator, List.singleton_append]
      exact ⟨_, rest, rfl, wider.operatorForm_arrive op, refines⟩

end Separators

/-- **A form stays a form of the same expression under more separators.** -/
theorem Parse.Form.refine {narrow wider : Separators} (widens : narrow.WidensTo wider) {expr : Expr}
    {p behind us : List Token} (h : Form expr p)
    (refines : Separators.Refines narrow wider (p ++ behind) us) :
    ∃ p' rest, us = p' ++ rest ∧ Form expr p' ∧ Separators.Refines narrow wider behind rest := by
  induction h generalizing behind us with
  | number value =>
      obtain ⟨rest, rfl, later⟩ := Separators.Refines.of_number widens refines
      exact ⟨_, rest, rfl, .number value, later⟩
  | name valid =>
      obtain ⟨rest, rfl, later⟩ := Separators.Refines.of_name widens valid refines
      exact ⟨_, rest, rfl, .name valid, later⟩
  | operation hl ho hr ihl ihr =>
      simp only [List.cons_append, List.append_assoc, List.nil_append] at refines
      obtain ⟨inside, rfl, atLeft⟩ := refines.of_symbol
      obtain ⟨ls, behindLeft, rfl, formLeft, atOperator⟩ := ihl atLeft
      obtain ⟨token, behindOperator, rfl, formOperator, atRight⟩ :=
        Separators.Refines.of_operator ho atOperator
      obtain ⟨rs, behindRight, rfl, formRight, atClosing⟩ := ihr atRight
      obtain ⟨rest, rfl, later⟩ := atClosing.of_symbol
      exact ⟨_, rest, by simp, .operation formLeft formOperator formRight, later⟩

end Calculator
