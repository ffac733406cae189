/-
# Calculator.Proofs.Token.Greedy — reading a text from its front

A text can also be read from its front, one piece at a time.  A piece is the longest run of blanks,
which gives nothing; or a separator, which gives its symbol; or the longest run of other characters,
which gives one token.  Pieces are taken off for as long as there is one, and a reader that took a piece
without a character would give up.

Such a reader could stop before the end of the text, and it could give up.  It does neither, and it
finds the tokens of the scan (`sweep?_eq`), because the three laws for cutting a text say the same of
the scan: what is behind a longest run begins with a blank or with a separator, and there the text may
be cut.
-/

import Mathlib.Data.List.Basic
import Calculator.Proofs.Number.Grammar
import Calculator.Proofs.Token.Split

namespace Calculator

/-! ## Pieces -/

/-- The longest run of one kind of characters at the front of a text, and what is behind it; there is
none if the text begins with another character. -/
def Text.run? (kind : Char → Bool) (cs : List Char) : Option (List Char × List Char) :=
  if cs.takeWhile kind = [] then none else some (cs.takeWhile kind, cs.dropWhile kind)

namespace Separators

/-- Whether a character joins a run. -/
def joins (separators : Separators) (c : Char) : Bool :=
  !(Text.isBlank c || separators.contains c)

/-- The separator at the front of a text, and what is behind it. -/
def symbol? (separators : Separators) : List Char → Option (Char × List Char)
  | [] => none
  | c :: rest => if separators.contains c then some (c, rest) else none

/-- What the piece at the front of a text gives, and what is behind it.  The first kind of piece that
is there is the one that is taken. -/
def piece? (separators : Separators) (cs : List Char) : Option (Option Token × List Char) :=
  match Text.run? Text.isBlank cs with
  | some (_, rest) => some (none, rest)
  | none =>
    match separators.symbol? cs with
    | some (c, rest) => some (some (.symbol c), rest)
    | none =>
      match Text.run? separators.joins cs with
      | some (run, rest) => some (some (.ofRun run), rest)
      | none => none

/-- The tokens of all pieces that can be taken off the front of a text, and what is left of it.  There
is no result if a piece leaves as much as there was before. -/
def sweep? (separators : Separators) (cs : List Char) : Option (List Token × List Char) :=
  match separators.piece? cs with
  | none => some ([], cs)
  | some (token?, rest) =>
    if rest.length < cs.length then
      match separators.sweep? rest with
      | none => none
      | some (tokens, left) => some (token?.toList ++ tokens, left)
    else none
termination_by cs.length

variable {separators : Separators} {c : Char} {cs : List Char}

theorem joins_iff : separators.joins c = true ↔ separators.IsPlain c := by
  simp [joins, IsPlain]

/-! ## The piece at the front -/

theorem run?_cons {kind : Char → Bool} (first : kind c = true) :
    Text.run? kind (c :: cs) = some (c :: cs.takeWhile kind, cs.dropWhile kind) := by
  simp [Text.run?, first]

theorem run?_cons_eq_none {kind : Char → Bool} (first : kind c = false) :
    Text.run? kind (c :: cs) = none := by
  simp [Text.run?, first]

theorem piece?_nil : separators.piece? [] = none := rfl

theorem piece?_of_blank (blank : Text.isBlank c = true) :
    separators.piece? (c :: cs) = some (none, cs.dropWhile Text.isBlank) := by
  rw [piece?, run?_cons blank]

theorem piece?_of_separator (visible : Text.isBlank c = false)
    (separates : separators.contains c = true) :
    separators.piece? (c :: cs) = some (some (.symbol c), cs) := by
  rw [piece?, run?_cons_eq_none visible, symbol?, if_pos separates]

theorem piece?_of_plain (plain : separators.IsPlain c) :
    separators.piece? (c :: cs)
      = some (some (.ofRun (c :: cs.takeWhile separators.joins)), cs.dropWhile separators.joins) := by
  rw [piece?, run?_cons_eq_none plain.1, symbol?, if_neg (ne_true_of_eq_false plain.2),
    run?_cons (joins_iff.mpr plain)]

/-! ## Cutting where the piece ends -/

theorem pieces_cons_blank (blank : Text.isBlank c = true) (cs : List Char) :
    separators.pieces (c :: cs) = separators.pieces cs :=
  pieces_append_blank blank [] cs

theorem pieces_cons_separator (visible : Text.isBlank c = false)
    (separates : separators.contains c = true) (cs : List Char) :
    separators.pieces (c :: cs) = .symbol c :: separators.pieces cs :=
  pieces_append_separator visible separates [] cs

/-- Blanks at the front of a text change nothing. -/
theorem pieces_dropWhile_isBlank (cs : List Char) :
    separators.pieces (cs.dropWhile Text.isBlank) = separators.pieces cs := by
  induction cs with
  | nil => rfl
  | cons c cs ih =>
      rw [List.dropWhile_cons]
      split
      · rename_i blank
        rw [ih, pieces_cons_blank blank]
      · rfl

/-- A run may be cut off in front of a text that does not go on with it. -/
theorem pieces_append_of_plain {run : List Char} (some : run ≠ [])
    (plain : ∀ c ∈ run, separators.IsPlain c) {rest : List Char}
    (boundary : ∀ c ∈ rest.head?, separators.joins c = false) :
    separators.pieces (run ++ rest) = .ofRun run :: separators.pieces rest := by
  cases rest with
  | nil => rw [List.append_nil, pieces_of_plain some plain, pieces_nil]
  | cons c rest =>
      have stops : separators.joins c = false := boundary c rfl
      cases blank : Text.isBlank c with
      | true =>
          rw [pieces_append_blank blank, pieces_of_plain some plain, pieces_cons_blank blank]
          rfl
      | false =>
          have separates : separators.contains c = true := by simpa [joins, blank] using stops
          rw [pieces_append_separator blank separates, pieces_of_plain some plain,
            pieces_cons_separator blank separates]
          rfl

/-- The longest run at the front of a text is one token, in front of all that is behind it and in front
of a part of that. -/
theorem pieces_longestRun_append (plain : separators.IsPlain c) {front : List Char}
    (part : front <+: cs.dropWhile separators.joins) :
    separators.pieces (c :: cs.takeWhile separators.joins ++ front)
      = .ofRun (c :: cs.takeWhile separators.joins) :: separators.pieces front := by
  have run : ∀ d ∈ c :: cs.takeWhile separators.joins, separators.IsPlain d := by
    refine List.forall_mem_cons.mpr ⟨plain, ?_⟩
    intro d mem
    exact joins_iff.mp (List.all_eq_true.mp List.all_takeWhile d mem)
  have boundary : ∀ d ∈ front.head?, separators.joins d = false := by
    intro d mem
    have stops := List.head?_dropWhile_not separators.joins cs
    obtain ⟨rest, whole⟩ := part
    rw [← whole, List.head?_append, Option.mem_def.mp mem] at stops
    exact stops
  exact pieces_append_of_plain (List.cons_ne_nil _ _) run boundary

/-- **The first piece of a text is cut off by the scan as well**, and it is never empty. -/
theorem pieces_of_piece? {token? : Option Token} {rest : List Char}
    (h : separators.piece? cs = some (token?, rest)) :
    separators.pieces cs = token?.toList ++ separators.pieces rest ∧ rest.length < cs.length := by
  cases cs with
  | nil => exact absurd h (by simp [piece?_nil])
  | cons c cs =>
      have shorter : ∀ kind : Char → Bool, (cs.dropWhile kind).length < (c :: cs).length := by
        intro kind
        have := (List.dropWhile_suffix (l := cs) kind).length_le
        rw [List.length_cons]
        omega
      cases blank : Text.isBlank c with
      | true =>
          rw [piece?_of_blank blank] at h
          obtain ⟨rfl, rfl⟩ := Prod.mk.inj (Option.some.inj h)
          refine ⟨?_, shorter _⟩
          rw [pieces_dropWhile_isBlank, pieces_cons_blank blank]
          rfl
      | false =>
          cases separates : separators.contains c with
          | true =>
              rw [piece?_of_separator blank separates] at h
              obtain ⟨rfl, rfl⟩ := Prod.mk.inj (Option.some.inj h)
              refine ⟨?_, Nat.lt_succ_self _⟩
              rw [pieces_cons_separator blank separates]
              rfl
          | false =>
              have plain : separators.IsPlain c := ⟨blank, separates⟩
              rw [piece?_of_plain plain] at h
              obtain ⟨rfl, rfl⟩ := Prod.mk.inj (Option.some.inj h)
              refine ⟨?_, shorter _⟩
              have cut := pieces_longestRun_append plain (List.prefix_refl (cs.dropWhile _))
              rw [List.cons_append, List.takeWhile_append_dropWhile] at cut
              exact cut

/-! ## The whole text -/

/-- There is a piece at the front of every text but the empty one. -/
theorem piece?_eq_none_iff : separators.piece? cs = none ↔ cs = [] := by
  constructor
  · intro h
    cases cs with
    | nil => rfl
    | cons c cs =>
        cases blank : Text.isBlank c with
        | true => exact absurd h (by simp [piece?_of_blank blank])
        | false =>
            cases separates : separators.contains c with
            | true => exact absurd h (by simp [piece?_of_separator blank separates])
            | false => exact absurd h (by simp [piece?_of_plain ⟨blank, separates⟩])
  · rintro rfl
    exact piece?_nil

/-- **Reading from the front always reaches the end, and finds the tokens of the scan.** -/
theorem sweep?_eq (separators : Separators) (cs : List Char) :
    separators.sweep? cs = some (separators.pieces cs, []) := by
  fun_induction sweep? separators cs with
  | case1 cs none =>
      obtain rfl := piece?_eq_none_iff.mp none
      rfl
  | case2 cs token? rest found shorter none ih => exact absurd (none.symm.trans ih) (by simp)
  | case3 cs token? rest found shorter tokens left swept ih =>
      obtain ⟨rfl, rfl⟩ := Prod.mk.inj (Option.some.inj (swept.symm.trans ih))
      rw [(pieces_of_piece? found).1]
  | case4 cs token? rest found notShorter => exact absurd (pieces_of_piece? found).2 notShorter

/-! ## The laws of scanning -/

theorem ofRun_of_isLiteral {run : List Char} (literal : Literal.IsLiteral run) :
    ∃ value, Literal.value? run = some value ∧ Token.ofRun run = .number value := by
  obtain ⟨value, reads⟩ := Option.isSome_iff_exists.mp (Literal.isSome_value?_iff.mpr literal)
  refine ⟨value, reads, ?_⟩
  rw [Token.ofRun, reads]

theorem ofRun_of_not_isLiteral {run : List Char} (other : ¬ Literal.IsLiteral run) :
    Token.ofRun run = .word (String.ofList run) := by
  rw [Token.ofRun, Literal.value?_eq_none_iff.mpr other]

/-- **Scanning goes by parts and loses nothing**, whatever the separators are.  A blank cuts a text and
leaves nothing, a separator cuts it and leaves its symbol, and a run of other characters is one token:
a number if it is a literal, else a word.  Reading the pieces of a text from its front gives the same
tokens and reaches the end. -/
theorem tokens_by_parts (separators : Separators) :
    (∀ before blank behind, Text.isBlank blank = true →
        separators.tokens (before ++ String.singleton blank ++ behind)
          = separators.tokens before ++ separators.tokens behind)
    ∧ (∀ before c behind, Text.isBlank c = false → c ∈ separators →
        separators.tokens (before ++ String.singleton c ++ behind)
          = separators.tokens before ++ [.symbol c] ++ separators.tokens behind)
    ∧ (∀ run, run ≠ "" → (∀ c ∈ run.toList, Text.isBlank c = false ∧ c ∉ separators) →
        (Literal.IsLiteral run.toList → ∃ value, Literal.value? run.toList = some value
          ∧ separators.tokens run = [.number value])
        ∧ (¬ Literal.IsLiteral run.toList → separators.tokens run = [.word run]))
    ∧ ∀ text, separators.sweep? text.toList = some (separators.tokens text, []) := by
  refine ⟨?_, ?_, ?_, ?_⟩
  · intro before blank behind isBlank
    have cut := separators.pieces_append_blank isBlank before.toList behind.toList
    simpa [tokens_eq_pieces] using cut
  · intro before c behind visible separates
    have cut := pieces_append_separator visible (contains_iff.mpr separates) before.toList
      behind.toList
    simpa [tokens_eq_pieces] using cut
  · intro run some others
    have plain : ∀ c ∈ run.toList, separators.IsPlain c := by
      intro c mem
      obtain ⟨visible, joins⟩ := others c mem
      exact ⟨visible, eq_false_of_ne_true (mt contains_iff.mp joins)⟩
    have single : separators.tokens run = [Token.ofRun run.toList] := by
      rw [tokens_eq_pieces, pieces_of_plain (mt String.toList_eq_nil_iff.mp some) plain]
    rw [single]
    constructor
    · intro literal
      obtain ⟨value, reads, token⟩ := ofRun_of_isLiteral literal
      exact ⟨value, reads, congrArg (fun token => [token]) token⟩
    · intro other
      rw [ofRun_of_not_isLiteral other, String.ofList_toList]
  · intro text
    exact sweep?_eq separators text.toList

/-- Separators with a blank, a letter and a digit among them. -/
theorem tokens_by_parts_mixed :
    (Separators.ofString " x1").tokens ("a.5" ++ String.singleton ' ' ++ "b")
        = [.word "a.5", .word "b"]
    ∧ (Separators.ofString " x1").tokens ("2" ++ String.singleton 'x' ++ "y1")
        = [.number 2, .symbol 'x', .word "y", .symbol '1']
    ∧ (Separators.ofString " x1").tokens "2e3" = [.number 2000]
    ∧ (Separators.ofString " x1").tokens "2e" = [.word "2e"]
    ∧ (Separators.ofString " x1").sweep? " 2x ".toList = some ([.number 2, .symbol 'x'], []) := by
  obtain ⟨atBlank, atSeparator, ofRun, toEnd⟩ := tokens_by_parts (Separators.ofString " x1")
  have literal : Literal.value? "2e3".toList = some 2000 := by decide +kernel
  refine ⟨?_, ?_, ?_, ?_, ?_⟩
  · rw [atBlank "a.5" ' ' "b" (by decide)]
    decide +kernel
  · rw [atSeparator "2" 'x' "y1" (by decide) (by decide)]
    decide +kernel
  · obtain ⟨number, -⟩ := ofRun "2e3" (by decide)
      (List.forall_iff_forall_mem.mp (by decide))
    obtain ⟨value, reads, token⟩ := number (by decide +kernel)
    rw [token, Option.some.inj (reads.symm.trans literal)]
  · obtain ⟨-, word⟩ := ofRun "2e" (by decide) (List.forall_iff_forall_mem.mp (by decide))
    exact word (by decide +kernel)
  · rw [toEnd " 2x "]
    decide +kernel

end Separators

end Calculator
