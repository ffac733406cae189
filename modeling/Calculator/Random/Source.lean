/-
# Calculator.Random.Source — numbers drawn from a source of random words

A source of random words is a state with a step that gives a 64-bit word and the next state.  All
draws below are made of such steps and nothing else, so whatever holds of a draw for every source
holds however the words come about.

`below` makes all results equally likely by trying again.  How often it may do so belongs to the source,
like its words.  An attempt on good words succeeds more often than not, so two hundred and fifty-six of
them never run out in practice; words that fail every attempt give the least result.
-/

namespace Calculator.Random

/-- A source of random 64-bit words. -/
class WordSource (σ : Type) where
  next : σ → UInt64 × σ
  /-- How often a draw that makes all results equally likely is tried. -/
  attempts : Nat := 256

/-- A value drawn from a source. -/
abbrev Draw (σ : Type) (α : Type) := StateM σ α

variable {σ : Type} [WordSource σ]

/-! ## Words -/

/-- The next word. -/
def word : Draw σ UInt64 := fun s => WordSource.next s

/-- How many values half a word has. -/
def halfRange : Nat := 0x100000000

/-- The upper half of the next word. -/
def halfWord : Draw σ Nat := do
  return (← word).toNat / halfRange

/-! ## Numbers below a bound -/

/-- The greatest lower half of a product that an attempt accepts: one less than the bound moved to
the upper end of 32 bits. -/
def acceptedUpTo (bound : Nat) : Nat :=
  (bound <<< (31 - bound.log2)) - 1

/-- A number below a bound, in so many attempts.  Each attempt spreads the bound over the range of
half a word and takes the upper half of the product, unless the lower half is too great. -/
def belowIn : Nat → Nat → Draw σ Nat
  | 0, _ => pure 0
  | left + 1, bound => do
    let product := (← halfWord) * bound
    if product % halfRange ≤ acceptedUpTo bound then return product / halfRange
    else belowIn left bound

/-- A number below a bound that is less than `halfRange`; all results are equally likely. -/
def below (bound : Nat) : Draw σ Nat := belowIn (WordSource.attempts σ) bound

/-- An element of a list that has `first` in front of `rest`. -/
def choose {α : Type} (first : α) (rest : List α) : Draw σ α := do
  return (first :: rest).getD (← below (rest.length + 1)) first

/-! ## Numbers with a liking for the ends of their range -/

/-- A number below `2 ^ 64`, every tenth time one of the ends of the range. -/
def wide : Draw σ Nat := do
  if (← below 10) = 0 then choose 0 [1, 0xFFFFFFFFFFFFFFFF]
  else return (← word).toNat

/-- A number below `2 ^ 16`, every tenth time one of the ends of the range. -/
def narrow : Draw σ Nat := do
  if (← below 10) = 0 then choose 0 [1, 0xFFFF]
  else return (← halfWord) % 0x10000

/-- A number below a positive bound, as what is left of a number below `2 ^ 64`. -/
def pick (bound : Nat) : Draw σ Nat := do
  return (← wide) % bound

end Calculator.Random
