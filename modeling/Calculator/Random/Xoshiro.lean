/-
# Calculator.Random.Xoshiro — a small fast source of random words

The source is xoshiro256++: four words of state, mixed by shifts, rotations and exclusive-or.  It is
seeded with thirty-two bytes.  A state of zeros would stay zero for ever, so a seed of zeros is
replaced by the first four words of SplitMix64 from zero.
-/

import Calculator.Random.Source

namespace Calculator.Random

/-- A word with its bits turned round to the left. -/
def rotateLeft (x : UInt64) (count : UInt64) : UInt64 :=
  (x <<< count) ||| (x >>> (64 - count))

/-- The four words of the source. -/
structure Xoshiro where
  s0 : UInt64
  s1 : UInt64
  s2 : UInt64
  s3 : UInt64
  deriving DecidableEq

namespace Xoshiro

/-! ## Steps -/

/-- The next word and the state after it. -/
def next (x : Xoshiro) : UInt64 × Xoshiro :=
  let result := rotateLeft (x.s0 + x.s3) 23 + x.s0
  let t := x.s1 <<< 17
  let s2 := x.s2 ^^^ x.s0
  let s3 := x.s3 ^^^ x.s1
  let s1 := x.s1 ^^^ s2
  let s0 := x.s0 ^^^ s3
  (result, ⟨s0, s1, s2 ^^^ t, rotateLeft s3 45⟩)

instance : WordSource Xoshiro where
  next := next

/-! ## Seeds -/

/-- The word that SplitMix64 makes of its counter. -/
def splitMix (counter : UInt64) : UInt64 :=
  let z := (counter ^^^ (counter >>> 30)) * 0xbf58476d1ce4e5b9
  let z := (z ^^^ (z >>> 27)) * 0x94d049bb133111eb
  z ^^^ (z >>> 31)

/-- The state that takes the place of zeros. -/
def ofZero : Xoshiro :=
  let step : UInt64 := 0x9e3779b97f4a7c15
  ⟨splitMix step, splitMix (2 * step), splitMix (3 * step), splitMix (4 * step)⟩

/-- The word of eight bytes, the least significant first. -/
def littleEndian (bytes : List UInt8) : UInt64 :=
  bytes.foldr (fun byte word => word * 256 + byte.toUInt64) 0

/-- The state of a seed of thirty-two bytes. -/
def ofSeed (seed : List UInt8) : Xoshiro :=
  let wordAt (start : Nat) := littleEndian ((seed.drop start).take 8)
  let state : Xoshiro := ⟨wordAt 0, wordAt 8, wordAt 16, wordAt 24⟩
  if state = ⟨0, 0, 0, 0⟩ then ofZero else state

end Xoshiro

end Calculator.Random
