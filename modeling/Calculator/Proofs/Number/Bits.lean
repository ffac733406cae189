/-
# Calculator.Proofs.Number.Bits — a float is its sign bit and the bits of its magnitude

The number modules read a float through its 64 bits.  That is sound because the way from bits to
floats and back loses nothing: it unpacks the bits into sign, exponent and mantissa and packs them
again, and `pack_unpack` says that this is the identity.  The one exception is built in: the bits of
what is not a number are replaced by a fixed pattern, so in the other direction the statements are
about magnitudes up to infinity.
-/

import Calculator.Number.Binary64
import Mathlib

namespace Calculator.Binary64

open Float.Model
open Float.Model.UnpackedFloat hiding pack unpack

/-! ## Packing what was unpacked -/

/-- The three fields of 64 bits, side by side, are the bits. -/
theorem packComponents_fields (b : BitVec 64) :
    packComponents Format.binary64 (Sign.ofBitVec (@unpackSign Format.binary64 b))
      (@unpackExponent Format.binary64 b) (@unpackMantissa Format.binary64 b) = b := by
  have sign : ∀ v : BitVec 1, (Sign.ofBitVec v).toBitVec = v := by decide
  unfold packComponents
  rw [sign]
  ext i hi
  simp [unpackSign, unpackExponent, unpackMantissa]
  grind

theorem pack_subnormal (sign : Sign) (m : BitVec 52) {e : Int} (lowest : e = -1074)
    (pos : 0 < m.toNat) :
    UnpackedFloat.pack Format.binary64 (.finite sign m.toNat e pos)
      = packComponents Format.binary64 sign 0#11 m := by
  have short : m.toNat.log2 + 1 ≠ Format.binary64.mantissaBits := by
    show _ ≠ 53
    have := (Nat.log2_lt (Nat.ne_of_gt pos)).mpr m.isLt
    omega
  have biased : (e + Format.binary64.exponentBias
      + Format.binary64.mantissaBitsWithoutImplicit).toNat = 1 := by
    rw [lowest]
    decide
  simp only [UnpackedFloat.pack, biased]
  rw [if_neg (by decide), if_neg short, BitVec.ofNat_toNat, BitVec.setWidth_eq]

theorem toNat_one_append (m : BitVec 52) : (1#1 ++ m).toNat = 2 ^ 52 + m.toNat := by
  rw [BitVec.toNat_append, ← Nat.shiftLeft_add_eq_or_of_lt m.isLt]
  rfl

theorem pack_normal (sign : Sign) (e : BitVec 11) (m : BitVec 52) (notLast : e ≠ -1#11)
    (pos : 0 < (1#1 ++ m).toNat) :
    UnpackedFloat.pack Format.binary64 (.finite sign (1#1 ++ m).toNat (e.toNat - (1023 + 52)) pos)
      = packComponents Format.binary64 sign e m := by
  have small := m.isLt
  have low : e.toNat + 1 < 2048 := by
    have bound := e.isLt
    have other : e.toNat ≠ 2047 := by
      intro same
      apply notLast
      exact BitVec.eq_of_toNat_eq same
    omega
  have full : (1#1 ++ m).toNat.log2 + 1 = Format.binary64.mantissaBits := by
    rw [toNat_one_append, (Nat.log2_eq_iff (by omega)).mpr ⟨Nat.le_add_right .., by omega⟩]
    rfl
  have biased : ((e.toNat - (1023 + 52) : Int) + Format.binary64.exponentBias
      + Format.binary64.mantissaBitsWithoutImplicit).toNat = e.toNat := by
    show (((e.toNat : Int) - (1023 + 52)) + (1023 : Nat) + (52 : Nat)).toNat = e.toNat
    omega
  simp only [UnpackedFloat.pack, biased]
  rw [if_neg (Nat.not_le.mpr low), if_pos full, BitVec.ofNat_toNat, BitVec.setWidth_eq]
  congr 1
  apply BitVec.eq_of_toNat_eq
  rw [BitVec.toNat_ofNat, toNat_one_append]
  omega

/-- **Packing undoes unpacking.** -/
theorem pack_unpack {b : BitVec 64} (valid : Format.binary64.Valid b) :
    UnpackedFloat.pack Format.binary64 (UnpackedFloat.unpack Format.binary64 b) = b := by
  have parts := packComponents_fields b
  fun_cases UnpackedFloat.unpack Format.binary64 b with
  | case1 mantissa exponent signBit sign last none =>
      change packComponents Format.binary64 sign exponent mantissa = b at parts
      rwa [last, none] at parts
  | case2 mantissa exponent last some => exact (valid.eq_packedNaN last some).symm
  | case3 mantissa exponent signBit sign notLast first none =>
      change packComponents Format.binary64 sign exponent mantissa = b at parts
      rwa [first, none] at parts
  | case4 mantissa exponent e signBit sign notLast first some =>
      change packComponents Format.binary64 sign exponent mantissa = b at parts
      rw [first] at parts
      refine (pack_subnormal sign mantissa ?_ _).trans parts
      show (exponent.toNat : Int) - ((1023 : Nat) + (52 : Nat)) + 1 = -1074
      rw [first]
      rfl
  | case5 mantissa exponent e signBit sign notLast notFirst =>
      exact (pack_normal sign exponent mantissa notLast _).trans parts

/-! ## Bits and floats -/

theorem ofBits_toBits (x : Float) : Float.ofBits x.toBits = x := by
  obtain ⟨⟨bits, valid⟩⟩ := x
  have same : UnpackedFloat.pack Format.binary64
      (UnpackedFloat.unpack Format.binary64 bits.toBitVec) = bits.toBitVec := pack_unpack valid
  unfold Float.ofBits Float.Model.ofBits Float.Model.pack Float.toBits
  simp only [same]

theorem toBits_ofBits {bits : UInt64} (valid : Format.binary64.Valid bits.toBitVec) :
    (Float.ofBits bits).toBits = bits := by
  have same : UnpackedFloat.pack Format.binary64
      (UnpackedFloat.unpack Format.binary64 bits.toBitVec) = bits.toBitVec := pack_unpack valid
  unfold Float.ofBits Float.Model.ofBits Float.Model.pack Float.toBits
  simp only [same]

/-! ## Magnitudes -/

theorem toNat_unpackExponent (b : BitVec 64) :
    (@unpackExponent Format.binary64 b).toNat = b.toNat / 2 ^ 52 % 2 ^ 11 := by
  simp [unpackExponent, Nat.shiftRight_eq_div_pow]

theorem toNat_unpackMantissa (b : BitVec 64) :
    (@unpackMantissa Format.binary64 b).toNat = b.toNat % 2 ^ 52 := by
  simp [unpackMantissa]

/-- The last exponent is for infinity and for what is not a number. -/
theorem mantissa_eq_zero_of_le {bits : BitVec 64} (h : bits.toNat % signBit ≤ infinity)
    (last : @unpackExponent Format.binary64 bits = -1#11) :
    @unpackMantissa Format.binary64 bits = 0#52 := by
  have exponent := congrArg BitVec.toNat last
  rw [toNat_unpackExponent] at exponent
  apply BitVec.eq_of_toNat_eq
  rw [toNat_unpackMantissa]
  change bits.toNat / 2 ^ 52 % 2 ^ 11 = 2047 at exponent
  show bits.toNat % 2 ^ 52 = 0
  unfold infinity signBit at h
  omega

theorem valid_of_le {bits : UInt64} (h : bits.toNat % signBit ≤ infinity) :
    Format.binary64.Valid bits.toBitVec := by
  constructor
  intro last some
  exact absurd (mantissa_eq_zero_of_le h last) some

theorem toNat_toBits_ofMagnitude {negative : Bool} {bits : Nat} (h : bits ≤ infinity) :
    (ofMagnitude negative bits).toBits.toNat = if negative then signBit + bits else bits := by
  have width : (if negative then signBit + bits else bits) < 2 ^ 64 := by
    unfold infinity at h
    unfold signBit
    split <;> omega
  have exact : (UInt64.ofNat (if negative then signBit + bits else bits)).toNat
      = if negative then signBit + bits else bits := by
    rw [UInt64.toNat_ofNat', Nat.mod_eq_of_lt width]
  rw [ofMagnitude, toBits_ofBits (valid_of_le ?_), exact]
  rw [exact]
  unfold infinity at h
  unfold signBit infinity
  split <;> omega

theorem magnitude_ofMagnitude {negative : Bool} {bits : Nat} (h : bits ≤ infinity) :
    magnitude (ofMagnitude negative bits) = bits := by
  rw [magnitude, toNat_toBits_ofMagnitude h]
  unfold infinity at h
  unfold signBit
  split <;> omega

theorem isNegative_ofMagnitude {negative : Bool} {bits : Nat} (h : bits ≤ infinity) :
    isNegative (ofMagnitude negative bits) = negative := by
  rw [isNegative, toNat_toBits_ofMagnitude h]
  unfold infinity at h
  cases negative with
  | false =>
      show decide (signBit ≤ bits) = false
      rw [decide_eq_false_iff_not]
      unfold signBit
      omega
  | true =>
      show decide (signBit ≤ signBit + bits) = true
      rw [decide_eq_true_iff]
      omega

/-- A float is its sign and its magnitude. -/
theorem ofMagnitude_magnitude (x : Float) : ofMagnitude (isNegative x) (magnitude x) = x := by
  have width := x.toBits.toNat_lt
  have parts : (if isNegative x then signBit + magnitude x else magnitude x) = x.toBits.toNat := by
    unfold isNegative magnitude
    by_cases negative : signBit ≤ x.toBits.toNat
    · -- one sign bit is taken off, since there are no two of them in 64 bits
      rw [if_pos (decide_eq_true negative)]
      unfold signBit at negative ⊢
      omega
    · rw [if_neg (by rw [decide_eq_true_iff]; exact negative)]
      unfold signBit at negative ⊢
      omega
  rw [ofMagnitude, parts, UInt64.ofNat_toNat, ofBits_toBits]

/-! ## Comparison with itself -/

theorem compare_self {u : UnpackedFloat} (number : u ≠ .notANumber) : u.compare u = some .eq := by
  cases u with
  | infinity sign => cases sign <;> rfl
  | notANumber => exact absurd rfl number
  | zero sign => cases sign <;> rfl
  | finite sign m e pos => cases sign <;> simp [UnpackedFloat.compare]

theorem unpack_ne_notANumber {bits : BitVec 64} (h : bits.toNat % signBit ≤ infinity) :
    UnpackedFloat.unpack Format.binary64 bits ≠ .notANumber := by
  fun_cases UnpackedFloat.unpack Format.binary64 bits with
  | case2 mantissa exponent last some => exact absurd (mantissa_eq_zero_of_le h last) some
  | _ => simp

theorem isNaN_eq_false {x : Float} (h : magnitude x ≤ infinity) : x.isNaN = false := by
  have number : x.toModel.unpack ≠ .notANumber := unpack_ne_notANumber h
  show x.toModel.unpack.isNaN = false
  cases unpacked : x.toModel.unpack with
  | notANumber => exact absurd unpacked number
  | _ => rfl

/-- Comparing numbers as numbers, what is a number equals itself. -/
theorem beq_self {x : Float} (h : magnitude x ≤ infinity) : (x == x) = true := by
  have same : x.toModel.unpack.compare x.toModel.unpack = some .eq :=
    compare_self (unpack_ne_notANumber h)
  show (x.toModel.unpack.compare x.toModel.unpack == some .eq) = true
  rw [same]
  rfl

end Calculator.Binary64
