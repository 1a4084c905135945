/-
# `Keypad.Proofs.Bits` — a double is its sign and its magnitude

The magnitude of a double is its bit pattern without the sign.  The two together
give the double back, whatever it is (`ofMagnitude_magnitude`).  The other way
round this holds of the finite magnitudes, which are those below that of infinity
(`isFinite_iff`); above there are many patterns for the one NaN.
-/
import Keypad.Number.Double
import Mathlib

namespace Keypad.Double

open Float.Model Float.Model.UnpackedFloat

theorem infinity_eq : infinity = 2047 * 2 ^ 52 := rfl

/-! ## The exponent of a pattern -/

/-- Whether all bits of the exponent are set. -/
theorem unpackExponent_eq_iff (b : BitVec 64) :
    @unpackExponent .binary64 b = -1#11 ↔ ¬b.toNat % 2 ^ 63 < infinity := by
  have exponent : (@unpackExponent .binary64 b).toNat = b.toNat / 2 ^ 52 % 2 ^ 11 := by
    rw [unpackExponent_def, BitVec.extractLsb'_toNat, Nat.shiftRight_eq_div_pow]
  have all_set : @unpackExponent .binary64 b = -1#11 ↔ b.toNat / 2 ^ 52 % 2 ^ 11 = 2047 := by
    rw [← exponent, ← BitVec.toNat_inj]
    rfl
  rw [all_set, infinity_eq]
  have := b.isLt
  omega

theorem isFinite_unpack_iff (b : BitVec 64) :
    (unpack .binary64 b).isFinite = true ↔ b.toNat % 2 ^ 63 < infinity := by
  rw [← not_iff_not, ← unpackExponent_eq_iff, UnpackedFloat.unpack]
  split
  · rename_i all_set
    split <;> exact iff_of_true Bool.false_ne_true all_set
  · rename_i not_all
    split
    · split <;> exact iff_of_false (not_not.mpr rfl) not_all
    · exact iff_of_false (not_not.mpr rfl) not_all

theorem unpackMantissa_eq_zero_iff (b : BitVec 64) :
    @unpackMantissa .binary64 b = 0#52 ↔ b.toNat % 2 ^ 52 = 0 := by
  have mantissa : (@unpackMantissa .binary64 b).toNat = b.toNat % 2 ^ 52 := by
    rw [unpackMantissa_def, BitVec.extractLsb'_toNat, Nat.shiftRight_zero]
  rw [← mantissa, ← BitVec.toNat_inj]
  rfl

/-- A pattern is taken as it is, unless it is one of a NaN. -/
theorem toBits_ofBits {bits : UInt64} (finite : bits.toNat % 2 ^ 63 < infinity) :
    (Float.ofBits bits).toBits = bits := by
  have exponent := (not_congr (unpackExponent_eq_iff bits.toBitVec)).mpr (not_not.mpr finite)
  have number : ¬ @isNaNBits .binary64 bits.toBitVec = true :=
    fun nan => exponent (of_decide_eq_true nan).1
  exact UInt64.toBitVec_inj.mp
    ((@pack_unpack .binary64 bits.toBitVec (by decide)).trans (if_neg number))

/-! ## Sign and magnitude -/

theorem isFinite_iff (x : Float) : x.isFinite = true ↔ magnitude x < infinity :=
  isFinite_unpack_iff x.toBits.toBitVec

theorem isNaN_eq_false {x : Float} (finite : x.isFinite = true) : x.isNaN = false := by
  have number : x.toModel.unpack.isFinite = true := finite
  show x.toModel.unpack.isNaN = false
  revert number
  cases x.toModel.unpack <;> simp [UnpackedFloat.isNaN, UnpackedFloat.isFinite]

/-- What is neither finite nor a NaN has the magnitude of infinity. -/
theorem magnitude_eq_infinity {x : Float} (infinite : x.isFinite = false)
    (number : x.isNaN = false) : magnitude x = infinity := by
  have large := (isFinite_iff x).not.mp (Bool.eq_false_iff.mp infinite)
  have exponent := (unpackExponent_eq_iff x.toBits.toBitVec).mpr large
  have word : (unpack .binary64 x.toBits.toBitVec).isNaN = false := number
  have mantissa : @unpackMantissa .binary64 x.toBits.toBitVec = 0#52 := by
    by_contra other
    rw [UnpackedFloat.unpack, if_pos exponent, if_neg other] at word
    cases word
  rw [unpackMantissa_eq_zero_iff] at mantissa
  rw [infinity_eq] at large ⊢
  have bounded := x.toBits.toNat_lt
  have pattern : x.toBits.toBitVec.toNat = x.toBits.toNat := rfl
  simp only [magnitude, Nat.pow_eq] at large ⊢
  omega

theorem ofMagnitude_magnitude (x : Float) : ofMagnitude (negative x) (magnitude x) = x := by
  have pattern : (if negative x then Nat.pow 2 63 + magnitude x else magnitude x)
      = x.toBits.toNat := by
    have bounded := x.toBits.toNat_lt
    simp only [negative, magnitude, decide_eq_true_eq, Nat.pow_eq]
    split <;> omega
  rw [ofMagnitude, pattern, UInt64.ofNat_toNat, Float.ofBits_toBits]

variable {b : Nat}

theorem toNat_toBits_ofMagnitude (sign : Bool) (finite : b < infinity) :
    (ofMagnitude sign b).toBits.toNat = if sign then 2 ^ 63 + b else b := by
  have bound : infinity = 2047 * 2 ^ 52 := infinity_eq
  have small : (if sign then 2 ^ 63 + b else b) < 2 ^ 64 := by split <;> omega
  have kept : (UInt64.ofNat (if sign then 2 ^ 63 + b else b)).toNat
      = if sign then 2 ^ 63 + b else b := by
    rw [UInt64.toNat_ofNat', Nat.mod_eq_of_lt small]
  rw [ofMagnitude]
  simp only [Nat.pow_eq]
  rw [toBits_ofBits, kept]
  rw [kept]
  split <;> omega

theorem magnitude_ofMagnitude (sign : Bool) (finite : b < infinity) :
    magnitude (ofMagnitude sign b) = b := by
  have bound : infinity = 2047 * 2 ^ 52 := infinity_eq
  rw [magnitude, toNat_toBits_ofMagnitude sign finite, Nat.pow_eq]
  split <;> omega

theorem negative_ofMagnitude (sign : Bool) (finite : b < infinity) :
    negative (ofMagnitude sign b) = sign := by
  have bound : infinity = 2047 * 2 ^ 52 := infinity_eq
  rw [negative, toNat_toBits_ofMagnitude sign finite, Nat.pow_eq]
  cases sign
  · simp only [Bool.false_eq_true, if_false, decide_eq_false_iff_not]
    omega
  · simp

theorem isFinite_ofMagnitude (sign : Bool) (finite : b < infinity) :
    (ofMagnitude sign b).isFinite = true := by
  rw [isFinite_iff, magnitude_ofMagnitude sign finite]
  exact finite

end Keypad.Double
