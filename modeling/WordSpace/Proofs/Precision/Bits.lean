import Mathlib
import WordSpace.Precision

/-!
The bits of numbers of single precision.

`Encodes` says in arithmetic which number a pattern of 32 bits stands for: the sign weighs `2 ^ 31`,
the exponent counts in steps of `2 ^ 23`, and the mantissa is what is left. Taking a pattern apart
finds the number that it encodes (`encodes_unpack`), and putting that number together again gives
the pattern back (`Encodes.toNat_pack`).
-/

namespace WordSpace.Precision

open Float.Model (Format UnpackedFloat)
open Float.Model.UnpackedFloat (Sign unpackExponent unpackMantissa unpackSign)

/-! ## Taking apart -/

theorem unpackExponent_toNat (b : BitVec 32) :
    (@unpackExponent .binary32 b).toNat = b.toNat / 2 ^ 23 % 2 ^ 8 := by
  simp [unpackExponent, BitVec.extractLsb, BitVec.extractLsb', Nat.shiftRight_eq_div_pow]

theorem unpackMantissa_toNat (b : BitVec 32) :
    (@unpackMantissa .binary32 b).toNat = b.toNat % 2 ^ 23 := by
  simp [unpackMantissa, BitVec.extractLsb, BitVec.extractLsb']

theorem unpackSign_toNat (b : BitVec 32) :
    (@unpackSign .binary32 b).toNat = b.toNat / 2 ^ 31 := by
  have bound : b.toNat < 2 ^ 32 := b.isLt
  simp [unpackSign, BitVec.extractLsb, BitVec.extractLsb', Nat.shiftRight_eq_div_pow]
  omega

/-- The weight of the sign bit. -/
def signWeight : Sign → Nat
  | .positive => 0
  | .negative => 2 ^ 31

theorem signWeight_unpackSign (b : BitVec 32) :
    signWeight (.ofBitVec (@unpackSign .binary32 b)) = b.toNat / 2 ^ 31 * 2 ^ 31 := by
  have bound : b.toNat < 2 ^ 32 := b.isLt
  have sign := unpackSign_toNat b
  unfold Sign.ofBitVec
  split
  · rename_i positive
    rw [positive] at sign
    have zero : (0#1).toNat = 0 := rfl
    simp only [signWeight]
    omega
  · rename_i negative
    have nonzero : (@unpackSign .binary32 b).toNat ≠ 0 := fun zero =>
      negative (BitVec.eq_of_toNat_eq zero)
    simp only [signWeight]
    omega

/-- The numbers of single precision, each with its bits as a natural number. -/
inductive Encodes (bits : Nat) : UnpackedFloat → Prop
  | infinity {sign : Sign} :
    bits = signWeight sign + 255 * 2 ^ 23 → Encodes bits (.infinity sign)
  | notANumber :
    255 * 2 ^ 23 < bits % 2 ^ 31 → Encodes bits .notANumber
  | zero {sign : Sign} :
    bits = signWeight sign → Encodes bits (.zero sign)
  | finite {sign : Sign} {mantissa : Nat} {exponent : Int} (positive : 0 < mantissa) :
    mantissa < 2 ^ 24 → -149 ≤ exponent → exponent ≤ 104 →
    (2 ^ 23 ≤ mantissa ∨ exponent = -149) →
    bits = signWeight sign + ((exponent + 149).toNat * 2 ^ 23 + mantissa) →
    Encodes bits (.finite sign mantissa exponent positive)

theorem encodes_unpack (b : BitVec 32) : Encodes b.toNat (UnpackedFloat.unpack .binary32 b) := by
  have exponent := unpackExponent_toNat b
  have mantissa := unpackMantissa_toNat b
  have sign := signWeight_unpackSign b
  have bound : b.toNat < 2 ^ 32 := b.isLt
  have bias : Format.binary32.exponentBias = 127 := rfl
  have top : (-1#8 : BitVec 8).toNat = 255 := rfl
  unfold UnpackedFloat.unpack
  simp only [bias]
  split
  · rename_i isTop
    rw [isTop] at exponent
    simp only [top] at exponent
    split
    · rename_i isZero
      rw [isZero] at mantissa
      have zero : (0#23).toNat = 0 := rfl
      refine .infinity ?_
      omega
    · rename_i nonzero
      have nonzero : (@unpackMantissa .binary32 b).toNat ≠ 0 := fun zero =>
        nonzero (BitVec.eq_of_toNat_eq zero)
      refine .notANumber ?_
      omega
  · rename_i notTop
    have notTop : (@unpackExponent .binary32 b).toNat ≠ 255 := fun isTop =>
      notTop (BitVec.eq_of_toNat_eq isTop)
    split
    · rename_i isBottom
      rw [isBottom] at exponent ⊢
      have zero : (0#8).toNat = 0 := rfl
      split
      · rename_i isZero
        rw [isZero] at mantissa
        have zero : (0#23).toNat = 0 := rfl
        refine .zero ?_
        omega
      · refine .finite _ ?_ ?_ ?_ ?_ ?_ <;> omega
    · rename_i notBottom
      have notBottom : (@unpackExponent .binary32 b).toNat ≠ 0 := fun isBottom =>
        notBottom (BitVec.eq_of_toNat_eq isBottom)
      have full : (1#1 ++ @unpackMantissa .binary32 b).toNat = 2 ^ 23 + b.toNat % 2 ^ 23 := by
        rw [BitVec.toNat_append, ← Nat.shiftLeft_add_eq_or_of_lt (BitVec.isLt _), mantissa]
        rfl
      refine .finite _ ?_ ?_ ?_ ?_ ?_ <;> omega

/-! ## Putting together -/

theorem toNat_packComponents (sign : Sign) (exponent : BitVec 8) (mantissa : BitVec 23) :
    (UnpackedFloat.packComponents .binary32 sign exponent mantissa).toNat =
      signWeight sign + exponent.toNat * 2 ^ 23 + mantissa.toNat := by
  have weight : sign.toBitVec.toNat * 2 ^ 31 = signWeight sign := by cases sign <;> rfl
  have upper : (sign.toBitVec ++ exponent).toNat =
      sign.toBitVec.toNat * 2 ^ 8 + exponent.toNat := by
    rw [BitVec.toNat_append, ← Nat.shiftLeft_add_eq_or_of_lt exponent.isLt, Nat.shiftLeft_eq]
  have whole : (sign.toBitVec ++ exponent ++ mantissa).toNat =
      (sign.toBitVec ++ exponent).toNat * 2 ^ 23 + mantissa.toNat := by
    rw [BitVec.toNat_append, ← Nat.shiftLeft_add_eq_or_of_lt mantissa.isLt, Nat.shiftLeft_eq]
  change (sign.toBitVec ++ exponent ++ mantissa).toNat = _
  omega

/-- A number other than NaN is put together to the bits that encode it. -/
theorem Encodes.toNat_pack {bits : Nat} {number : UnpackedFloat} (encodes : Encodes bits number)
    (isNumber : number.isNaN = false) : (UnpackedFloat.pack .binary32 number).toNat = bits := by
  cases encodes with
  | notANumber => cases isNumber
  | infinity shape =>
    rw [UnpackedFloat.pack, UnpackedFloat.packedInfinity, toNat_packComponents, shape]
    rfl
  | zero shape =>
    rw [UnpackedFloat.pack, UnpackedFloat.packedZero, toNat_packComponents, shape]
    rfl
  | @finite sign mantissa exponent positive bound least most leading shape =>
    have bias : Format.binary32.exponentBias = 127 := rfl
    have digits : Format.binary32.mantissaBits = 24 := rfl
    simp only [UnpackedFloat.pack, bias, digits]
    rw [if_neg (by omega)]
    split
    · rename_i normal
      have full : 2 ^ 23 ≤ mantissa := by
        rw [← Nat.le_log2 (by omega)]
        omega
      rw [toNat_packComponents, BitVec.toNat_ofNat, BitVec.toNat_ofNat, shape]
      omega
    · rename_i subnormal
      have small : mantissa < 2 ^ 23 := by
        have most : mantissa.log2 < 24 := (Nat.log2_lt (by omega)).2 bound
        rw [← Nat.log2_lt (by omega)]
        omega
      have lowest : exponent = -149 := by omega
      have all : (BitVec.ofNat 23 mantissa).toNat = mantissa := by
        rw [BitVec.toNat_ofNat, Nat.mod_eq_of_lt small]
      have zero : (0#8).toNat = 0 := rfl
      rw [toNat_packComponents, all, shape]
      omega

end WordSpace.Precision
