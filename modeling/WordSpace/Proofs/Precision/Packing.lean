import WordSpace.Proofs.Precision.Rounding

/-!
Numbers and their bits, in any format.

Zeros and infinities come back from their bits, and so do canonical numbers, unless their exponent
is too large: then infinity comes back (`unpack_pack_zero`, `unpack_pack_infinity`,
`unpack_pack_of_canonical`, `unpack_pack_of_large`).
-/

namespace WordSpace.Precision

open Float.Model (Format UnpackedFloat)
open Float.Model.UnpackedFloat

variable {format : Format} {sign : Sign}

/-! ## Parts of a pattern -/

theorem unpackSign_packComponents (exponent : BitVec format.exponentBits)
    (mantissa : BitVec format.mantissaBitsWithoutImplicit) :
    unpackSign (packComponents format sign exponent mantissa) = sign.toBitVec := by
  ext i bound
  obtain rfl : i = 0 := by omega
  simp [unpackSign, packComponents, BitVec.getLsbD_append, BitVec.getElem_append]

theorem ofBitVec_toBitVec (sign : Sign) : Sign.ofBitVec sign.toBitVec = sign := by
  cases sign <;> rfl

/-- The exponents of a format, the two reserved ones among them. -/
theorem two_pow_exponentBits (format : Format) :
    2 ^ format.exponentBits = 2 * format.exponentBias + 2 := by
  have some : 0 < format.exponentBits := format.he
  have positive : 0 < 2 ^ (format.exponentBits - 1) := Nat.two_pow_pos _
  have double : 2 ^ format.exponentBits = 2 ^ (format.exponentBits - 1) * 2 := by
    rw [← Nat.pow_succ]
    congr 1
    omega
  rw [Format.exponentBias]
  omega

theorem minExponent_eq (format : Format) :
    format.minExponent = 1 - format.exponentBias - format.mantissaBitsWithoutImplicit := by
  have positive : 0 < 2 ^ (format.exponentBits - 1) := Nat.two_pow_pos _
  rw [Format.minExponent, Format.mantissaBits, Format.exponentBias]
  push_cast [Nat.cast_sub (Nat.succ_le_of_lt positive)]
  ring

/-- The exponent of infinity and NaN. -/
theorem toNat_top (format : Format) :
    (-1#_ : BitVec format.exponentBits).toNat = 2 ^ format.exponentBits - 1 := by
  rw [BitVec.neg_one_eq_allOnes, BitVec.toNat_allOnes]

theorem ne_top {exponent : BitVec format.exponentBits}
    (low : exponent.toNat + 1 < 2 ^ format.exponentBits) : exponent ≠ -1#_ := by
  intro top
  have value := toNat_top format
  rw [← top] at value
  omega

theorem zero_ne_top : (0#_ : BitVec format.exponentBits) ≠ -1#_ := by
  refine ne_top ?_
  have count := two_pow_exponentBits format
  rw [BitVec.toNat_zero]
  omega

/-- The digits of a mantissa with its first one, which is not written down. -/
theorem toNat_append (mantissa : BitVec format.mantissaBitsWithoutImplicit) :
    (1#1 ++ mantissa).toNat = 2 ^ format.mantissaBitsWithoutImplicit + mantissa.toNat := by
  rw [BitVec.toNat_append, ← Nat.shiftLeft_add_eq_or_of_lt mantissa.isLt, Nat.shiftLeft_eq]
  simp

theorem finite_congr {m m' : Nat} {e e' : Int} {positive : 0 < m} {positive' : 0 < m'}
    (mantissa : m = m') (exponent : e = e') :
    UnpackedFloat.finite sign m e positive = .finite sign m' e' positive' := by
  subst mantissa exponent
  rfl

/-! ## Back from the bits -/

variable {mantissa : BitVec format.mantissaBitsWithoutImplicit} {m : Nat} {e : Int}
  {positive : 0 < m}

theorem unpack_pack_zero : unpack format (pack format (.zero sign)) = .zero sign := by
  have nothing : (0 : BitVec format.mantissaBitsWithoutImplicit) = 0#_ := rfl
  have lowest : (0 : BitVec format.exponentBits) = 0#_ := rfl
  rw [pack, packedZero, unpack]
  simp only [unpackMantissa_packComponents, unpackExponent_packComponents,
    unpackSign_packComponents, ofBitVec_toBitVec, lowest, if_neg zero_ne_top, if_true,
    dif_pos nothing]

theorem unpack_packedInfinity : unpack format (packedInfinity format sign) = .infinity sign := by
  have nothing : (0 : BitVec format.mantissaBitsWithoutImplicit) = 0#_ := rfl
  rw [packedInfinity, unpack]
  simp only [unpackMantissa_packComponents, unpackExponent_packComponents,
    unpackSign_packComponents, ofBitVec_toBitVec, if_true, if_pos nothing]

theorem unpack_pack_infinity : unpack format (pack format (.infinity sign)) = .infinity sign :=
  unpack_packedInfinity

/-- A pattern of the lowest exponent stands for its mantissa at the least exponent. -/
theorem unpack_packComponents_zero (value : mantissa.toNat = m) :
    unpack format (packComponents format sign 0#_ mantissa) =
      .finite sign m format.minExponent positive := by
  have nonzero : mantissa ≠ 0#_ := by
    rintro rfl
    rw [BitVec.toNat_zero] at value
    omega
  rw [unpack]
  simp only [unpackMantissa_packComponents, unpackExponent_packComponents,
    unpackSign_packComponents, ofBitVec_toBitVec, if_neg zero_ne_top, if_true, dif_neg nonzero]
  refine finite_congr value ?_
  rw [minExponent_eq, BitVec.toNat_zero]
  omega

/-- A pattern of an exponent between the reserved ones stands for its mantissa behind a first
digit. -/
theorem unpack_packComponents {exponent : BitVec format.exponentBits}
    (nonzero : 0 < exponent.toNat) (low : exponent.toNat + 1 < 2 ^ format.exponentBits)
    (value : (1#1 ++ mantissa).toNat = m)
    (place : (exponent.toNat : Int) -
      (format.exponentBias + format.mantissaBitsWithoutImplicit) = e) :
    unpack format (packComponents format sign exponent mantissa) = .finite sign m e positive := by
  have filled : exponent ≠ 0#_ := by
    rintro rfl
    rw [BitVec.toNat_zero] at nonzero
    omega
  rw [unpack]
  simp only [unpackMantissa_packComponents, unpackExponent_packComponents,
    unpackSign_packComponents, ofBitVec_toBitVec, if_neg (ne_top low), if_neg filled]
  exact finite_congr value place

/-- The largest exponent of a format. -/
def maxExponent (format : Format) : Int :=
  format.exponentBias - format.mantissaBitsWithoutImplicit

/-- A number with too large an exponent becomes infinite. -/
theorem unpack_pack_of_large (large : maxExponent format < e) :
    unpack format (pack format (.finite sign m e positive)) = .infinity sign := by
  have count := two_pow_exponentBits format
  rw [maxExponent] at large
  rw [pack, if_pos (by omega), unpack_packedInfinity]

/-- A canonical number comes back from its bits. -/
theorem unpack_pack_of_canonical (canonical : Canonical format m e)
    (most : e ≤ maxExponent format) :
    unpack format (pack format (.finite sign m e positive)) = .finite sign m e positive := by
  obtain ⟨fits, least, filled⟩ := canonical
  have count := two_pow_exponentBits format
  have bits : format.mantissaBits = format.mantissaBitsWithoutImplicit + 1 := Nat.add_comm _ _
  have lowest := minExponent_eq format
  rw [maxExponent] at most
  rw [pack, if_neg (by omega)]
  split
  case isTrue normal =>
    have digits : m.log2 = format.mantissaBitsWithoutImplicit := by omega
    obtain ⟨low, high⟩ := (Nat.log2_eq_iff positive.ne').1 digits
    have exponent := Nat.mod_eq_of_lt (show (e + format.exponentBias +
      format.mantissaBitsWithoutImplicit).toNat < 2 ^ format.exponentBits by omega)
    refine unpack_packComponents ?_ ?_ ?_ ?_
    · rw [BitVec.toNat_ofNat, exponent]
      omega
    · rw [BitVec.toNat_ofNat, exponent]
      omega
    · rw [toNat_append, BitVec.toNat_ofNat, Nat.mod_eq_sub_mod low, Nat.mod_eq_of_lt (by omega)]
      omega
    · rw [BitVec.toNat_ofNat, exponent]
      omega
  case isFalse subnormal =>
    have small : m < 2 ^ format.mantissaBitsWithoutImplicit :=
      (Nat.log2_lt positive.ne').1 (by omega)
    obtain rfl : e = format.minExponent := by omega
    refine unpack_packComponents_zero ?_
    rw [BitVec.toNat_ofNat, Nat.mod_eq_of_lt small]

end WordSpace.Precision
