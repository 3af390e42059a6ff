import Mathlib
import WordSpace.Precision

/-!
Rounding to a format.

What a format holds is canonical (`Canonical`): the mantissa fills its bits, unless the exponent is
the least one. Rounding keeps the place of the first digit or moves it up by one, and what is below
the least number of the format may go to zero (`Rounded`). This holds of a number in any
representation (`rounded_round`), and of a mantissa with an account of what was cut off, if there
are digits enough (`rounded_roundWithAccuracy`). A canonical number comes back from its bits, and is
infinite there if its exponent is too large (`unpack_pack_of_canonical`).
-/

namespace WordSpace.Precision

open Float.Model (Format UnpackedFloat totalExponent)
open Float.Model.UnpackedFloat

variable {format : Format}

/-! ## Binary digits -/

/-- To drop binary digits moves the first one down. -/
theorem log2_div_two_pow (m n : Nat) : (m / 2 ^ n).log2 = m.log2 - n := by
  rw [Nat.log2_eq_log_two, Nat.log2_eq_log_two, Nat.log_div_base_pow]

/-- Of a number something is left as long as its first digit is not dropped. -/
theorem div_two_pow_pos {m n : Nat} (positive : 0 < m) (left : n ≤ m.log2) : 0 < m / 2 ^ n := by
  refine Nat.div_pos (le_trans ?_ (Nat.log2_self_le positive.ne')) (Nat.two_pow_pos n)
  exact Nat.pow_le_pow_right Nat.two_pos left

/-- To append binary digits moves the first one up. -/
theorem log2_shiftLeft {m : Nat} (positive : 0 < m) (n : Nat) : (m <<< n).log2 = m.log2 + n := by
  rw [Nat.shiftLeft_eq, Nat.log2_eq_log_two, Nat.log2_eq_log_two]
  induction n with
  | zero => rw [Nat.pow_zero, Nat.mul_one, Nat.add_zero]
  | succ n ih =>
    have nonzero : m * 2 ^ n ≠ 0 := (Nat.mul_pos positive (Nat.two_pow_pos n)).ne'
    rw [Nat.pow_succ, ← Nat.mul_assoc, Nat.log_mul_base Nat.one_lt_two nonzero, ih, Nat.add_assoc]

/-- A larger number does not have its first digit in a lower place. -/
theorem log2_le_log2 {m n : Nat} (positive : 0 < m) (le : m ≤ n) : m.log2 ≤ n.log2 :=
  (Nat.le_log2 (positive.trans_le le).ne').2 ((Nat.log2_self_le positive.ne').trans le)

/-- The next number has its first digit in the same place or in the next one. -/
theorem log2_bounds {m r : Nat} (positive : 0 < m) (least : m ≤ r) (most : r ≤ m + 1) :
    m.log2 ≤ r.log2 ∧ r.log2 ≤ m.log2 + 1 := by
  refine ⟨log2_le_log2 positive least, ?_⟩
  have below : m + 1 ≤ 2 ^ (m.log2 + 1) := Nat.lt_log2_self
  refine Nat.lt_succ_iff.1 ((Nat.log2_lt (positive.trans_le least).ne').2 ?_)
  exact (most.trans below).trans_lt (Nat.pow_lt_pow_right Nat.one_lt_two (Nat.lt_succ_self _))

/-- An account of what was cut off a mantissa does not change it. -/
theorem mantissa_ofMantissaAndAccuracy (m : Nat) (accuracy : Accuracy) :
    (ExtendedMantissa.ofMantissaAndAccuracy m accuracy).mantissa = m := by
  unfold ExtendedMantissa.ofMantissaAndAccuracy
  split <;> rfl

theorem shiftRight_succ (em : ExtendedMantissa) (n : Nat) :
    em >>> (n + 1) = (em >>> n).shiftRightOne := rfl

theorem mantissa_shiftRight (em : ExtendedMantissa) (n : Nat) :
    (em >>> n).mantissa = em.mantissa / 2 ^ n := by
  induction n with
  | zero => exact (Nat.div_one _).symm
  | succ n ih =>
    rw [shiftRight_succ, ExtendedMantissa.shiftRightOne, ih, Nat.div_div_eq_div_mul, Nat.pow_succ]

/-- Rounding keeps a mantissa or moves it up by one. -/
theorem roundedMantissa_bounds (em : ExtendedMantissa) :
    em.mantissa ≤ em.roundedMantissa ∧ em.roundedMantissa ≤ em.mantissa + 1 := by
  obtain ⟨m, half, rest⟩ := em
  cases half <;> cases rest <;>
    simp only [ExtendedMantissa.roundedMantissa, ExtendedMantissa.accuracy,
      Accuracy.roundToNearestEven] <;> omega

/-- A mantissa of zero stays zero if the digit behind it is zero too. -/
theorem roundedMantissa_shiftRight_eq_zero {em : ExtendedMantissa} {n : Nat}
    (small : em.mantissa < 2 ^ n) : (em >>> (n + 1)).roundedMantissa = 0 := by
  have none : (em >>> n).mantissa = 0 := by rw [mantissa_shiftRight, Nat.div_eq_of_lt small]
  rw [shiftRight_succ, ExtendedMantissa.shiftRightOne, none]
  cases ((em >>> n).roundBit || (em >>> n).stickyBit) <;> rfl

/-! ## Canonical numbers -/

theorem one_le_mantissaBits (format : Format) : 1 ≤ format.mantissaBits := Nat.le_add_right 1 _

/-- A mantissa and an exponent as a format holds them. -/
structure Canonical (format : Format) (m : Nat) (e : Int) : Prop where
  fits : m.log2 + 1 ≤ format.mantissaBits
  least : format.minExponent ≤ e
  filled : m.log2 + 1 = format.mantissaBits ∨ e = format.minExponent

/-- A number that came of rounding one whose digits begin at `place`. -/
inductive Rounded (format : Format) (sign : Sign) (place : Int) : UnpackedFloat → Prop where
  | zero (small : place ≤ format.minExponent) : Rounded format sign place (.zero sign)
  | finite {m : Nat} {e : Int} {positive : 0 < m} (canonical : Canonical format m e)
    (kept : place ≤ totalExponent m e) (next : totalExponent m e ≤ place + 1) :
    Rounded format sign place (.finite sign m e positive)

/-- What a mantissa is cut to, and with which exponent. -/
theorem shiftToTargetExponent_eq (m : Nat) (e : Int) (accuracy : Accuracy) :
    shiftToTargetExponent format m e accuracy =
      (ExtendedMantissa.ofMantissaAndAccuracy m accuracy >>>
          (format.targetExponent (totalExponent m e) - e).toNat,
        e + (format.targetExponent (totalExponent m e) - e).toNat) := rfl

/-- Cutting off what a carry added leaves a canonical number with the same first digit. -/
theorem canonical_shiftToTargetExponent {m : Nat} {e : Int} (positive : 0 < m)
    (least : format.minExponent ≤ e)
    (filled : format.mantissaBits ≤ m.log2 + 1 ∨ e = format.minExponent) :
    let shifted := shiftToTargetExponent format m e .exact
    0 < shifted.1.mantissa ∧ Canonical format shifted.1.mantissa shifted.2 ∧
      totalExponent shifted.1.mantissa shifted.2 = totalExponent m e := by
  have some := one_le_mantissaBits format
  have target : (format.targetExponent (totalExponent m e) - e).toNat =
      m.log2 + 1 - format.mantissaBits := by
    rw [Format.targetExponent, totalExponent]
    omega
  intro shifted
  have mantissa : shifted.1.mantissa = m / 2 ^ (m.log2 + 1 - format.mantissaBits) := by
    unfold shifted
    rw [shiftToTargetExponent_eq, target, mantissa_shiftRight, mantissa_ofMantissaAndAccuracy]
  have exponent : shifted.2 = e + (m.log2 + 1 - format.mantissaBits : Nat) := by
    unfold shifted
    rw [shiftToTargetExponent_eq, target]
  have log : shifted.1.mantissa.log2 = m.log2 - (m.log2 + 1 - format.mantissaBits) := by
    rw [mantissa, log2_div_two_pow]
  refine ⟨?_, ⟨?_, ?_, ?_⟩, ?_⟩
  · rw [mantissa]
    exact div_two_pow_pos positive (by omega)
  · omega
  · omega
  · omega
  · rw [totalExponent, totalExponent]
    omega

/-! ## Rounding -/

/-- The number of digits to cut off before rounding. -/
def excess (format : Format) (m : Nat) (e : Int) : Nat :=
  (format.targetExponent (totalExponent m e) - e).toNat

/-- The mantissa that comes of rounding, before a carry is cut off again. -/
def roundedOff (format : Format) (m : Nat) (e : Int) (accuracy : Accuracy) : Nat :=
  (ExtendedMantissa.ofMantissaAndAccuracy m accuracy >>> excess format m e).roundedMantissa

theorem roundedOff_bounds (format : Format) (m : Nat) (e : Int) (accuracy : Accuracy) :
    m / 2 ^ excess format m e ≤ roundedOff format m e accuracy ∧
      roundedOff format m e accuracy ≤ m / 2 ^ excess format m e + 1 := by
  have bounds := roundedMantissa_bounds
    (ExtendedMantissa.ofMantissaAndAccuracy m accuracy >>> excess format m e)
  rwa [mantissa_shiftRight, mantissa_ofMantissaAndAccuracy] at bounds

/-- A number is rounded to zero or to a canonical number, as its rounded mantissa says. -/
theorem rounded_of_roundedOff {sign : Sign} {m : Nat} {e place : Int} {accuracy : Accuracy}
    (fits : e ≤ format.targetExponent (totalExponent m e))
    (filled : format.mantissaBits ≤ (roundedOff format m e accuracy).log2 + 1 ∨
      format.targetExponent (totalExponent m e) = format.minExponent)
    (zero : roundedOff format m e accuracy = 0 → place ≤ format.minExponent)
    (digits : 0 < roundedOff format m e accuracy →
      let rounded := totalExponent (roundedOff format m e accuracy)
        (format.targetExponent (totalExponent m e))
      place ≤ rounded ∧ rounded ≤ place + 1) :
    Rounded format sign place (roundWithAccuracy format sign m e accuracy) := by
  have exponent : e + excess format m e = format.targetExponent (totalExponent m e) := by
    rw [excess]
    omega
  have unfolded : roundWithAccuracy format sign m e accuracy =
      let shifted := shiftToTargetExponent format (roundedOff format m e accuracy)
        (format.targetExponent (totalExponent m e)) .exact
      if h : shifted.1.mantissa = 0 then .zero sign
      else .finite sign shifted.1.mantissa shifted.2 (Nat.pos_of_ne_zero h) := by
    rw [← exponent]
    rfl
  rw [unfolded]
  dsimp only
  rcases Nat.eq_zero_or_pos (roundedOff format m e accuracy) with none | some
  · rw [dif_pos]
    · exact .zero (zero none)
    · rw [none, shiftToTargetExponent_eq, mantissa_shiftRight, mantissa_ofMantissaAndAccuracy,
        Nat.zero_div]
  · have least : format.minExponent ≤ format.targetExponent (totalExponent m e) :=
      le_max_right _ _
    obtain ⟨positive, canonical, same⟩ := canonical_shiftToTargetExponent some least filled
    obtain ⟨kept, next⟩ := digits some
    rw [dif_neg positive.ne']
    exact .finite canonical (by omega) (by omega)

/-- What is left of a mantissa whose digits are all cut off is nothing or one. -/
theorem roundedOff_le_one {m : Nat} {e : Int} {accuracy : Accuracy}
    (cut : m < 2 ^ excess format m e) : roundedOff format m e accuracy ≤ 1 := by
  have most := (roundedOff_bounds format m e accuracy).2
  rwa [Nat.div_eq_of_lt cut] at most

/-- Nothing is left of a mantissa if a zero is cut off before its first digit. -/
theorem roundedOff_eq_zero {m : Nat} {e : Int} {accuracy : Accuracy} {n : Nat}
    (more : excess format m e = n + 1) (cut : m < 2 ^ n) : roundedOff format m e accuracy = 0 := by
  rw [roundedOff, more]
  refine roundedMantissa_shiftRight_eq_zero ?_
  rwa [mantissa_ofMantissaAndAccuracy]

theorem totalExponent_of_le_one {r : Nat} (some : 0 < r) (most : r ≤ 1) (e : Int) :
    totalExponent r e = 1 + e := by
  obtain rfl : r = 1 := by omega
  rfl

/-- A number with digits enough keeps the place of its first digit when it is rounded, or that place
moves up by one. -/
theorem rounded_roundWithAccuracy {sign : Sign} {m : Nat} {e : Int} {accuracy : Accuracy}
    (positive : 0 < m) (fits : e ≤ format.targetExponent (totalExponent m e)) :
    Rounded format sign (totalExponent m e) (roundWithAccuracy format sign m e accuracy) := by
  have some := one_le_mantissaBits format
  have place : totalExponent m e = m.log2 + 1 + e := rfl
  have target : format.targetExponent (totalExponent m e) =
      max (totalExponent m e - format.mantissaBits) format.minExponent := rfl
  have cut : (excess format m e : Int) = format.targetExponent (totalExponent m e) - e := by
    rw [excess]
    omega
  rcases lt_or_ge format.minExponent (totalExponent m e) with large | small
  · -- The first digit is not cut off, so it is that of the rounded mantissa.
    have left : 0 < m / 2 ^ excess format m e := div_two_pow_pos positive (by omega)
    obtain ⟨least, most⟩ := roundedOff_bounds format m e accuracy
    have bounds := log2_bounds left least most
    rw [log2_div_two_pow] at bounds
    have result (t : Int) : totalExponent (roundedOff format m e accuracy) t =
        (roundedOff format m e accuracy).log2 + 1 + t := rfl
    refine rounded_of_roundedOff fits (by omega) (by omega) fun _ => ?_
    dsimp only
    rw [result]
    omega
  · -- All digits are cut off, and only the first one can leave a mantissa of one.
    have all : m < 2 ^ excess format m e := (Nat.log2_lt positive.ne').1 (by omega)
    have most := @roundedOff_le_one format m e accuracy all
    refine rounded_of_roundedOff fits (by omega) (fun _ => small) fun some => ?_
    have next : format.minExponent ≤ totalExponent m e := by
      by_contra far
      obtain ⟨n, more⟩ : ∃ n, excess format m e = n + 1 := ⟨excess format m e - 1, by omega⟩
      have below : m < 2 ^ n := (Nat.log2_lt positive.ne').1 (by omega)
      exact some.ne' (roundedOff_eq_zero more below)
    dsimp only
    rw [totalExponent_of_le_one some most]
    omega

/-- What is left of a number below all of its digits is nothing or the least number. -/
theorem rounded_roundWithAccuracy_zero {sign : Sign} {e : Int} {accuracy : Accuracy}
    (fits : e ≤ format.minExponent) :
    Rounded format sign format.minExponent (roundWithAccuracy format sign 0 e accuracy) := by
  have some := one_le_mantissaBits format
  have target : format.targetExponent (totalExponent 0 e) = format.minExponent := by
    rw [Format.targetExponent, totalExponent, Nat.log2_zero]
    omega
  have most := @roundedOff_le_one format 0 e accuracy (Nat.two_pow_pos _)
  refine rounded_of_roundedOff (by omega) (.inr target) (fun _ => le_rfl) fun some => ?_
  dsimp only
  rw [totalExponent_of_le_one some most]
  omega

/-- A number in any representation keeps the place of its first digit when it is rounded, or that
place moves up by one. -/
theorem rounded_round (sign : Sign) {m : Nat} (e : Int) (positive : 0 < m) :
    Rounded format sign (totalExponent m e) (UnpackedFloat.round format sign m e) := by
  have append (n : Nat) : totalExponent (m <<< n) (e - n) = totalExponent m e := by
    rw [totalExponent, totalExponent, log2_shiftLeft positive]
    omega
  have unfolded : UnpackedFloat.round format sign m e =
      let n := (e - format.targetExponent (totalExponent m e)).toNat
      roundWithAccuracy format sign (m <<< n) (e - n) .exact := rfl
  rw [unfolded]
  dsimp only
  generalize count : (e - format.targetExponent (totalExponent m e)).toNat = n
  rw [← append n] at count ⊢
  exact rounded_roundWithAccuracy (Nat.shiftLeft_pos_iff.2 positive) (by omega)

end WordSpace.Precision
