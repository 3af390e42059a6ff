import WordSpace.Proofs.Precision.Packing

/-!
Where the digits of a result begin.

The place of the first digit of a product, a sum, a square root or a quotient follows from those of
the operands, up to one place and one more for rounding (`rounded_mul`, `rounded_add`,
`rounded_sqrt`, `rounded_div`). A result that is put into its format and taken out again is as it
was rounded, or infinite (`Rounded.stored`).
-/

namespace WordSpace.Precision

open Float.Model (Format UnpackedFloat totalExponent)
open Float.Model.UnpackedFloat

variable {format : Format} {sign other : Sign} {m n : Nat} {e f : Int}

theorem minExponent_le_zero (format : Format) : format.minExponent ≤ 0 := by
  have some : 0 < format.mantissaBitsWithoutImplicit := format.hm
  rw [minExponent_eq]
  omega

/-- The digits of a canonical number begin above the least exponent. -/
theorem Canonical.least_lt (canonical : Canonical format m e) :
    format.minExponent < totalExponent m e := by
  have least := canonical.least
  rw [totalExponent]
  omega

/-! ## Results in their format -/

/-- A number that came out of a format, from rounding one whose digits begin at `place`. -/
inductive Stored (format : Format) (sign : Sign) (place : Int) : UnpackedFloat → Prop where
  | zero (small : place ≤ format.minExponent) : Stored format sign place (.zero sign)
  | infinity (large : maxExponent format < place) : Stored format sign place (.infinity sign)
  | finite {m : Nat} {e : Int} {positive : 0 < m} (canonical : Canonical format m e)
    (kept : place ≤ totalExponent m e) (next : totalExponent m e ≤ place + 1) :
    Stored format sign place (.finite sign m e positive)

/-- A rounded number goes into its format, or becomes infinite. -/
theorem Rounded.stored {place : Int} {x : UnpackedFloat} (rounded : Rounded format sign place x) :
    Stored format sign place (unpack format (pack format x)) := by
  cases rounded with
  | zero small =>
    rw [unpack_pack_zero]
    exact .zero small
  | @finite m e positive canonical kept next =>
    rcases le_or_gt e (maxExponent format) with most | large
    · rw [unpack_pack_of_canonical canonical most]
      exact .finite canonical kept next
    · rw [unpack_pack_of_large large]
      refine .infinity ?_
      rw [totalExponent] at next
      omega

/-- A result that is neither too small nor too large for its format is a number of its own. -/
theorem Stored.exists_finite {place : Int} {x : UnpackedFloat}
    (stored : Stored format sign place x) (small : format.minExponent < place)
    (large : place ≤ maxExponent format) :
    ∃ m e positive, x = .finite sign m e positive ∧ Canonical format m e ∧
      place ≤ totalExponent m e ∧ totalExponent m e ≤ place + 1 := by
  cases stored with
  | zero => omega
  | infinity => omega
  | finite canonical kept next => exact ⟨_, _, _, rfl, canonical, kept, next⟩

/-! ## Products -/

/-- The first digit of a product. -/
theorem log2_mul (positive : 0 < m) (positive' : 0 < n) :
    m.log2 + n.log2 ≤ (m * n).log2 ∧ (m * n).log2 ≤ m.log2 + n.log2 + 1 := by
  have nonzero : m * n ≠ 0 := (Nat.mul_pos positive positive').ne'
  constructor
  · rw [Nat.le_log2 nonzero, Nat.pow_add]
    exact Nat.mul_le_mul (Nat.log2_self_le positive.ne') (Nat.log2_self_le positive'.ne')
  · have below : m * n < 2 ^ (m.log2 + 1) * 2 ^ (n.log2 + 1) :=
      Nat.mul_lt_mul'' Nat.lt_log2_self Nat.lt_log2_self
    rw [← Nat.pow_add, ← Nat.log2_lt nonzero] at below
    omega

/-- The digits of a product begin where those of its factors do together, or one place below. -/
theorem rounded_mul {positive : 0 < m} {positive' : 0 < n} (left : Canonical format m e)
    (right : Canonical format n f) :
    ∃ place, totalExponent m e + totalExponent n f - 1 ≤ place ∧
      place ≤ totalExponent m e + totalExponent n f ∧
      Rounded format (sign * other) place
        (mul format (.finite sign m e positive) (.finite other n f positive')) := by
  obtain ⟨least, most⟩ := log2_mul positive positive'
  refine ⟨totalExponent (m * n) (e + f), ?_, ?_,
    rounded_roundWithAccuracy (Nat.mul_pos positive positive') ?_⟩
  · simp only [totalExponent]
    omega
  · simp only [totalExponent]
    omega
  · have some := minExponent_le_zero format
    have filled := left.filled
    have filled' := right.filled
    rw [Format.targetExponent, totalExponent]
    omega

/-! ## Sums -/

/-- A sum is the same both ways round. -/
theorem unpacked_add_comm (format : Format) (a b : UnpackedFloat) :
    add format a b = add format b a := by
  cases a with
  | notANumber => cases b <;> rfl
  | infinity s =>
    cases b with
    | infinity t => cases s <;> cases t <;> rfl
    | notANumber | zero | finite => rfl
  | zero s =>
    cases b with
    | zero t => cases s <;> cases t <;> rfl
    | notANumber | infinity | finite => rfl
  | finite s m d _ =>
    cases b with
    | finite t n e _ => simp only [add, Int.min_comm d e, Int.add_comm (s.apply _)]
    | notANumber | infinity | zero => rfl

/-- The sum of two positive numbers begins where the larger one does, or above. -/
theorem rounded_add {positive : 0 < m} {positive' : 0 < n} :
    ∃ place, totalExponent m e ≤ place ∧ totalExponent n f ≤ place ∧
      Rounded format .positive place
        (add format (.finite .positive m e positive) (.finite .positive n f positive')) := by
  have unfolded : add format (.finite .positive m e positive) (.finite .positive n f positive') =
      UnpackedFloat.normalize format
        ((m <<< (e - min e f).toNat : Nat) + (n <<< (f - min e f).toNat : Nat)) (min e f)
        .positive := rfl
  have aligned := log2_shiftLeft positive (e - min e f).toNat
  have aligned' := log2_shiftLeft positive' (f - min e f).toNat
  have left : 0 < m <<< (e - min e f).toNat := Nat.shiftLeft_pos_iff.2 positive
  have right : 0 < n <<< (f - min e f).toNat := Nat.shiftLeft_pos_iff.2 positive'
  rw [unfolded]
  generalize m <<< (e - min e f).toNat = a at *
  generalize n <<< (f - min e f).toNat = b at *
  have sum : UnpackedFloat.normalize format (a + b) (min e f) .positive =
      UnpackedFloat.round format .positive (a + b) (min e f) := by
    have greater : compare ((a : Int) + b) 0 = .gt := Std.compare_eq_gt.2 (by omega)
    rw [UnpackedFloat.normalize, greater]
    rfl
  have first : a.log2 ≤ (a + b).log2 := log2_le_log2 left (Nat.le_add_right a b)
  have second : b.log2 ≤ (a + b).log2 := log2_le_log2 right (Nat.le_add_left b a)
  rw [sum]
  refine ⟨totalExponent (a + b) (min e f), ?_, ?_, rounded_round .positive _ (by omega)⟩
  · simp only [totalExponent]
    omega
  · simp only [totalExponent]
    omega

/-! ## Square roots -/

/-- The first digit of a square root stands half as high. -/
theorem log2_sqrt (positive : 0 < m) : m.sqrt.log2 = m.log2 / 2 := by
  have nonzero : m.sqrt ≠ 0 := (Nat.sqrt_pos.2 positive).ne'
  have low := Nat.log2_self_le positive.ne'
  have high : m < 2 ^ (m.log2 + 1) := Nat.lt_log2_self
  rw [Nat.log2_eq_iff nonzero, Nat.le_sqrt, Nat.sqrt_lt, ← Nat.pow_add, ← Nat.pow_add]
  constructor
  · exact (Nat.pow_le_pow_right Nat.two_pos (by omega)).trans low
  · exact high.trans_le (Nat.pow_le_pow_right Nat.two_pos (by omega))

/-- The digits of a square root begin in half the place. -/
theorem rounded_sqrt {positive : 0 < m} :
    Rounded format .positive ((totalExponent m e + 1) / 2)
      (UnpackedFloat.sqrt format (.finite .positive m e positive)) := by
  -- The root is taken of a mantissa with an even exponent, and with digits enough.
  obtain ⟨target, target_eq⟩ : ∃ target,
      target = min (e / 2) (format.targetExponent ((totalExponent m e + 1) / 2)) := ⟨_, rfl⟩
  have unfolded : ∃ accuracy, UnpackedFloat.sqrt format (.finite .positive m e positive) =
      roundWithAccuracy format .positive (m <<< (e - 2 * target).toNat).sqrt target accuracy := by
    rw [target_eq]
    exact ⟨_, rfl⟩
  have some : 0 < m <<< (e - 2 * target).toNat := Nat.shiftLeft_pos_iff.2 positive
  have digits := log2_sqrt some
  rw [log2_shiftLeft positive] at digits
  have place : totalExponent (m <<< (e - 2 * target).toNat).sqrt target =
      (totalExponent m e + 1) / 2 := by
    rw [totalExponent, totalExponent, digits]
    omega
  obtain ⟨accuracy, unfolded⟩ := unfolded
  rw [unfolded, ← place]
  refine rounded_roundWithAccuracy (Nat.sqrt_pos.2 some) ?_
  rw [place, target_eq]
  exact min_le_right _ _

/-! ## Quotients -/

/-- The first digit of a quotient, from above. -/
theorem log2_div_add_le (some : 0 < m / n) : (m / n).log2 + n.log2 ≤ m.log2 := by
  have positive : 0 < n := Nat.pos_of_ne_zero fun zero => by simp [zero] at some
  refine (log2_mul some positive).1.trans ?_
  exact log2_le_log2 (Nat.mul_pos some positive) (Nat.div_mul_le_self m n)

/-- The first digit of a quotient, from below. -/
theorem le_log2_div_add (positive : 0 < n) (larger : n.log2 < m.log2) :
    0 < m / n ∧ m.log2 ≤ (m / n).log2 + n.log2 + 1 := by
  have nonzero : m ≠ 0 := fun zero => by simp [zero] at larger
  have power : 2 ^ (m.log2 - n.log2 - 1) ≤ m / n := by
    rw [Nat.le_div_iff_mul_le positive]
    calc 2 ^ (m.log2 - n.log2 - 1) * n
        ≤ 2 ^ (m.log2 - n.log2 - 1) * 2 ^ (n.log2 + 1) :=
          Nat.mul_le_mul_left _ (Nat.le_of_lt Nat.lt_log2_self)
      _ = 2 ^ m.log2 := by
          rw [← Nat.pow_add]
          congr 1
          omega
      _ ≤ m := Nat.log2_self_le nonzero
  have some : 0 < m / n := (Nat.two_pow_pos _).trans_le power
  have digits := (Nat.le_log2 some.ne').2 power
  exact ⟨some, by omega⟩

/-- The digits of a quotient begin in the difference of the places or in the next one, unless they
are below all numbers of the format. -/
theorem rounded_div {positive : 0 < m} {positive' : 0 < n} :
    ∃ place, place ≤ max (totalExponent m e - totalExponent n f + 1) format.minExponent ∧
      (format.minExponent < totalExponent m e - totalExponent n f →
        totalExponent m e - totalExponent n f ≤ place) ∧
      Rounded format (sign / other) place
        (div format (.finite sign m e positive) (.finite other n f positive')) := by
  -- Digits are appended to the dividend until the quotient has digits enough.
  obtain ⟨target, target_eq⟩ : ∃ target, target =
      min (e - f) (format.targetExponent (totalExponent m e - totalExponent n f)) := ⟨_, rfl⟩
  obtain ⟨a, a_eq⟩ : ∃ a, a = m <<< (e - f - target).toNat := ⟨_, rfl⟩
  have unfolded : ∃ accuracy,
      div format (.finite sign m e positive) (.finite other n f positive') =
        roundWithAccuracy format (sign / other) (a / n) target accuracy := by
    rw [a_eq, target_eq]
    exact ⟨_, rfl⟩
  have digits := log2_shiftLeft positive (e - f - target).toNat
  rw [← a_eq] at digits
  have bits := one_le_mantissaBits format
  have bound : format.targetExponent (totalExponent m e - totalExponent n f) =
      max (totalExponent m e - totalExponent n f - format.mantissaBits) format.minExponent := rfl
  have place : totalExponent m e - totalExponent n f =
      a.log2 - n.log2 + target := by
    rw [totalExponent, totalExponent]
    omega
  have enough (high : format.minExponent < target) : n.log2 + format.mantissaBits ≤ a.log2 := by
    omega
  obtain ⟨accuracy, unfolded⟩ := unfolded
  rw [unfolded]
  rcases Nat.eq_zero_or_pos (a / n) with none | some
  · rw [none]
    have low : ¬ n.log2 < a.log2 := fun larger =>
      (le_log2_div_add positive' larger).1.ne' none
    refine ⟨format.minExponent, le_max_right _ _, ?_, rounded_roundWithAccuracy_zero ?_⟩
    · omega
    · by_contra high
      have long := enough (by omega)
      omega
  · have most := log2_div_add_le some
    have least (larger : n.log2 < a.log2) := (le_log2_div_add positive' larger).2
    have result : totalExponent (a / n) target = (a / n).log2 + 1 + target := rfl
    refine ⟨totalExponent (a / n) target, ?_, ?_, rounded_roundWithAccuracy some ?_⟩
    · omega
    · intro large
      have digit := least (by omega)
      omega
    · rw [Format.targetExponent]
      rcases le_or_gt target format.minExponent with low | high
      · omega
      · have long := enough high
        have digit := least (by omega)
        omega

end WordSpace.Precision
