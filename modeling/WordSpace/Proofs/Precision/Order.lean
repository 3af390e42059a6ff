import WordSpace.Lexicon.Nearest
import WordSpace.Proofs.Precision.Bits

/-!
The order of numbers of single precision.

All numbers but NaN have a place among the integers, both zeros the same one, and they compare as
their places do (`Encodes.compare_eq`). The ranks of a search are these places, read off the bits
(`rank?_eq_place?`), so the ranks decide comparison and equality of floating-point numbers
(`lt_iff_rank?`, `beq_iff_rank?`). A sum from zero keeps the rank of what is added to it
(`rank?_zero_add`): it can only change the sign of a zero.
-/

namespace WordSpace.Precision

open Float.Model (Format UnpackedFloat)
open Float.Model.UnpackedFloat (Sign)
open Lexicon (rank?)

/-! ## Unpacked numbers -/

/-- The place of a number of single precision among all of them; both zeros have place zero, and NaN
has none. -/
def place? : UnpackedFloat → Option Int
  | .notANumber => none
  | .infinity sign => some (sign.apply (255 * 2 ^ 23))
  | .zero _ => some 0
  | .finite sign mantissa exponent _ => some (sign.apply ((exponent + 149) * 2 ^ 23 + mantissa))

theorem Encodes.place?_eq {bits : Nat} {number : UnpackedFloat} (encodes : Encodes bits number) :
    place? number =
      if number.isNaN then none
      else some (if bits < 2 ^ 31 then ((bits % 2 ^ 31 : Nat) : Int)
        else -((bits % 2 ^ 31 : Nat) : Int)) := by
  cases encodes with
  | notANumber => rfl
  | @infinity sign shape =>
    change some (sign.apply (255 * 2 ^ 23)) = some _
    congr 1
    cases sign <;> simp only [signWeight] at shape <;> simp only [Sign.apply] <;> split <;> omega
  | @zero sign shape =>
    change some 0 = some _
    congr 1
    cases sign <;> simp only [signWeight] at shape <;> split <;> omega
  | @finite sign mantissa exponent _ _ _ _ _ shape =>
    change some (sign.apply ((exponent + 149) * 2 ^ 23 + mantissa)) = some _
    congr 1
    cases sign <;> simp only [signWeight] at shape <;> simp only [Sign.apply] <;> split <;> omega

/-- Exponents come before mantissas, which agrees with the places. -/
theorem compare_then_compare {m n : Nat} {d e : Int} (mBound : m < 2 ^ 24) (nBound : n < 2 ^ 24)
    (mLeast : 2 ^ 23 ≤ m ∨ d = -149) (nLeast : 2 ^ 23 ≤ n ∨ e = -149) (dLeast : -149 ≤ d)
    (eLeast : -149 ≤ e) :
    (compare d e).then (compare m n) =
      compare ((d + 149) * 2 ^ 23 + m) ((e + 149) * 2 ^ 23 + n) := by
  rcases Int.lt_trichotomy d e with less | rfl | greater
  · rw [Std.compare_eq_lt.2 less, eq_comm]
    exact Std.compare_eq_lt.2 (by omega)
  · rw [Std.compare_self, Ordering.then]
    rcases Nat.lt_trichotomy m n with less | rfl | greater
    · rw [Std.compare_eq_lt.2 less, eq_comm, Std.compare_eq_lt]
      omega
    · rw [Std.compare_self, Std.compare_self]
    · rw [Std.compare_eq_gt.2 greater, eq_comm, Std.compare_eq_gt]
      omega
  · rw [Std.compare_eq_gt.2 greater, eq_comm]
    exact Std.compare_eq_gt.2 (by omega)

theorem compare_neg_neg (a b : Int) : compare (-a) (-b) = compare b a := by
  rcases Int.lt_trichotomy b a with less | rfl | greater
  · rw [Std.compare_eq_lt.2 less, Std.compare_eq_lt]
    omega
  · rw [Std.compare_self, Std.compare_self]
  · rw [Std.compare_eq_gt.2 greater, Std.compare_eq_gt]
    omega

/-- Numbers of single precision compare as their places do. -/
theorem Encodes.compare_eq {m n : Nat} {x y : UnpackedFloat} (left : Encodes m x)
    (right : Encodes n y) :
    x.compare y = (place? x).bind fun a => (place? y).map fun b => compare a b := by
  have less {a b : Int} (h : a < b) : some Ordering.lt = some (compare a b) :=
    congrArg some (Std.compare_eq_lt.2 h).symm
  have greater {a b : Int} (h : b < a) : some Ordering.gt = some (compare a b) :=
    congrArg some (Std.compare_eq_gt.2 h).symm
  cases left with
  | notANumber => rfl
  | @infinity sign _ =>
    cases right with
    | notANumber => cases sign <;> rfl
    | @infinity other _ => cases sign <;> cases other <;> decide
    | zero _ =>
      cases sign with
      | positive => exact greater (by decide)
      | negative => exact less (by decide)
    | @finite other mantissa exponent _ _ _ _ _ _ =>
      cases sign with
      | positive =>
        refine greater ?_
        cases other <;> simp only [Sign.apply] <;> omega
      | negative =>
        refine less ?_
        cases other <;> simp only [Sign.apply] <;> omega
  | @zero sign _ =>
    cases right with
    | notANumber => rfl
    | @infinity other _ =>
      cases other with
      | positive => exact less (by decide)
      | negative => exact greater (by decide)
    | zero _ => exact congrArg some (Std.compare_self).symm
    | @finite other mantissa exponent _ _ _ _ _ _ =>
      cases other with
      | positive => exact less (by simp only [Sign.apply]; omega)
      | negative => exact greater (by simp only [Sign.apply]; omega)
  | @finite sign mantissa exponent _ bound least most leading _ =>
    cases right with
    | notANumber => rfl
    | @infinity other _ =>
      cases other with
      | positive =>
        refine less ?_
        cases sign <;> simp only [Sign.apply] <;> omega
      | negative =>
        refine greater ?_
        cases sign <;> simp only [Sign.apply] <;> omega
    | zero _ =>
      cases sign with
      | positive => exact greater (by simp only [Sign.apply]; omega)
      | negative => exact less (by simp only [Sign.apply]; omega)
    | @finite other mantissa' exponent' _ bound' least' most' leading' _ =>
      have magnitudes := compare_then_compare bound bound' leading leading' least least'
      cases sign with
      | positive =>
        cases other with
        | positive => exact congrArg some magnitudes
        | negative => exact greater (by simp only [Sign.apply]; omega)
      | negative =>
        cases other with
        | positive => exact less (by simp only [Sign.apply]; omega)
        | negative =>
          refine congrArg some ?_
          rw [magnitudes, ← Std.OrientedCmp.eq_swap]
          exact (compare_neg_neg _ _).symm

/-! ## Numbers -/

theorem encodes_toBits (x : Float32) : Encodes x.toBits.toNat x.toModel.unpack :=
  encodes_unpack x.toBits.toBitVec

theorem rank?_eq_place? (x : Float32) : rank? x = place? x.toModel.unpack := by
  have magnitude : (x.toBits &&& 0x7FFFFFFF).toNat = x.toBits.toNat % 2 ^ 31 := by
    rw [UInt32.toNat_and]
    exact Nat.and_two_pow_sub_one_eq_mod _ 31
  have sign : x.toBits &&& 0x80000000 = 0 ↔ x.toBits.toNat < 2 ^ 31 := by
    have bound := x.toBits.toNat_lt
    rw [← UInt32.toNat_inj, UInt32.toNat_and]
    change x.toBits.toNat &&& 2 ^ 31 = 0 ↔ _
    rw [Nat.and_two_pow, Nat.testBit_eq_decide_div_mod_eq]
    by_cases low : x.toBits.toNat < 2 ^ 31
    · rw [Nat.div_eq_of_lt low]
      simpa using low
    · have high : x.toBits.toNat / 2 ^ 31 % 2 = 1 := by omega
      rw [high]
      simpa using low
  rw [(encodes_toBits x).place?_eq, rank?, magnitude]
  simp only [sign]
  rfl

theorem rank?_eq_none_iff {x : Float32} : rank? x = none ↔ x.isNaN = true := by
  unfold rank?
  by_cases nan : x.isNaN = true
  · rw [if_pos nan]
    exact iff_of_true rfl nan
  · rw [if_neg nan]
    exact iff_of_false (fun h => nomatch h) nan

theorem isNaN_eq_false_iff {x : Float32} : x.isNaN = false ↔ ∃ a, rank? x = some a := by
  rw [← Bool.not_eq_true, ← rank?_eq_none_iff, ← Option.ne_none_iff_exists']

theorem compare_eq_rank? (x y : Float32) :
    x.toModel.unpack.compare y.toModel.unpack =
      (rank? x).bind fun a => (rank? y).map fun b => compare a b := by
  rw [rank?_eq_place?, rank?_eq_place?]
  exact (encodes_toBits x).compare_eq (encodes_toBits y)

theorem lt_iff_rank? {x y : Float32} :
    x < y ↔ ∃ a b, rank? x = some a ∧ rank? y = some b ∧ a < b := by
  have model : x < y ↔ x.toModel.unpack.compare y.toModel.unpack = some .lt := by
    change decide (x.toModel < y.toModel) = true ↔ _
    rw [decide_eq_true_iff]
    exact beq_iff_eq
  rw [model, compare_eq_rank?]
  cases rank? x <;> cases rank? y <;> simp [Std.compare_eq_lt]

theorem beq_iff_rank? {x y : Float32} :
    (x == y) = true ↔ ∃ a, rank? x = some a ∧ rank? y = some a := by
  have model : (x == y) = true ↔ x.toModel.unpack.compare y.toModel.unpack = some .eq := by
    change (x.toModel.unpack.compare y.toModel.unpack == some .eq) = true ↔ _
    exact beq_iff_eq
  rw [model, compare_eq_rank?]
  cases rank? x <;> cases rank? y <;> simp
  exact eq_comm

/-- A number other than NaN is put together again from its parts. -/
theorem pack_unpack {x : Float32} (isNumber : x.isNaN = false) :
    Float32.ofModel (.pack x.toModel.unpack) = x := by
  have bits : (Float32.Model.pack x.toModel.unpack).toBits = x.toModel.toBits :=
    UInt32.toNat.inj ((encodes_toBits x).toNat_pack isNumber)
  rcases x with ⟨⟨toBits, valid⟩⟩
  generalize Float32.Model.pack _ = packed at bits
  rcases packed with ⟨packedBits, packedValid⟩
  cases bits
  rfl

/-- What is added to zero keeps its rank. -/
theorem rank?_zero_add (x : Float32) : rank? (Float32.ofBits 0 + x) = rank? x := by
  have sum : Float32.ofBits 0 + x =
      .ofModel (.pack (UnpackedFloat.add .binary32 (.zero .positive) x.toModel.unpack)) := rfl
  have kept (isNumber : x.isNaN = false)
      (same : UnpackedFloat.add .binary32 (.zero .positive) x.toModel.unpack = x.toModel.unpack) :
      rank? (Float32.ofBits 0 + x) = rank? x := by
    rw [sum, same, pack_unpack isNumber]
  have isNaN : x.isNaN = x.toModel.unpack.isNaN := rfl
  cases number : x.toModel.unpack with
  | notANumber =>
    rw [number] at sum isNaN
    rw [sum, rank?_eq_none_iff.2 isNaN]
    decide
  | infinity sign =>
    rw [number] at isNaN kept
    exact kept isNaN rfl
  | zero sign =>
    rw [sum, rank?_eq_place? x, number]
    cases sign <;> decide
  | finite sign mantissa exponent positive =>
    rw [number] at isNaN kept
    exact kept isNaN rfl

end WordSpace.Precision
