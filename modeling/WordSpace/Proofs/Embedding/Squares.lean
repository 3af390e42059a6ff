import WordSpace.Embedding
import WordSpace.Proofs.Precision.Bits
import WordSpace.Proofs.Precision.Places

/-!
Sums of squares in single precision.

The square of a number is not negative, and it is zero only if the number is small
(`Precision.exists_place_of_mul_self`). A sum of squares is as large as each of them, as far as the
place of the first digit goes (`Embedding.reaches_inner_self`), and if it is not zero, one of the
numbers is not small (`Embedding.exists_place_of_inner_self`).
-/

namespace WordSpace

namespace Precision

open Float.Model (Format UnpackedFloat totalExponent)
open Float.Model.UnpackedFloat (Sign pack unpack)

/-! ## Numbers that are not negative -/

/-- A positive number, infinity among them, whose digits begin at `place` or above. -/
inductive Reaches (place : Int) : UnpackedFloat → Prop where
  | infinity : Reaches place (.infinity .positive)
  | finite {m : Nat} {e : Int} {positive : 0 < m} (canonical : Canonical .binary32 m e)
    (reaches : place ≤ totalExponent m e) : Reaches place (.finite .positive m e positive)

/-- Positive zero, or a positive number. -/
inductive Nonnegative : UnpackedFloat → Prop where
  | zero : Nonnegative (.zero .positive)
  | positive {place : Int} {x : UnpackedFloat} (reaches : Reaches place x) : Nonnegative x

variable {place : Int} {a b : UnpackedFloat}

/-- A number of single precision comes back as it was, or as infinity. -/
theorem Reaches.stored (reaches : Reaches place a) :
    Reaches place (unpack .binary32 (pack .binary32 a)) := by
  cases reaches with
  | infinity =>
    rw [unpack_pack_infinity]
    exact .infinity
  | @finite m e positive canonical reaches =>
    rcases le_or_gt e (maxExponent .binary32) with most | large
    · rw [unpack_pack_of_canonical canonical most]
      exact .finite canonical reaches
    · rw [unpack_pack_of_large large]
      exact .infinity

/-- What rounding keeps from becoming zero is as large as before. -/
theorem Stored.reaches {least : Int} (stored : Stored .binary32 .positive place a)
    (large : Format.binary32.minExponent < place) (le : least ≤ place) : Reaches least a := by
  cases stored with
  | zero small => omega
  | infinity => exact .infinity
  | finite canonical kept next => exact .finite canonical (le.trans kept)

theorem Stored.nonnegative (stored : Stored .binary32 .positive place a) : Nonnegative a := by
  cases stored with
  | zero => exact .zero
  | infinity => exact .positive (@Reaches.infinity 0)
  | finite canonical => exact .positive (.finite canonical le_rfl)

theorem reaches_add_left (left : Reaches place a) (right : Nonnegative b) :
    Reaches place (unpack .binary32 (pack .binary32 (UnpackedFloat.add .binary32 a b))) := by
  cases right with
  | zero => cases left with
    | infinity => exact Reaches.infinity.stored
    | finite canonical reaches => exact (Reaches.finite canonical reaches).stored
  | positive right => cases left with
    | infinity => cases right <;> exact Reaches.infinity.stored
    | finite canonical reaches => cases right with
      | infinity => exact Reaches.infinity.stored
      | finite canonical' reaches' =>
        obtain ⟨sum, first, second, rounded⟩ := rounded_add
        exact rounded.stored.reaches (canonical.least_lt.trans_le first) (reaches.trans first)

theorem reaches_add_right (left : Nonnegative a) (right : Reaches place b) :
    Reaches place (unpack .binary32 (pack .binary32 (UnpackedFloat.add .binary32 a b))) := by
  rw [unpacked_add_comm]
  exact reaches_add_left right left

theorem nonnegative_add (left : Nonnegative a) (right : Nonnegative b) :
    Nonnegative (unpack .binary32 (pack .binary32 (UnpackedFloat.add .binary32 a b))) := by
  cases left with
  | positive left => exact .positive (reaches_add_left left right)
  | zero => cases right with
    | positive right => exact .positive (reaches_add_right .zero right)
    | zero =>
      have sum : unpack .binary32 (pack .binary32 (UnpackedFloat.add .binary32
          (.zero .positive) (.zero .positive))) = .zero .positive := unpack_pack_zero
      rw [sum]
      exact .zero

/-! ## Sums -/

/-- A sum of numbers that are not negative is not negative. -/
theorem nonnegative_foldl_add {xs : List Float32} {start : Float32}
    (first : Nonnegative start.toModel.unpack)
    (others : ∀ x ∈ xs, Nonnegative x.toModel.unpack) :
    Nonnegative (xs.foldl (· + ·) start).toModel.unpack := by
  induction xs generalizing start with
  | nil => exact first
  | cons x xs ih =>
    obtain ⟨next, others⟩ := List.forall_mem_cons.1 others
    exact ih (nonnegative_add first next) others

/-- A sum of numbers that are not negative is as large as each of them. -/
theorem reaches_foldl_add {xs : List Float32} {start : Float32}
    (first : Nonnegative start.toModel.unpack)
    (others : ∀ x ∈ xs, Nonnegative x.toModel.unpack)
    (some : Reaches place start.toModel.unpack ∨ ∃ x ∈ xs, Reaches place x.toModel.unpack) :
    Reaches place (xs.foldl (· + ·) start).toModel.unpack := by
  induction xs generalizing start with
  | nil =>
    obtain reaches | ⟨x, member, -⟩ := some
    · exact reaches
    · cases member
  | cons x xs ih =>
    obtain ⟨next, others⟩ := List.forall_mem_cons.1 others
    refine ih (nonnegative_add first next) others ?_
    obtain reaches | ⟨y, member, reaches⟩ := some
    · exact .inl (reaches_add_left reaches next)
    · obtain rfl | member := List.mem_cons.1 member
      · exact .inl (reaches_add_right first reaches)
      · exact .inr ⟨y, member, reaches⟩

/-- A sum of zeros is zero. -/
theorem foldl_add_zeros {xs : List Float32} {start : Float32}
    (first : start.toModel.unpack = .zero .positive)
    (others : ∀ x ∈ xs, x.toModel.unpack = .zero .positive) :
    (xs.foldl (· + ·) start).toModel.unpack = .zero .positive := by
  induction xs generalizing start with
  | nil => exact first
  | cons x xs ih =>
    obtain ⟨next, others⟩ := List.forall_mem_cons.1 others
    refine ih ?_ others
    change unpack .binary32 (pack .binary32
      (UnpackedFloat.add .binary32 start.toModel.unpack x.toModel.unpack)) = _
    rw [first, next]
    exact unpack_pack_zero

/-! ## Squares -/

/-- The parts of a number of single precision are canonical. -/
theorem canonical_unpack {x : Float32} {sign : Sign} {m : Nat} {e : Int} {positive : 0 < m}
    (number : x.toModel.unpack = .finite sign m e positive) :
    Canonical .binary32 m e ∧ e ≤ 104 := by
  have encodes : Encodes x.toBits.toNat x.toModel.unpack := encodes_unpack x.toBits.toBitVec
  have bits : Format.binary32.mantissaBits = 24 := rfl
  have least : Format.binary32.minExponent = -149 := by decide
  rw [number] at encodes
  cases encodes with
  | finite _ bound lowest highest leading =>
    have fits : m.log2 < 24 := (Nat.log2_lt positive.ne').2 bound
    refine ⟨⟨by omega, by omega, ?_⟩, highest⟩
    rcases leading with full | lowest
    · have digits := (Nat.le_log2 positive.ne').2 full
      exact .inl (by omega)
    · exact .inr (by omega)

/-- The square of a finite number other than zero comes of rounding one with twice the places. -/
theorem exists_stored_mul_self {x : Float32} {sign : Sign} {m : Nat} {e : Int} {positive : 0 < m}
    (number : x.toModel.unpack = .finite sign m e positive) :
    ∃ place, 2 * totalExponent m e - 1 ≤ place ∧ place ≤ 2 * totalExponent m e ∧
      Stored .binary32 .positive place (x * x).toModel.unpack := by
  have canonical := (canonical_unpack number).1
  obtain ⟨place, least, most, rounded⟩ :=
    @rounded_mul .binary32 sign sign m m e e positive positive canonical canonical
  have same : sign * sign = .positive := by cases sign <;> rfl
  rw [same, ← number] at rounded
  exact ⟨place, by omega, by omega, rounded.stored⟩

theorem mul_self_of_zero {x : Float32} {sign : Sign} (zero : x.toModel.unpack = .zero sign) :
    (x * x).toModel.unpack = .zero .positive := by
  have product : (x * x).toModel.unpack = unpack .binary32 (pack .binary32
      (UnpackedFloat.mul .binary32 x.toModel.unpack x.toModel.unpack)) := rfl
  rw [product, zero]
  cases sign <;> exact unpack_pack_zero

/-- A finite number is a zero or has digits. -/
theorem unpack_of_isFinite {x : Float32} (finite : x.isFinite = true) :
    (∃ sign, x.toModel.unpack = .zero sign) ∨
      ∃ sign m e positive, x.toModel.unpack = .finite sign m e positive := by
  have parts : x.toModel.unpack.isFinite = true := finite
  cases number : x.toModel.unpack with
  | zero sign => exact .inl ⟨sign, rfl⟩
  | finite sign m e positive => exact .inr ⟨sign, m, e, positive, rfl⟩
  | notANumber | infinity =>
    rw [number] at parts
    cases parts

theorem nonnegative_mul_self {x : Float32} (finite : x.isFinite = true) :
    Nonnegative (x * x).toModel.unpack := by
  obtain ⟨sign, zero⟩ | ⟨sign, m, e, positive, number⟩ := unpack_of_isFinite finite
  · rw [mul_self_of_zero zero]
    exact .zero
  · obtain ⟨place, -, -, stored⟩ := exists_stored_mul_self number
    exact stored.nonnegative

/-- A square that is not zero comes of a number that is not small. -/
theorem exists_place_of_mul_self {x : Float32} (finite : x.isFinite = true)
    (nonzero : (x * x).toModel.unpack ≠ .zero .positive) :
    ∃ sign m e positive, x.toModel.unpack = .finite sign m e positive ∧
      -74 ≤ totalExponent m e := by
  have least : Format.binary32.minExponent = -149 := by decide
  obtain ⟨sign, zero⟩ | ⟨sign, m, e, positive, number⟩ := unpack_of_isFinite finite
  · exact absurd (mul_self_of_zero zero) nonzero
  · refine ⟨sign, m, e, positive, number, ?_⟩
    obtain ⟨place, -, most, stored⟩ := exists_stored_mul_self number
    generalize (x * x).toModel.unpack = square at stored nonzero
    cases stored with
    | zero => exact absurd rfl nonzero
    | infinity large =>
      have positive : (0 : Int) ≤ maxExponent .binary32 := by decide
      omega
    | finite canonical kept next =>
      have above := canonical.least_lt
      omega

end Precision

/-! ## Embeddings -/

namespace Embedding

open Float.Model (Format totalExponent)
open Float.Model.UnpackedFloat (Sign)
open Precision

variable {v : Embedding}

theorem inner_self (v : Embedding) :
    inner v v = (v.map fun x => x * x).foldl (· + ·) (Float32.ofBits 0) := by
  rw [inner, List.zipWith_self]

theorem unpack_zero : (Float32.ofBits 0).toModel.unpack = .zero .positive := unpack_pack_zero

theorem forall_nonnegative_mul_self (finite : ∀ x ∈ v, x.isFinite = true) :
    ∀ y ∈ v.map fun x => x * x, Nonnegative y.toModel.unpack := by
  intro y member
  obtain ⟨x, inside, rfl⟩ := List.mem_map.1 member
  exact nonnegative_mul_self (finite x inside)

/-- A sum of squares is not negative. -/
theorem nonnegative_inner_self (finite : ∀ x ∈ v, x.isFinite = true) :
    Nonnegative (inner v v).toModel.unpack := by
  rw [inner_self]
  refine nonnegative_foldl_add ?_ (forall_nonnegative_mul_self finite)
  rw [unpack_zero]
  exact .zero

/-- A sum of squares is as large as each of them, unless that square may be zero. -/
theorem reaches_inner_self (finite : ∀ x ∈ v, x.isFinite = true) {x : Float32} (member : x ∈ v)
    {sign : Sign} {m : Nat} {e : Int} {positive : 0 < m}
    (number : x.toModel.unpack = .finite sign m e positive) (large : -74 < totalExponent m e) :
    Reaches (2 * totalExponent m e - 1) (inner v v).toModel.unpack := by
  have least : Format.binary32.minExponent = -149 := by decide
  obtain ⟨place, kept, -, stored⟩ := exists_stored_mul_self number
  rw [inner_self]
  refine reaches_foldl_add ?_ (forall_nonnegative_mul_self finite)
    (.inr ⟨x * x, List.mem_map_of_mem member, stored.reaches (by omega) kept⟩)
  rw [unpack_zero]
  exact .zero

/-- A sum of squares that is not zero comes of a number that is not small. -/
theorem exists_place_of_inner_self (finite : ∀ x ∈ v, x.isFinite = true)
    (nonzero : (inner v v).toModel.unpack ≠ .zero .positive) :
    ∃ x ∈ v, ∃ sign m e positive, x.toModel.unpack = .finite sign m e positive ∧
      -74 ≤ totalExponent m e := by
  by_contra none
  push Not at none
  refine nonzero ?_
  rw [inner_self]
  refine foldl_add_zeros unpack_zero fun y member => ?_
  obtain ⟨x, inside, rfl⟩ := List.mem_map.1 member
  by_contra square
  obtain ⟨sign, m, e, positive, number, place⟩ :=
    exists_place_of_mul_self (finite x inside) square
  exact absurd place (not_le.2 (none x inside sign m e positive number))

end Embedding

end WordSpace
