import WordSpace.Embedding
import WordSpace.Proofs.Precision.Bits

/-!
Arithmetic with NaN.

An operation that has NaN for an operand gives NaN: a sum, a difference, a product, a quotient, a
square root, and a number that is carried to the other format. So one NaN among the numbers of an
embedding makes its inner products NaN (`Embedding.isNaN_inner`), and with them all numbers of the
embedding once it is normalized (`Embedding.isNaN_of_mem_normalize`). NaN also comes of numbers: an
embedding of finite numbers leaves zeros when it is subtracted from itself
(`Embedding.subtract_self`), and zeros cannot be normalized
(`Embedding.isNaN_of_mem_normalize_zeros`).
-/

namespace WordSpace

open Float.Model (UnpackedFloat)

/-! ## Operations -/

namespace Precision

theorem isNaN_ofModel_pack : (Float32.ofModel (.pack .notANumber)).isNaN = true := by decide

/-- An operation of two numbers that gives NaN for NaN, on either side. -/
theorem isNaN_pack_of_absorbing {op : UnpackedFloat → UnpackedFloat → UnpackedFloat} {x y : Float32}
    (left : ∀ b, op .notANumber b = .notANumber) (right : ∀ a, op a .notANumber = .notANumber)
    (nan : x.isNaN = true ∨ y.isNaN = true) :
    (Float32.ofModel (.pack (op x.toModel.unpack y.toModel.unpack))).isNaN = true := by
  have result : op x.toModel.unpack y.toModel.unpack = .notANumber := by
    rcases nan with nan | nan
    · rw [UnpackedFloat.isNaN_iff.1 nan, left]
    · rw [UnpackedFloat.isNaN_iff.1 nan, right]
  rw [result]
  exact isNaN_ofModel_pack

theorem isNaN_add {x y : Float32} (nan : x.isNaN = true ∨ y.isNaN = true) :
    (x + y).isNaN = true :=
  isNaN_pack_of_absorbing (fun _ => rfl) (fun a => by cases a <;> rfl) nan

theorem isNaN_sub {x y : Float32} (nan : x.isNaN = true ∨ y.isNaN = true) :
    (x - y).isNaN = true :=
  isNaN_pack_of_absorbing (fun _ => rfl) (fun a => by cases a <;> rfl) nan

theorem isNaN_mul {x y : Float32} (nan : x.isNaN = true ∨ y.isNaN = true) :
    (x * y).isNaN = true :=
  isNaN_pack_of_absorbing (fun _ => rfl) (fun a => by cases a <;> rfl) nan

theorem isNaN_div {x y : Float32} (nan : x.isNaN = true ∨ y.isNaN = true) :
    (x / y).isNaN = true :=
  isNaN_pack_of_absorbing (fun _ => rfl) (fun a => by cases a <;> rfl) nan

theorem isNaN_single {x : Float} (nan : x.isNaN = true) : (single x).isNaN = true := by
  rw [single, UnpackedFloat.isNaN_iff.1 nan]
  exact isNaN_ofModel_pack

theorem isNaN_double {x : Float32} (nan : x.isNaN = true) : (double x).isNaN = true := by
  rw [double, UnpackedFloat.isNaN_iff.1 nan]
  decide

theorem isNaN_sqrt {x : Float} (nan : x.isNaN = true) : x.sqrt.isNaN = true := by
  have root : x.sqrt = .ofModel (.pack (UnpackedFloat.sqrt .binary64 x.toModel.unpack)) := rfl
  rw [root, UnpackedFloat.isNaN_iff.1 nan]
  decide

/-- A sum is NaN as soon as one number in it is. -/
theorem isNaN_foldl_add {xs : List Float32} {start : Float32}
    (nan : start.isNaN = true ∨ ∃ x ∈ xs, x.isNaN = true) :
    (xs.foldl (· + ·) start).isNaN = true := by
  induction xs generalizing start with
  | nil =>
    rcases nan with nan | ⟨x, member, -⟩
    · exact nan
    · cases member
  | cons y ys ih =>
    refine ih ?_
    rcases nan with nan | ⟨x, member, nan⟩
    · exact .inl (isNaN_add (.inl nan))
    · rcases List.mem_cons.1 member with rfl | member
      · exact .inl (isNaN_add (.inr nan))
      · exact .inr ⟨x, member, nan⟩

/-- What is subtracted from itself leaves positive zero, unless it is infinite or NaN. -/
theorem sub_self_of_isFinite {x : Float32} (finite : x.isFinite = true) :
    x - x = Float32.ofBits 0 := by
  have zero : Float32.ofBits 0 = .ofModel (.pack (.zero .positive)) := by decide
  have difference : x - x =
      .ofModel (.pack (UnpackedFloat.sub .binary32 x.toModel.unpack x.toModel.unpack)) := rfl
  have parts : x.isFinite = x.toModel.unpack.isFinite := rfl
  rw [difference, zero]
  rw [parts] at finite
  congr 2
  cases number : x.toModel.unpack with
  | notANumber =>
    rw [number] at finite
    cases finite
  | infinity sign =>
    rw [number] at finite
    cases finite
  | zero sign => cases sign <;> rfl
  | finite sign mantissa exponent positive =>
    simp only [UnpackedFloat.sub, UnpackedFloat.normalize, Int.sub_self, Std.compare_self]

end Precision

/-! ## Embeddings -/

namespace Embedding

open Precision

/-- An inner product is NaN as soon as one of the numbers that are multiplied is. -/
theorem isNaN_inner {a b : Embedding}
    (nan : ∃ p ∈ a.zip b, p.1.isNaN = true ∨ p.2.isNaN = true) : (inner a b).isNaN = true := by
  obtain ⟨p, member, nan⟩ := nan
  refine isNaN_foldl_add (.inr ⟨p.1 * p.2, ?_, isNaN_mul nan⟩)
  rw [← List.map_uncurry_zip_eq_zipWith]
  exact List.mem_map_of_mem member

theorem isNaN_inner_self {v : Embedding} (nan : ∃ x ∈ v, x.isNaN = true) :
    (inner v v).isNaN = true := by
  obtain ⟨x, member, nan⟩ := nan
  refine isNaN_inner ⟨(x, x), ?_, .inl nan⟩
  rw [List.zip_eq_zipWith, List.zipWith_self]
  exact List.mem_map_of_mem member

/-- An inner product with an embedding of nothing but NaN is NaN, whatever the other one is. -/
theorem isNaN_inner_of_forall {a b : Embedding} (fits : a.length = b.length) (nonempty : b ≠ [])
    (nan : (∀ x ∈ a, x.isNaN = true) ∨ ∀ y ∈ b, y.isNaN = true) : (inner a b).isNaN = true := by
  cases b with
  | nil => exact absurd rfl nonempty
  | cons y b =>
    cases a with
    | nil => cases fits
    | cons x a =>
      have first : x.isNaN = true ∨ y.isNaN = true :=
        nan.imp (· x List.mem_cons_self) (· y List.mem_cons_self)
      exact isNaN_inner ⟨(x, y), List.mem_cons_self, first⟩

/-- One NaN in an embedding makes all of its numbers NaN when it is normalized. -/
theorem isNaN_of_mem_normalize {v : Embedding} (nan : ∃ x ∈ v, x.isNaN = true) :
    ∀ y ∈ v.normalize, y.isNaN = true := by
  intro y member
  obtain ⟨x, -, rfl⟩ := List.mem_map.1 member
  exact isNaN_div (.inr (isNaN_single (isNaN_sqrt (isNaN_double (isNaN_inner_self nan)))))

/-! ## Sums and differences -/

/-- Embeddings of one length are paired number by number. -/
theorem align_of_length_eq {a b : Embedding} (same : a.length = b.length) :
    align a b = .ok (a.zip b) := by
  unfold align
  split
  case h_1 x =>
    obtain ⟨y, rfl⟩ := List.length_eq_one_iff.1 same.symm
    rfl
  case h_2 y _ =>
    obtain ⟨x, rfl⟩ := List.length_eq_one_iff.1 same
    rfl
  case h_3 => exact if_pos same

/-- An operation that gives NaN for NaN has NaN wherever one of two embeddings has it. -/
theorem exists_isNaN_of_zip {op : Float32 → Float32 → Float32} {a b : Embedding}
    (absorbing : ∀ x y, x.isNaN = true ∨ y.isNaN = true → (op x y).isNaN = true)
    (same : a.length = b.length)
    (nan : (∃ x ∈ a, x.isNaN = true) ∨ ∃ y ∈ b, y.isNaN = true) :
    ∃ z ∈ (a.zip b).map fun (x, y) => op x y, z.isNaN = true := by
  have met : ∃ p ∈ a.zip b, p.1.isNaN = true ∨ p.2.isNaN = true := by
    rcases nan with ⟨x, member, nan⟩ | ⟨y, member, nan⟩
    · rw [← List.map_fst_zip same.le] at member
      obtain ⟨p, paired, rfl⟩ := List.mem_map.1 member
      exact ⟨p, paired, .inl nan⟩
    · rw [← List.map_snd_zip same.ge] at member
      obtain ⟨p, paired, rfl⟩ := List.mem_map.1 member
      exact ⟨p, paired, .inr nan⟩
  obtain ⟨⟨x, y⟩, paired, nan⟩ := met
  exact ⟨op x y, List.mem_map_of_mem paired, absorbing x y nan⟩

/-- An embedding of finite numbers leaves nothing but zeros when it is subtracted from itself. -/
theorem subtract_self {v : Embedding} (finite : ∀ x ∈ v, x.isFinite = true) :
    subtract v v = .ok (List.replicate v.length (Float32.ofBits 0)) := by
  rw [subtract, align_of_length_eq rfl]
  change Except.ok ((v.zip v).map fun (x, y) => x - y) = _
  rw [List.zip_eq_zipWith, List.zipWith_self, List.map_map, Except.ok.injEq,
    List.map_eq_replicate_iff]
  exact fun x member => sub_self_of_isFinite (finite x member)

theorem inner_replicate_zero (n : Nat) :
    inner (List.replicate n (Float32.ofBits 0)) (List.replicate n (Float32.ofBits 0)) =
      Float32.ofBits 0 := by
  have nothing : Float32.ofBits 0 + Float32.ofBits 0 * Float32.ofBits 0 = Float32.ofBits 0 := by
    decide
  rw [inner, List.zipWith_replicate']
  induction n with
  | zero => rfl
  | succ n ih => rw [List.replicate_succ, List.foldl_cons, nothing, ih]

/-- Zeros have no length to be divided by. -/
theorem isNaN_of_mem_normalize_zeros {n : Nat} :
    ∀ y ∈ normalize (List.replicate n (Float32.ofBits 0)), y.isNaN = true := by
  intro y member
  obtain ⟨x, zero, rfl⟩ := List.mem_map.1 member
  rw [List.eq_of_mem_replicate zero, magnitude, inner_replicate_zero]
  decide

end Embedding

end WordSpace
