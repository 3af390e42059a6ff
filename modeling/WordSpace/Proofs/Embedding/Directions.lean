import WordSpace.Proofs.Embedding.Squares
import WordSpace.Proofs.Lexicon.Loading
import WordSpace.Proofs.Precision.Order

/-!
Embeddings with a direction.

An embedding of finite numbers that are not all zero has a direction (`Embedding.HasDirection`).
When it is normalized, it keeps one if the sum of its squares is neither zero nor infinite. A sum
that is zero leaves no finite number, and one that is infinite leaves nothing but zeros
(`Embedding.Normalizes`). The same holds of what is loaded from the last line of a word
(`Lexicon.load_normalizes`). So not every embedding with a direction keeps it
(`Embedding.not_forall_hasDirection_normalize`).
-/

namespace WordSpace

namespace Embedding

open Float.Model (Format UnpackedFloat totalExponent)
open Float.Model.UnpackedFloat (Sign pack unpack)
open Precision

/-! ## Directions -/

/-- All numbers are finite, and one is not zero. -/
def HasDirection (v : Embedding) : Prop :=
  (∀ x ∈ v, x.isFinite = true) ∧ ∃ x ∈ v, (x == Float32.ofBits 0) = false

instance (v : Embedding) : Decidable v.HasDirection :=
  inferInstanceAs
    (Decidable ((∀ x ∈ v, x.isFinite = true) ∧ ∃ x ∈ v, (x == Float32.ofBits 0) = false))

/-- What an embedding with a direction becomes when it is normalized. -/
structure Normalizes (v normalized : Embedding) : Prop where
  hasDirection_iff : normalized.HasDirection ↔
    inner v v ≠ Float32.ofBits 0 ∧ (inner v v).isFinite = true
  of_zero : inner v v = Float32.ofBits 0 → ∀ y ∈ normalized, y.isFinite = false
  of_infinite : (inner v v).isFinite = false →
    ∀ y ∈ normalized, (y == Float32.ofBits 0) = true

theorem eq_zero_iff {x : Float32} :
    x = Float32.ofBits 0 ↔ x.toModel.unpack = .zero .positive := by
  constructor
  · rintro rfl
    exact unpack_zero
  · intro zero
    have number : x.isNaN = false := by
      change x.toModel.unpack.isNaN = false
      rw [zero]
      rfl
    rw [← pack_unpack number, zero]
    decide

theorem beq_zero_iff {x : Float32} :
    (x == Float32.ofBits 0) = true ↔ ∃ sign, x.toModel.unpack = .zero sign := by
  have model : (x == Float32.ofBits 0) =
      (x.toModel.unpack.compare (Float32.ofBits 0).toModel.unpack == some .eq) := rfl
  rw [model, unpack_zero]
  cases x.toModel.unpack with
  | zero sign => simp [UnpackedFloat.compare]
  | notANumber => simp [UnpackedFloat.compare]
  | infinity sign => cases sign <;> simp [UnpackedFloat.compare]
  | finite sign m e positive => cases sign <;> simp [UnpackedFloat.compare]

/-! ## Lengths -/

/-- The length that an embedding is divided by. -/
def size (v : Embedding) : Float32 := single (magnitude v)

/-- The length is the root of the sum of squares, taken in double precision. -/
theorem unpack_size (v : Embedding) :
    v.size.toModel.unpack = unpack .binary32 (pack .binary32 (Precision.round .binary32
      (unpack .binary64 (pack .binary64 (UnpackedFloat.sqrt .binary64
        (unpack .binary64 (pack .binary64
          (Precision.round .binary64 (inner v v).toModel.unpack)))))))) := rfl

theorem normalize_eq (v : Embedding) : v.normalize = v.map (· / v.size) := rfl

variable {v : Embedding}

/-- A sum of squares other than zero and infinity has a root of half as many places. -/
theorem exists_size {m : Nat} {e : Int} {positive : 0 < m}
    (sum : (inner v v).toModel.unpack = .finite .positive m e positive) :
    ∃ m' e' positive', v.size.toModel.unpack = .finite .positive m' e' positive' ∧
      (totalExponent m e + 1) / 2 ≤ totalExponent m' e' ∧ totalExponent m' e' ≤ 67 := by
  have lowest : Format.binary32.minExponent = -149 := by decide
  have lowest' : Format.binary64.minExponent = -1074 := by decide
  have highest : maxExponent .binary32 = 104 := by decide
  have highest' : maxExponent .binary64 = 971 := by decide
  obtain ⟨canonical, most⟩ := canonical_unpack sum
  have least := canonical.least_lt
  have above : totalExponent m e ≤ 128 := by
    have fits := canonical.fits
    have bits : Format.binary32.mantissaBits = 24 := rfl
    rw [totalExponent]
    omega
  -- The sum is carried to double precision, its root is taken, and that is carried back.
  have doubled : Stored .binary64 .positive (totalExponent m e) _ :=
    (rounded_round .positive e positive).stored
  obtain ⟨m₁, e₁, positive₁, carried, -, least₁, most₁⟩ :=
    doubled.exists_finite (by omega) (by omega)
  have rooted := (@rounded_sqrt .binary64 m₁ e₁ positive₁).stored
  obtain ⟨m₂, e₂, positive₂, root, -, least₂, most₂⟩ :=
    rooted.exists_finite (by omega) (by omega)
  have rounded : Stored .binary32 .positive (totalExponent m₂ e₂) _ :=
    (rounded_round .positive e₂ positive₂).stored
  obtain ⟨m₃, e₃, positive₃, back, -, least₃, most₃⟩ :=
    rounded.exists_finite (by omega) (by omega)
  refine ⟨m₃, e₃, positive₃, ?_, by omega, by omega⟩
  rw [unpack_size, sum, Precision.round, carried, root, Precision.round, back]

theorem size_of_zero (sum : (inner v v).toModel.unpack = .zero .positive) :
    v.size.toModel.unpack = .zero .positive := by
  rw [unpack_size, sum]
  rfl

theorem size_of_infinity (sum : (inner v v).toModel.unpack = .infinity .positive) :
    v.size.toModel.unpack = .infinity .positive := by
  rw [unpack_size, sum]
  rfl

/-! ## Quotients -/

theorem unpack_div (x y : Float32) :
    (x / y).toModel.unpack = unpack .binary32 (pack .binary32
      (UnpackedFloat.div .binary32 x.toModel.unpack y.toModel.unpack)) := rfl

/-- Nothing finite comes of a division by zero. -/
theorem isFinite_div_of_zero {x y : Float32} (finite : x.isFinite = true)
    (zero : y.toModel.unpack = .zero .positive) : (x / y).isFinite = false := by
  change (x / y).toModel.unpack.isFinite = false
  rw [unpack_div, zero]
  obtain ⟨sign, nothing⟩ | ⟨sign, m, e, positive, number⟩ := unpack_of_isFinite finite
  · have nan : (unpack .binary32 (pack .binary32 .notANumber)).isFinite = false := by decide
    rw [nothing, UnpackedFloat.div, nan]
  · rw [number, UnpackedFloat.div, unpack_pack_infinity]
    rfl

/-- Nothing but zero comes of a division by infinity. -/
theorem beq_zero_div_of_infinity {x y : Float32} (finite : x.isFinite = true)
    (infinite : y.toModel.unpack = .infinity .positive) : (x / y == Float32.ofBits 0) = true := by
  rw [beq_zero_iff, unpack_div, infinite]
  obtain ⟨sign, nothing⟩ | ⟨sign, m, e, positive, number⟩ := unpack_of_isFinite finite
  · rw [nothing, UnpackedFloat.div, unpack_pack_zero]
    exact ⟨_, rfl⟩
  · rw [number, UnpackedFloat.div, unpack_pack_zero]
    exact ⟨_, rfl⟩

/-- A number that does not have more places than what it is divided by gives a finite quotient, and
it gives one other than zero if it does not have far less places. -/
theorem div_of_places {x y : Float32} {sign : Sign} {m n : Nat} {e f : Int} {positive : 0 < m}
    {positive' : 0 < n} (dividend : x.toModel.unpack = .finite sign m e positive)
    (divisor : y.toModel.unpack = .finite .positive n f positive')
    (most : totalExponent m e ≤ totalExponent n f) :
    (x / y).isFinite = true ∧ (-149 < totalExponent m e - totalExponent n f →
      (x / y == Float32.ofBits 0) = false) := by
  have lowest : Format.binary32.minExponent = -149 := by decide
  have highest : maxExponent .binary32 = 104 := by decide
  obtain ⟨place, above, below, rounded⟩ :=
    @rounded_div .binary32 sign .positive m n e f positive positive'
  have stored := rounded.stored
  rw [← dividend, ← divisor, ← unpack_div] at stored
  have finite : (x / y).isFinite = (x / y).toModel.unpack.isFinite := rfl
  rw [finite, Bool.eq_false_iff, ne_eq, beq_zero_iff]
  generalize (x / y).toModel.unpack = quotient at stored
  cases stored with
  | zero small => exact ⟨rfl, by omega⟩
  | infinity large => omega
  | finite canonical kept next => exact ⟨rfl, fun _ ⟨_, zero⟩ => nomatch zero⟩

/-! ## Normalizing -/

/-- A sum of squares other than zero and infinity is a positive number. -/
theorem exists_inner_self (finite : ∀ x ∈ v, x.isFinite = true)
    (nonzero : inner v v ≠ Float32.ofBits 0) (bounded : (inner v v).isFinite = true) :
    ∃ m e positive, (inner v v).toModel.unpack = .finite .positive m e positive := by
  have nonnegative := nonnegative_inner_self finite
  rw [ne_eq, eq_zero_iff] at nonzero
  replace bounded : (inner v v).toModel.unpack.isFinite = true := bounded
  generalize (inner v v).toModel.unpack = sum at *
  cases nonnegative with
  | zero => exact absurd rfl nonzero
  | positive reaches =>
    cases reaches with
    | infinity => cases bounded
    | finite => exact ⟨_, _, _, rfl⟩

/-- A sum of squares that is not finite is positive infinity. -/
theorem inner_self_of_infinite (finite : ∀ x ∈ v, x.isFinite = true)
    (unbounded : (inner v v).isFinite = false) :
    (inner v v).toModel.unpack = .infinity .positive := by
  have nonnegative := nonnegative_inner_self finite
  replace unbounded : (inner v v).toModel.unpack.isFinite = false := unbounded
  generalize (inner v v).toModel.unpack = sum at *
  cases nonnegative with
  | zero => cases unbounded
  | positive reaches =>
    cases reaches with
    | infinity => rfl
    | finite => cases unbounded

/-- No number has more places than the root of the sum of squares, or its square would be larger
than the sum. -/
theorem place_le_root (finite : ∀ x ∈ v, x.isFinite = true) {m k : Nat} {e g : Int}
    {positive : 0 < m} {some : 0 < k} {sign : Sign}
    (sum : (inner v v).toModel.unpack = .finite .positive m e positive) {x : Float32}
    (member : x ∈ v) (number : x.toModel.unpack = .finite sign k g some) :
    totalExponent k g ≤ (totalExponent m e + 1) / 2 := by
  have lowest : Format.binary32.minExponent = -149 := by decide
  have above := (canonical_unpack sum).1.least_lt
  rcases le_or_gt (totalExponent k g) (-74) with small | large
  · omega
  · have reaches := reaches_inner_self finite member number large
    rw [sum] at reaches
    cases reaches with
    | finite canonical reaches => omega

/-- A direction is kept if the sum of squares is neither zero nor infinite. -/
theorem hasDirection_normalize (finite : ∀ x ∈ v, x.isFinite = true)
    (nonzero : inner v v ≠ Float32.ofBits 0) (bounded : (inner v v).isFinite = true) :
    v.normalize.HasDirection := by
  obtain ⟨m, e, positive, sum⟩ := exists_inner_self finite nonzero bounded
  obtain ⟨n, f, positive', size, least, most⟩ := exists_size sum
  have within {x : Float32} (member : x ∈ v) {sign : Sign} {k : Nat} {g : Int} {some : 0 < k}
      (number : x.toModel.unpack = .finite sign k g some) :
      totalExponent k g ≤ totalExponent n f :=
    (place_le_root finite sum member number).trans least
  rw [normalize_eq]
  constructor
  · intro y member
    obtain ⟨x, inside, rfl⟩ := List.mem_map.1 member
    obtain ⟨sign, nothing⟩ | ⟨sign, k, g, some, number⟩ := unpack_of_isFinite (finite x inside)
    · change (x / v.size).toModel.unpack.isFinite = true
      rw [unpack_div, nothing, size, UnpackedFloat.div, unpack_pack_zero]
      rfl
    · exact (div_of_places number size (within inside number)).1
  · rw [ne_eq, eq_zero_iff] at nonzero
    obtain ⟨x, inside, sign, k, g, some, number, large⟩ :=
      exists_place_of_inner_self finite nonzero
    exact ⟨x / v.size, List.mem_map_of_mem inside,
      (div_of_places number size (within inside number)).2 (by omega)⟩

/-- A direction is lost in one of two ways, or kept. -/
theorem normalizes_normalize (direction : v.HasDirection) : Normalizes v v.normalize := by
  obtain ⟨finite, x, inside, -⟩ := direction
  have below (zero : inner v v = Float32.ofBits 0) : ∀ y ∈ v.normalize, y.isFinite = false := by
    intro y member
    obtain ⟨x, inside, rfl⟩ := List.mem_map.1 member
    exact isFinite_div_of_zero (finite x inside) (size_of_zero (eq_zero_iff.1 zero))
  have above (unbounded : (inner v v).isFinite = false) :
      ∀ y ∈ v.normalize, (y == Float32.ofBits 0) = true := by
    intro y member
    obtain ⟨x, inside, rfl⟩ := List.mem_map.1 member
    exact beq_zero_div_of_infinity (finite x inside)
      (size_of_infinity (inner_self_of_infinite finite unbounded))
  refine ⟨⟨fun kept => ⟨fun zero => ?_, ?_⟩, ?_⟩, below, above⟩
  · have member : x / v.size ∈ v.normalize := List.mem_map_of_mem inside
    exact Bool.false_ne_true ((below zero _ member).symm.trans (kept.1 _ member))
  · by_contra unbounded
    obtain ⟨y, member, nonzero⟩ := kept.2
    have zero := above (Bool.eq_false_of_not_eq_true unbounded) y member
    exact Bool.false_ne_true (nonzero.symm.trans zero)
  · rintro ⟨nonzero, bounded⟩
    exact hasDirection_normalize finite nonzero bounded

/-- A number whose square is too small for single precision has a direction, but is divided by
zero. -/
theorem not_forall_hasDirection_normalize :
    ¬∀ v : Embedding, v.HasDirection → v.normalize.HasDirection := by
  intro kept
  have lost : ¬(normalize [Float32.ofBits 0x0DA24260]).HasDirection := by decide +kernel
  exact lost (kept _ (by decide +kernel))

end Embedding

/-! ## Loaded lines -/

namespace Lexicon

/-- An embedding with a direction keeps it when it is normalized, unless the sum of its squares is
zero or infinite, and so does one that is loaded from the last line of a word. -/
theorem load_normalizes {v : Embedding} (direction : v.HasDirection) :
    v.Normalizes v.normalize ∧
      ∀ (limit : Option Int) (lines before behind : List (List Char)) (line : List Char)
        (word : String) (fields : List (List Char)),
        loadable limit lines = before ++ line :: behind →
        (∀ later ∈ behind, firstWord later ≠ word) → IsRow line word.toList fields →
        numbers fields = v →
          ∃ stored, (load limit lines).get? word = some stored ∧ v.Normalizes stored := by
  have kept := Embedding.normalizes_normalize direction
  refine ⟨kept, ?_⟩
  rintro limit lines before behind line word fields loaded last row rfl
  exact ⟨_, get?_load_of_last_line loaded last row, kept⟩

/-- One number is too small to count, but the other is not. -/
theorem load_normalizes_small :
    let v : Embedding := [Float32.ofBits 0x0DA24260, Float32.ofBits 0x40800000]
    let lines := ["cat 2 1".toList, "cat 1e-30 4".toList, "dog 1 1".toList]
    v.HasDirection ∧ v.Normalizes v.normalize ∧
      ∃ stored, (load (some 2) lines).get? "cat" = some stored ∧ v.Normalizes stored := by
  intro v lines
  have direction : v.HasDirection := by decide +kernel
  obtain ⟨kept, loaded⟩ := load_normalizes direction
  refine ⟨direction, kept, loaded (some 2) lines ["cat 2 1".toList] [] "cat 1e-30 4".toList "cat"
    ["1e-30".toList, "4".toList] rfl (List.forall_mem_nil _) ⟨rfl, by decide, by decide⟩ ?_⟩
  decide +kernel

end Lexicon

end WordSpace
