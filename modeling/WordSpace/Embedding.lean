import WordSpace.Precision

/-!
Embeddings: vectors of single-precision numbers, their arithmetic and their lengths.

Sums and differences are taken number by number; an embedding of one number is stretched to the
length of the other, and other lengths have to agree. Inner products need equal lengths: that of
two single numbers is their product (`dot_singleton`), all others add up the products from zero
(`dot_of_length_ne_one`). To normalize is to divide by the Euclidean length, so an embedding of
zeros becomes one of NaNs.
-/

namespace WordSpace

/-- The vector of a word or of an expression. -/
abbrev Embedding := List Float32

/-- The lengths of two embeddings do not fit. -/
inductive LengthMismatch where
  | lengthMismatch
  deriving DecidableEq, Repr

namespace Embedding

/-- Pairs the numbers of two embeddings, one number standing against all of the other. -/
def align : Embedding → Embedding → Except LengthMismatch (List (Float32 × Float32))
  | [x], b => .ok (b.map fun y => (x, y))
  | a, [y] => .ok (a.map fun x => (x, y))
  | a, b => if a.length = b.length then .ok (a.zip b) else .error .lengthMismatch

/-- The sum of two embeddings. -/
def add (a b : Embedding) : Except LengthMismatch Embedding :=
  (·.map fun (x, y) => x + y) <$> align a b

/-- The difference of two embeddings. -/
def subtract (a b : Embedding) : Except LengthMismatch Embedding :=
  (·.map fun (x, y) => x - y) <$> align a b

/-- The sum of the products of numbers in the same places, added up from positive zero. It is never
negative zero where all products are zeros. -/
def inner (a b : Embedding) : Float32 :=
  (List.zipWith (· * ·) a b).foldl (· + ·) (Float32.ofBits 0)

/-- The inner product of two embeddings of one length. A single product is answered as it is, with
the sign of a zero, since there is nothing to add it to. -/
def dot : Embedding → Embedding → Except LengthMismatch Float32
  | [x], [y] => .ok (x * y)
  | a, b => if a.length = b.length then .ok (inner a b) else .error .lengthMismatch

theorem dot_singleton (x y : Float32) : dot [x] [y] = .ok (x * y) := rfl

theorem dot_of_length_ne_one {a b : Embedding} (several : a.length ≠ 1) :
    dot a b = if a.length = b.length then .ok (inner a b) else .error .lengthMismatch := by
  unfold dot
  split
  · simp at several
  · rfl

/-- The Euclidean length of an embedding: the square root, in double precision, of its inner
product with itself. -/
def magnitude (v : Embedding) : Float := (Precision.double (inner v v)).sqrt

/-- Divides an embedding by its Euclidean length. -/
def normalize (v : Embedding) : Embedding :=
  let size := Precision.single (magnitude v)
  v.map (· / size)

@[simp] theorem length_normalize (v : Embedding) : v.normalize.length = v.length := by
  simp [normalize]

end Embedding

end WordSpace
