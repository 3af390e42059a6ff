import WordSpace.Journal
import WordSpace.Lexicon

/-!
Nearest words: the words of a lexicon ranked by their similarity to an embedding.

The similarity of a word is the sum of the products of its embedding with the normalized query,
number by number; for normalized embeddings it is the cosine of the angle between them. The
embeddings of one length make a matrix, whose product with the query gives all similarities at once.
Words come by descending similarity, words of equal similarity in the order of the lexicon, and
words whose similarity is NaN behind all others.

A search that looks at the words puts its figures on record. It fails if a length does not fit, and
if the number of words that it asks for is too long to be written into the record.
-/

namespace WordSpace.Lexicon

/-- A word and its similarity to a query. -/
structure Match where
  word : String
  similarity : Float32
  deriving DecidableEq

/-- The place of a number among all numbers, in steps from one to the next; both zeros have place
zero, and NaN has none. -/
def rank? (x : Float32) : Option Int :=
  if x.isNaN then none
  else
    let size : Int := (x.toBits &&& 0x7FFFFFFF).toNat
    some (if x.toBits &&& 0x80000000 = 0 then size else -size)

/-- Whether a similarity may stand before another one: it is at least as large, or the other one is
NaN. -/
def mayPrecede (x y : Float32) : Bool :=
  match rank? x, rank? y with
  | _, none => true
  | none, some _ => false
  | some a, some b => b ≤ a

theorem mayPrecede_total (x y : Float32) : mayPrecede x y || mayPrecede y x := by
  unfold mayPrecede
  cases rank? x <;> cases rank? y <;> simp
  omega

theorem mayPrecede_trans {x y z : Float32} (first : mayPrecede x y) (second : mayPrecede y z) :
    mayPrecede x z := by
  revert first second
  unfold mayPrecede
  cases rank? x <;> cases rank? y <;> cases rank? z <;> simp
  omega

/-! ## Similarities -/

/-- The embeddings of all words as the rows of a matrix, if there are any and they have one
length. -/
def matrix? (lexicon : Lexicon) : Option (List Embedding) :=
  match lexicon.entries.map Prod.snd with
  | [] => none
  | first :: rest =>
    if rest.all (·.length == first.length) then some (first :: rest) else none

/-- The product of a row of a matrix with a query. It is added up from zero also where there is a
single product, so it may differ from the inner product in the sign of a zero. -/
def rowProduct (query row : Embedding) : Except LengthMismatch Float32 :=
  if query.length = row.length then .ok (query.inner row) else .error .lengthMismatch

/-- The similarities of all words to a normalized query, in the order of the lexicon: the product of
their matrix with the query, or else the inner product of each with the query. -/
def similarities (lexicon : Lexicon) (query : Embedding) : Except LengthMismatch (List Float32) :=
  match lexicon.matrix? with
  | some rows => rows.mapM (rowProduct query)
  | none => lexicon.entries.mapM fun entry => query.dot entry.2

/-! ## Ranking -/

/-- The candidates of a search: the words that are not excluded. -/
def candidates (excluded : List String) (found : List Match) : List Match :=
  found.filter (!excluded.contains ·.word)

/-- Matches in the order of their similarities. -/
def ranked (found : List Match) : List Match :=
  found.mergeSort fun a b => mayPrecede a.similarity b.similarity

/-! ## Searches -/

/-- Why a search has no result. -/
inductive SearchError where
  | lengthMismatch
  | tooManyDigits
  deriving DecidableEq, Repr

/-- Lengths that do not fit, as a failed search. -/
def SearchError.ofMismatch : LengthMismatch → SearchError
  | .lengthMismatch => .lengthMismatch

/-- A number of words that is too long to be written, as a failed search. -/
def SearchError.ofDigits : Decimal.TooManyDigits → SearchError
  | .tooManyDigits => .tooManyDigits

/-- What comes of a search: what it found, and what it puts on record. -/
structure Findings where
  found : List Match
  records : List Record

/-- What is found by the similarities of all words, with its record: the `count` best of the words
that are not excluded. -/
def findings (lexicon : Lexicon) (similarities : List Float32) (count : Int)
    (excluded : List String) : Except Decimal.TooManyDigits Findings :=
  let left := candidates excluded (lexicon.words.zipWith Match.mk similarities)
  let found := (ranked left).take count.toNat
  let record (asked : Decimal.Figure) : Record :=
    .search asked (.size (lexicon.size - left.length)) (.size found.length) (.size left.length)
  (fun asked => ⟨found, [record asked]⟩) <$> Decimal.Figure.ofInt count

/-- Searches for the `count` words nearest to a query, without the excluded ones. If there is
something to search, all words, excluded or not, need the length of the query. -/
def search (lexicon : Lexicon) (query : Embedding) (count : Int) (excluded : List String) :
    Except SearchError Findings :=
  if count ≤ 0 ∨ lexicon.isEmpty then .ok ⟨[], []⟩
  else do
    let similarities ← (lexicon.similarities query.normalize).mapError .ofMismatch
    (lexicon.findings similarities count excluded).mapError .ofDigits

/-- The `count` words nearest to a query, without the excluded ones. -/
def nearest (lexicon : Lexicon) (query : Embedding) (count : Int) (excluded : List String) :
    Except SearchError (List Match) :=
  Findings.found <$> lexicon.search query count excluded

end WordSpace.Lexicon
