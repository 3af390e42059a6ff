import WordSpace.Proofs.Decimal
import WordSpace.Proofs.Lexicon.Ranking

/-!
Searches that fail.

A search that asks for something of a lexicon that is not empty fails if some embedding does not
have the length of the query, whether its word is excluded or not, or else if the number that it
asks for has too many digits to be put on record; no other search fails
(`Lexicon.nearest_fails_iff`). The product with a matrix and the inner products word by word fail
alike (`Lexicon.mapM_rowProduct_eq_error_iff`, `Lexicon.mapM_dot_eq_error_iff`): neither stretches a
single number, so it makes no difference which of them a search goes by.
-/

namespace WordSpace

instance : Subsingleton LengthMismatch := ⟨fun .lengthMismatch .lengthMismatch => rfl⟩

theorem Embedding.dot_eq_error_iff {a b : Embedding} :
    dot a b = .error .lengthMismatch ↔ a.length ≠ b.length := by
  unfold dot
  split
  · simp
  · split
    case isTrue same => simp [same]
    case isFalse other => simp [other]

namespace Lexicon

variable {lexicon : Lexicon} {query : Embedding} {count : Int} {excluded : List String}

theorem rowProduct_eq_error_iff {row : Embedding} :
    rowProduct query row = .error .lengthMismatch ↔ query.length ≠ row.length := by
  unfold rowProduct
  split
  case isTrue same => simp [same]
  case isFalse other => simp [other]

/-! ## Lengths -/

/-- Some embedding, excluded or not, does not have the length of the query. -/
def Misfits (lexicon : Lexicon) (query : Embedding) : Prop :=
  ∃ entry ∈ lexicon.entries, entry.2.length ≠ query.length

/-- Whether a query misfits goes by its length and those of the embeddings. -/
theorem misfits_iff_lengths :
    lexicon.Misfits query ↔ ∃ n ∈ lexicon.entries.map (·.2.length), n ≠ query.length := by
  simp only [Misfits, List.mem_map, exists_exists_and_eq_and]

theorem misfits_normalize : lexicon.Misfits query.normalize ↔ lexicon.Misfits query := by
  rw [Misfits, Embedding.length_normalize, Misfits]

/-- The product with a matrix fails if and only if some row does not fit. -/
theorem mapM_rowProduct_eq_error_iff :
    (lexicon.entries.map Prod.snd).mapM (rowProduct query) = .error .lengthMismatch ↔
      lexicon.Misfits query := by
  simp only [mapM_eq_error_iff, List.mem_map, exists_exists_and_eq_and, rowProduct_eq_error_iff,
    Misfits, ne_comm]

/-- So do the inner products word by word. -/
theorem mapM_dot_eq_error_iff :
    (lexicon.entries.mapM fun entry => query.dot entry.2) = .error .lengthMismatch ↔
      lexicon.Misfits query := by
  simp only [mapM_eq_error_iff, Embedding.dot_eq_error_iff, Misfits, ne_comm]

/-! ## Searches -/

theorem misfits_iff : lexicon.Misfits query ↔
    ¬∀ entry ∈ lexicon.entries, entry.2.length = query.length := by
  simp [Misfits]

/-- A search is not idle if it asks for something and there is something to search. -/
theorem not_idle_iff :
    ¬(count ≤ 0 ∨ lexicon.isEmpty = true) ↔ 1 ≤ count ∧ lexicon.isEmpty = false := by
  rw [not_or, Bool.not_eq_true]
  exact and_congr_left' (by omega)

/-- A search that looks at the words fails if some embedding does not fit, or else if the number
that it asks for is too long. -/
theorem nearest_eq_error_iff {failure : SearchError} :
    lexicon.nearest query count excluded = .error failure ↔
      (1 ≤ count ∧ lexicon.isEmpty = false) ∧
        (failure = .lengthMismatch ∧ lexicon.Misfits query ∨
          failure = .tooManyDigits ∧ ¬lexicon.Misfits query ∧ 10 ^ Decimal.maxDigits ≤ count) := by
  have outcome := searched lexicon query count excluded
  unfold nearest
  generalize lexicon.search query count excluded = result at outcome
  cases outcome with
  | idle idle =>
    refine iff_of_false (fun failed => nomatch failed) ?_
    rintro ⟨busy, -⟩
    exact not_idle_iff.2 busy idle
  | misfit busy misfits =>
    rw [← misfits_iff] at misfits
    change Except.error _ = Except.error failure ↔ _
    rw [and_iff_right (not_idle_iff.1 busy), Except.error.injEq]
    simp [misfits, eq_comm]
  | long busy fits long =>
    have fitting : ¬lexicon.Misfits query := fun misfits => misfits_iff.1 misfits fits
    have asks := (not_idle_iff.1 busy).1
    rw [Decimal.isShort_iff_of_nonneg (by omega), Int.not_lt] at long
    change Except.error _ = Except.error failure ↔ _
    rw [and_iff_right (not_idle_iff.1 busy), Except.error.injEq]
    simp [fitting, long, eq_comm]
  | found busy fits short =>
    have fitting : ¬lexicon.Misfits query := fun misfits => misfits_iff.1 misfits fits
    have asks := (not_idle_iff.1 busy).1
    rw [Decimal.isShort_iff_of_nonneg (by omega)] at short
    refine iff_of_false (fun failed => nomatch failed) ?_
    rintro ⟨-, ⟨-, misfits⟩ | ⟨-, -, long⟩⟩
    · exact fitting misfits
    · omega

/-- A search fails for one of two reasons. It asks for something, the lexicon is not empty and some
embedding does not have the length of the query; or all of them have it, and the number of words
that is asked for has too many digits to be put on record. In all other cases it has a result. Both
ways to search fail on the same lexicons and queries. Neither the numbers nor what is excluded make
a difference. -/
theorem nearest_fails_iff (lexicon : Lexicon) (query : Embedding) (count : Int)
    (excluded : List String) :
    (lexicon.nearest query count excluded = .error .lengthMismatch ↔
      1 ≤ count ∧ lexicon.isEmpty = false ∧ lexicon.Misfits query) ∧
    (lexicon.nearest query count excluded = .error .tooManyDigits ↔
      10 ^ Decimal.maxDigits ≤ count ∧ lexicon.isEmpty = false ∧ ¬lexicon.Misfits query) ∧
    ((∃ found, lexicon.nearest query count excluded = .ok found) ↔
      ¬(1 ≤ count ∧ lexicon.isEmpty = false ∧
        (lexicon.Misfits query ∨ 10 ^ Decimal.maxDigits ≤ count))) ∧
    ((lexicon.entries.map Prod.snd).mapM (rowProduct query.normalize) = .error .lengthMismatch ↔
      lexicon.Misfits query) ∧
    ((lexicon.entries.mapM fun entry => query.normalize.dot entry.2) = .error .lengthMismatch ↔
      lexicon.Misfits query) ∧
    ∀ (lexicon' : Lexicon) (query' : Embedding) (excluded' : List String) (failure : SearchError),
      lexicon'.entries.map (·.2.length) = lexicon.entries.map (·.2.length) →
      query'.length = query.length →
      (lexicon'.nearest query' count excluded' = .error failure ↔
        lexicon.nearest query count excluded = .error failure) := by
  have least : (0 : Int) < 10 ^ Decimal.maxDigits := Int.pow_pos (by decide)
  refine ⟨?_, ?_, ?_, ?_, ?_, ?_⟩
  · rw [nearest_eq_error_iff]
    simp [and_assoc]
  · rw [nearest_eq_error_iff]
    constructor
    · rintro ⟨⟨-, filled⟩, ⟨other, -⟩ | ⟨-, fitting, long⟩⟩
      · cases other
      · exact ⟨long, filled, fitting⟩
    · rintro ⟨long, filled, fitting⟩
      exact ⟨⟨by omega, filled⟩, .inr ⟨rfl, fitting, long⟩⟩
  · rw [exists_eq_ok_iff]
    refine not_congr ⟨?_, ?_⟩
    · rintro ⟨failure, failed⟩
      obtain ⟨⟨asks, filled⟩, ⟨-, misfits⟩ | ⟨-, -, long⟩⟩ := nearest_eq_error_iff.1 failed
      · exact ⟨asks, filled, .inl misfits⟩
      · exact ⟨asks, filled, .inr long⟩
    · rintro ⟨asks, filled, reason⟩
      by_cases misfits : lexicon.Misfits query
      · exact ⟨_, nearest_eq_error_iff.2 ⟨⟨asks, filled⟩, .inl ⟨rfl, misfits⟩⟩⟩
      · exact ⟨_, nearest_eq_error_iff.2
          ⟨⟨asks, filled⟩, .inr ⟨rfl, misfits, reason.resolve_left misfits⟩⟩⟩
  · rw [mapM_rowProduct_eq_error_iff, misfits_normalize]
  · rw [mapM_dot_eq_error_iff, misfits_normalize]
  · intro lexicon' query' excluded' failure sameLengths sameLength
    have sameEmpty : lexicon'.isEmpty = lexicon.isEmpty := by
      simpa only [List.isEmpty_map, Catalog.isEmpty] using congrArg List.isEmpty sameLengths
    rw [nearest_eq_error_iff, nearest_eq_error_iff, misfits_iff_lengths, misfits_iff_lengths,
      sameLengths, sameLength, sameEmpty]

/-- The lengths alone do not tell whether a search fails: here the one embedding fits, and the least
number of too many digits is asked for. -/
theorem nearest_fails_though_fitting :
    let one : Embedding := [Float32.ofBits 0x3F800000]
    let lexicon : Lexicon := .ofList [("one", one)]
    let count : Int := 10 ^ Decimal.maxDigits
    ¬((∃ failure, lexicon.nearest one count [] = .error failure) ↔
      1 ≤ count ∧ lexicon.isEmpty = false ∧ lexicon.Misfits one) := by
  intro one lexicon count iff
  have positive : 0 < count := (Decimal.not_isShort_of_le (Int.le_refl count)).1
  have fitting : ¬lexicon.Misfits one := by
    rintro ⟨entry, member, other⟩
    obtain rfl := List.mem_singleton.1 member
    exact other rfl
  have fails : lexicon.nearest one count [] = .error .tooManyDigits :=
    nearest_eq_error_iff.2 ⟨⟨by omega, rfl⟩, .inr ⟨rfl, fitting, Int.le_refl count⟩⟩
  exact fitting (iff.1 ⟨_, fails⟩).2.2

/-- A single number is not stretched to the length of the query, even where its word is excluded. -/
example :
    nearest (.ofList [("one", [Float32.ofBits 0x3F800000])])
      [Float32.ofBits 0x3F800000, Float32.ofBits 0] 1 ["one"] = .error .lengthMismatch := by
  decide +kernel

end Lexicon

end WordSpace
