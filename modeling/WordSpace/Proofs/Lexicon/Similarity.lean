import WordSpace.Lexicon.Nearest
import WordSpace.Proofs.Outcomes

/-!
The similarities of a search.

A search goes by the matrix of the lexicon where there is one, and word by word otherwise. Both
ways give the sums of products of the query with the embeddings, and both give them only if all
embeddings have the length of the query (`Lexicon.similarities_eq_ok_iff`). The second way is never
taken to its end: embeddings that all have the length of the query would have made a matrix.
-/

namespace WordSpace

namespace Embedding

theorem length_eq_of_dot {a b : Embedding} {d : Float32} (ok : dot a b = .ok d) :
    a.length = b.length := by
  unfold dot at ok
  split at ok
  · rfl
  · split at ok
    · assumption
    · cases ok

end Embedding

namespace Lexicon

variable {lexicon : Lexicon} {query : Embedding} {similarities : List Float32}

theorem rowProduct_eq_ok_iff {row : Embedding} {s : Float32} :
    rowProduct query row = .ok s ↔ row.length = query.length ∧ s = query.inner row := by
  unfold rowProduct
  split
  · rename_i same
    simp [same, eq_comm]
  · rename_i other
    simp [eq_comm, other]

theorem mapM_rowProduct_eq_ok_iff {rows : List Embedding} :
    rows.mapM (rowProduct query) = .ok similarities ↔
      (∀ row ∈ rows, row.length = query.length) ∧ similarities = rows.map query.inner := by
  rw [mapM_eq_ok_iff_forall₂]
  induction rows generalizing similarities with
  | nil => simp
  | cons row rows ih =>
    rw [List.forall₂_cons_left_iff]
    constructor
    · rintro ⟨s, rest, head, tail, rfl⟩
      obtain ⟨same, rfl⟩ := rowProduct_eq_ok_iff.1 head
      obtain ⟨all, rfl⟩ := ih.1 tail
      exact ⟨List.forall_mem_cons.2 ⟨same, all⟩, rfl⟩
    · rintro ⟨all, rfl⟩
      obtain ⟨same, all⟩ := List.forall_mem_cons.1 all
      exact ⟨_, _, rowProduct_eq_ok_iff.2 ⟨same, rfl⟩, ih.2 ⟨all, rfl⟩, rfl⟩

theorem matrix?_of_length_eq {length : Nat} (nonempty : lexicon.entries ≠ [])
    (all : ∀ entry ∈ lexicon.entries, entry.2.length = length) :
    lexicon.matrix? = some (lexicon.entries.map Prod.snd) := by
  unfold matrix?
  cases entries : lexicon.entries with
  | nil => exact absurd entries nonempty
  | cons entry rest =>
    rw [entries] at all
    have first := all entry (by simp)
    have others : (rest.map Prod.snd).all (·.length == entry.2.length) = true := by
      rw [List.all_eq_true]
      intro v member
      obtain ⟨other, inRest, rfl⟩ := List.mem_map.1 member
      rw [first, all other (List.mem_cons_of_mem _ inRest), beq_self_eq_true]
    rw [List.map_cons]
    simp only [others, if_true]

theorem matrix?_eq_some {rows : List Embedding} (matrix : lexicon.matrix? = some rows) :
    rows = lexicon.entries.map Prod.snd := by
  unfold matrix? at matrix
  split at matrix
  · cases matrix
  · rename_i first rest entries
    split at matrix
    · rw [entries, Option.some.inj matrix]
    · cases matrix

/-- All words have their similarities if and only if all embeddings have the length of the query. -/
theorem similarities_eq_ok_iff :
    lexicon.similarities query = .ok similarities ↔
      (∀ entry ∈ lexicon.entries, entry.2.length = query.length) ∧
        similarities = lexicon.entries.map fun entry => query.inner entry.2 := by
  have byMatrix : (lexicon.entries.map Prod.snd).mapM (rowProduct query) = .ok similarities ↔
      (∀ entry ∈ lexicon.entries, entry.2.length = query.length) ∧
        similarities = lexicon.entries.map fun entry => query.inner entry.2 := by
    rw [mapM_rowProduct_eq_ok_iff, List.forall_mem_map, List.map_map]
    rfl
  cases matrix : lexicon.matrix? with
  | some rows =>
    rw [Lexicon.similarities, matrix, matrix?_eq_some matrix]
    exact byMatrix
  | none =>
    rw [Lexicon.similarities, matrix]
    by_cases empty : lexicon.entries = []
    · rw [empty]
      simp [pure, Except.pure, eq_comm]
    · -- Without a matrix the embeddings differ in length, so one of them does not fit the query.
      have uneven : ¬∀ entry ∈ lexicon.entries, entry.2.length = query.length := fun all => by
        rw [matrix?_of_length_eq empty all] at matrix
        cases matrix
      refine iff_of_false (fun ok => uneven fun entry member => ?_) fun all => uneven all.1
      obtain ⟨s, fits⟩ := exists_of_forall₂ (mapM_eq_ok_iff_forall₂.1 ok) member
      exact (Embedding.length_eq_of_dot fits).symm

end Lexicon

end WordSpace
