import WordSpace.Proofs.Lexicon.Loading
import WordSpace.Proofs.Lexicon.Ranking
import WordSpace.Proofs.Precision.NaN

/-!
Lines with a malformed field.

A field that is not blank and stands for no number is malformed (`Lexicon.Malformed`). One such
field makes every number in the embedding of its line NaN, and with them the similarity of the word
to any query, so that a search ranks the word behind all those that have a similarity
(`Lexicon.IsVoid`). The line does no harm beyond that: other words have the embeddings that they
have with any other fields in its place (`Lexicon.load_of_malformed`).
-/

namespace WordSpace.Lexicon

open Precision

/-! ## Fields -/

/-- A field that is not blank and that is no numeral, or the numeral of NaN. -/
def Malformed (field : List Char) : Prop :=
  (∃ c ∈ field, Text.isBlank c = false) ∧
    ∀ x, Decimal.numeral? (String.ofList field) = some x → x.isNaN = true

theorem isNaN_component_of_malformed {field : List Char} (malformed : Malformed field) :
    (component (String.ofList field)).isNaN = true := by
  obtain ⟨⟨c, member, solid⟩, noNumber⟩ := malformed
  have filled : (Text.strip Text.isBlank field).isEmpty = false := by
    rw [List.isEmpty_eq_false_iff]
    intro empty
    obtain ⟨before, behind, whole, blanksBefore, blanksBehind⟩ :=
      Text.exists_strip Text.isBlank field
    rw [empty, List.nil_append] at whole
    rw [whole] at member
    rcases List.mem_append.1 member with member | member
    · rw [blanksBefore c member] at solid
      cases solid
    · rw [blanksBehind c member] at solid
      cases solid
  rw [component, String.toList_ofList, filled]
  cases number : Decimal.numeral? (String.ofList field) with
  | none => decide
  | some x => exact noNumber x number

/-- A malformed field makes NaN of all numbers in the embedding of its line. -/
theorem isNaN_of_mem_normalize_numbers {fields : List (List Char)} {field : List Char}
    (member : field ∈ fields) (malformed : Malformed field) :
    ∀ x ∈ (numbers fields).normalize, x.isNaN = true :=
  Embedding.isNaN_of_mem_normalize
    ⟨_, List.mem_map_of_mem member, isNaN_single (isNaN_component_of_malformed malformed)⟩

/-! ## Searches -/

variable {lexicon : Lexicon} {word : String} {query : Embedding} {excluded : List String}

/-- A word stands for no point of the space: its embedding has numbers, all of which are NaN, its
similarity to any query is NaN, and where a search finds it, the words behind it have similarities
that are NaN as well, while all words that have a similarity, and are not excluded, stand before
it. -/
structure IsVoid (lexicon : Lexicon) (word : String) : Prop where
  embedding : ∃ v, lexicon.get? word = some v ∧ v ≠ [] ∧ ∀ x ∈ v, x.isNaN = true
  similarity : ∀ query v s, lexicon.get? word = some v → IsSimilarity query v s → s.isNaN = true
  ranked_last : ∀ query count excluded front m behind,
    lexicon.nearest query count excluded = .ok (front ++ m :: behind) → m.word = word →
      m.similarity.isNaN = true ∧ (∀ later ∈ behind, later.similarity.isNaN = true) ∧
        ∀ other v s, lexicon.get? other = some v → other ∉ excluded → IsSimilarity query v s →
          s.isNaN = false → other ∈ front.map Match.word

/-- Behind a similarity that is NaN there are only others that are. -/
theorem Precedes.isNaN {a b : Match} (order : Precedes lexicon a b)
    (nan : a.similarity.isNaN = true) : b.similarity.isNaN = true := by
  rw [← rank?_eq_none_iff] at nan ⊢
  rcases order with larger | ⟨tied, -⟩
  · rw [exceeds_iff, mayPrecede, nan] at larger
    cases other : rank? b.similarity with
    | none => rfl
    | some place =>
      rw [other] at larger
      cases larger
  · rw [← tied_iff.1 tied, nan]

/-- A word whose embedding is nothing but NaN stands for no point of the space. -/
theorem isVoid_of_embedding {v : Embedding} (found : lexicon.get? word = some v)
    (nonempty : v ≠ []) (nan : ∀ x ∈ v, x.isNaN = true) : IsVoid lexicon word := by
  have similarity (query : Embedding) (w : Embedding) (s : Float32)
      (value : lexicon.get? word = some w) (similar : IsSimilarity query w s) :
      s.isNaN = true := by
    rw [found] at value
    cases value
    obtain ⟨rfl, d, dot, -⟩ := similar
    exact Embedding.isNaN_inner_of_forall (Embedding.length_eq_of_dot dot) nonempty (.inr nan)
  constructor
  case embedding => exact ⟨v, found, nonempty, nan⟩
  case similarity => exact similarity
  case ranked_last =>
    intro query count excluded front m behind ok same
    obtain ⟨rest, whole⟩ := exists_ranking_eq_append ok
    have order : (ranking lexicon query.normalize excluded).Pairwise (Precedes lexicon) :=
      pairwise_ranking
    rw [whole, List.append_assoc, List.cons_append] at order
    have void : m.similarity.isNaN = true := by
      obtain ⟨w, value, similar⟩ := exists_isSimilarity_of_mem_nearest ok (m := m) (by simp)
      exact similarity query w _ (same ▸ value) similar
    have later : ∀ n ∈ behind ++ rest, n.similarity.isNaN = true := fun n member =>
      (List.rel_of_pairwise_cons (List.pairwise_append.1 order).2.1 member).isNaN void
    refine ⟨void, fun n member => later n (List.mem_append_left rest member), ?_⟩
    intro other w s value kept similar number
    -- The match of the other word stands in the ranking, but neither behind `m` nor in its place.
    have ranked : ⟨other, s⟩ ∈ ranking lexicon query.normalize excluded :=
      mem_ranking_iff.2 ⟨kept, w, value, similar.1⟩
    rw [whole, List.append_assoc, List.cons_append] at ranked
    rcases List.mem_append.1 ranked with before | ranked
    · exact List.mem_map_of_mem before
    rcases List.mem_cons.1 ranked with rfl | ranked
    · rw [number] at void
      cases void
    · have nan := later _ ranked
      rw [number] at nan
      cases nan

/-! ## Lines -/

/-- A word is retained from a line: of the lines that count, this one is the last that begins with
the word. -/
structure Retains (limit : Option Int) (lines : List (List Char)) (word : String)
    (before : List (List Char)) (line : List Char) (behind : List (List Char)) : Prop where
  loadable_eq : loadable limit lines = before ++ line :: behind
  firstWord_eq : firstWord line = word
  last : ∀ later ∈ behind, firstWord later ≠ word

variable {limit : Option Int} {lines before behind : List (List Char)} {line : List Char}

theorem Retains.get?_eq (retains : Retains limit lines word before line behind) :
    (load limit lines).get? word = some (entry line).2 := by
  rw [load, retains.loadable_eq, List.map_append, List.map_cons, Catalog.get?_ofList_eq_some_iff]
  refine ⟨before.map entry, behind.map entry, ?_, ?_⟩
  · rw [← retains.firstWord_eq, ← fst_entry]
  · intro pair member
    obtain ⟨later, isLater, rfl⟩ := List.mem_map.1 member
    rw [fst_entry]
    exact (retains.last later isLater).symm

theorem Retains.words_eq (retains : Retains limit lines word before line behind) :
    (load limit lines).words =
      (before.map firstWord ++ word :: behind.map firstWord).eraseDups := by
  rw [load, words_ofList_entries, retains.loadable_eq, List.map_append, List.map_cons,
    retains.firstWord_eq]

/-- The other words are loaded as they are without the line. -/
theorem Retains.get?_of_ne (retains : Retains limit lines word before line behind) {other : String}
    (apart : other ≠ word) :
    (load limit lines).get? other =
      Catalog.get? (.ofList (before.map entry ++ behind.map entry)) other := by
  have own : entry line = (word, (entry line).2) := by
    rw [← retains.firstWord_eq, ← fst_entry]
  rw [load, retains.loadable_eq, List.map_append, List.map_cons, own,
    Catalog.get?_ofList_append_cons apart]

/-- A word whose line has a malformed field stands for no point of the space, and whatever other
fields its line has, the lexicon has the same words, and the others have the same embeddings. -/
theorem load_of_malformed {fields : List (List Char)}
    (retains : Retains limit lines word before line behind) (row : IsRow line word.toList fields)
    (malformed : ∃ field ∈ fields, Malformed field) :
    IsVoid (load limit lines) word ∧
      ∀ lines' line', Retains limit lines' word before line' behind →
        (load limit lines').words = (load limit lines).words ∧
          ∀ other ≠ word, (load limit lines').get? other = (load limit lines).get? other := by
  constructor
  · obtain ⟨field, member, malformed⟩ := malformed
    have value := retains.get?_eq
    rw [row.entry_eq] at value
    refine isVoid_of_embedding value ?_ (isNaN_of_mem_normalize_numbers member malformed)
    refine List.ne_nil_of_length_pos ?_
    rw [Embedding.length_normalize, numbers, List.length_map]
    exact List.length_pos_of_mem member
  · intro lines' line' retains'
    refine ⟨?_, fun other apart => ?_⟩
    · rw [retains.words_eq, retains'.words_eq]
    · rw [retains.get?_of_ne apart, retains'.get?_of_ne apart]

/-- The second line of a word is malformed, and the last line is beyond the limit. -/
theorem load_of_malformed_again :
    let lines := ["void 1 2", "cat 1 0", "void 1x 3", "dog 0 1", "void 3"].map String.toList
    let before := ["void 1 2", "cat 1 0"].map String.toList
    let line := "void 1x 3".toList
    let behind := ["dog 0 1".toList]
    let fields := ["1x", "3"].map String.toList
    (Retains (some 4) lines "void" before line behind ∧ IsRow line "void".toList fields ∧
        ∃ field ∈ fields, Malformed field) ∧
      IsVoid (load (some 4) lines) "void" ∧
        ∀ lines' line', Retains (some 4) lines' "void" before line' behind →
          (load (some 4) lines').words = (load (some 4) lines).words ∧
            ∀ other ≠ "void",
              (load (some 4) lines').get? other = (load (some 4) lines).get? other := by
  intro lines before line behind fields
  have retains : Retains (some 4) lines "void" before line behind :=
    ⟨by decide, by decide, by decide⟩
  have row : IsRow line "void".toList fields := ⟨by decide, by decide, by decide⟩
  have malformed : ∃ field ∈ fields, Malformed field := by
    refine ⟨"1x".toList, by decide, ⟨'1', by decide, by decide⟩, ?_⟩
    have refused : Decimal.numeral? (String.ofList "1x".toList) = none := by cbv
    rw [refused]
    intro x number
    cases number
  exact ⟨⟨retains, row, malformed⟩, load_of_malformed retains row malformed⟩

end WordSpace.Lexicon
