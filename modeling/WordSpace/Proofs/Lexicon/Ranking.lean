import WordSpace.Proofs.Lexicon.Similarity
import WordSpace.Proofs.Precision.Order

/-!
Searches as rankings.

The order of a search is said in terms of comparison of floating-point numbers: a larger similarity
exceeds a smaller one, any number exceeds NaN, and similarities that are equal as numbers or are
both NaN are tied. Words with tied similarities come in the order of the lexicon
(`Lexicon.Precedes`). A stable sort puts the words in this order (`Lexicon.pairwise_ranked`), so a
search gives the front of the ranking of all words that are not excluded
(`Lexicon.nearest_isRanking`).
-/

namespace WordSpace.Lexicon

open Precision

variable {lexicon : Lexicon} {query : Embedding} {count : Int} {excluded : List String}
  {found : List Match}

/-! ## Order -/

/-- A similarity comes before another one: it is larger, or only the other one is NaN. -/
def Exceeds (x y : Float32) : Prop := y < x ∨ (x.isNaN = false ∧ y.isNaN = true)

/-- Two similarities are the same number, or both are NaN. -/
def Tied (x y : Float32) : Prop := (x == y) = true ∨ (x.isNaN = true ∧ y.isNaN = true)

/-- A match comes before another one: by its similarity, or by the place of its word. -/
def Precedes (lexicon : Lexicon) (a b : Match) : Prop :=
  Exceeds a.similarity b.similarity ∨
    (Tied a.similarity b.similarity ∧ lexicon.words.idxOf a.word < lexicon.words.idxOf b.word)

theorem exceeds_iff {x y : Float32} : Exceeds x y ↔ mayPrecede y x = false := by
  rw [Exceeds, lt_iff_rank?, isNaN_eq_false_iff, ← rank?_eq_none_iff, mayPrecede]
  cases rank? x <;> cases rank? y <;> simp

theorem tied_iff {x y : Float32} : Tied x y ↔ rank? x = rank? y := by
  rw [Tied, beq_iff_rank?, ← rank?_eq_none_iff, ← rank?_eq_none_iff]
  cases rank? x <;> cases rank? y <;> simp [eq_comm]

theorem tied_of_mayPrecede {x y : Float32} (first : mayPrecede x y = true)
    (second : mayPrecede y x = true) : Tied x y := by
  rw [tied_iff]
  unfold mayPrecede at first second
  cases left : rank? x <;> cases right : rank? y <;> simp_all
  omega

/-! ## Stability -/

/-- A stable sort leaves two entries of which each may stand before the other in their order. -/
theorem pairwise_mergeSort_of_pairwise {α : Type} {le : α → α → Bool} {earlier : α → α → Prop}
    {xs : List α} (trans : ∀ a b c, le a b = true → le b c = true → le a c = true)
    (total : ∀ a b, (le a b || le b a) = true) (order : xs.Pairwise earlier) :
    (xs.mergeSort le).Pairwise fun a b =>
      le b a = false ∨ (le a b = true ∧ le b a = true ∧ earlier a b) := by
  -- The sort is followed with each entry next to its place, since equal entries may be many.
  have perm : (xs.zipIdx.mergeSort (List.zipIdxLE le)).Perm xs.zipIdx := List.mergeSort_perm _ _
  have sorted : (xs.zipIdx.mergeSort (List.zipIdxLE le)).Pairwise
      fun p q => List.zipIdxLE le p q = true :=
    List.pairwise_mergeSort (List.zipIdxLE_trans trans) (List.zipIdxLE_total total) _
  have apart : (xs.zipIdx.mergeSort (List.zipIdxLE le)).Pairwise fun p q => p.2 ≠ q.2 := by
    have distinct : (xs.zipIdx.map Prod.snd).Nodup := by
      rw [List.zipIdx_map_snd]
      exact List.nodup_range' _
    exact List.pairwise_map.1 ((perm.map _).nodup_iff.2 distinct)
  rw [← List.mergeSort_zipIdx, List.pairwise_map]
  refine (sorted.and apart).imp_of_mem ?_
  rintro ⟨a, i⟩ ⟨b, j⟩ memA memB ⟨inOrder, different⟩
  have atI : xs[i]? = some a := List.mem_zipIdx_iff_getElem?.1 (perm.mem_iff.1 memA)
  have atJ : xs[j]? = some b := List.mem_zipIdx_iff_getElem?.1 (perm.mem_iff.1 memB)
  obtain ⟨ltI, rfl⟩ := List.getElem?_eq_some_iff.1 atI
  obtain ⟨ltJ, rfl⟩ := List.getElem?_eq_some_iff.1 atJ
  unfold List.zipIdxLE at inOrder
  split at inOrder
  · rename_i forth
    split at inOrder
    · rename_i back
      have before : i < j := Nat.lt_of_le_of_ne (of_decide_eq_true inOrder) different
      exact .inr ⟨forth, back, List.pairwise_iff_getElem.1 order i j ltI ltJ before⟩
    · rename_i noBack
      exact .inl (Bool.eq_false_of_not_eq_true noBack)
  · cases inOrder

/-- Matches come by their similarities, and those with tied similarities in their order. -/
theorem pairwise_ranked {earlier : Match → Match → Prop} {found : List Match}
    (order : found.Pairwise earlier) :
    (ranked found).Pairwise fun a b =>
      Exceeds a.similarity b.similarity ∨ (Tied a.similarity b.similarity ∧ earlier a b) := by
  unfold ranked
  refine (pairwise_mergeSort_of_pairwise ?transitive ?total order).imp ?order
  case transitive => exact fun _ _ _ => mayPrecede_trans
  case total => exact fun _ _ => mayPrecede_total _ _
  case order =>
    rintro a b (larger | ⟨forth, back, before⟩)
    · exact .inl (exceeds_iff.2 larger)
    · exact .inr ⟨tied_of_mayPrecede forth back, before⟩

/-! ## Places -/

/-- The words of a lexicon with their similarities to a query. -/
def scored (lexicon : Lexicon) (query : Embedding) : List Match :=
  lexicon.entries.map fun entry => ⟨entry.1, query.inner entry.2⟩

theorem map_word_scored : (scored lexicon query).map Match.word = lexicon.words := by
  rw [scored, List.map_map]
  rfl

theorem pairwise_idxOf : lexicon.words.Pairwise fun a b =>
    lexicon.words.idxOf a < lexicon.words.idxOf b := by
  have distinct : lexicon.words.Nodup := lexicon.nodup_names
  rw [List.pairwise_iff_getElem]
  intro i j ltI ltJ less
  rw [distinct.idxOf_getElem i ltI, distinct.idxOf_getElem j ltJ]
  exact less

theorem map_word_candidates :
    (candidates excluded found).map Match.word =
      (found.map Match.word).filter (!excluded.contains ·) := by
  rw [candidates, List.filter_map]
  rfl

/-- All candidates of a search in the order of their similarities. -/
def ranking (lexicon : Lexicon) (query : Embedding) (excluded : List String) : List Match :=
  ranked (candidates excluded (scored lexicon query))

theorem ranking_perm :
    (ranking lexicon query excluded).Perm (candidates excluded (scored lexicon query)) :=
  List.mergeSort_perm _ _

theorem map_word_ranking_perm :
    ((ranking lexicon query excluded).map Match.word).Perm
      (lexicon.words.filter (!excluded.contains ·)) := by
  have perm : ((ranking lexicon query excluded).map Match.word).Perm
      ((candidates excluded (scored lexicon query)).map Match.word) := ranking_perm.map _
  rwa [map_word_candidates, map_word_scored] at perm

theorem pairwise_ranking : (ranking lexicon query excluded).Pairwise (Precedes lexicon) := by
  have order : lexicon.words.Pairwise fun a b =>
      lexicon.words.idxOf a < lexicon.words.idxOf b := pairwise_idxOf
  rw [← @map_word_scored lexicon query, List.pairwise_map, map_word_scored] at order
  exact pairwise_ranked (order.filter _)

theorem mem_ranking_iff {m : Match} :
    m ∈ ranking lexicon query excluded ↔
      m.word ∉ excluded ∧ ∃ v, lexicon.get? m.word = some v ∧ m.similarity = query.inner v := by
  rw [ranking_perm.mem_iff, candidates, List.mem_filter, scored, List.mem_map]
  constructor
  · rintro ⟨⟨⟨word, v⟩, member, rfl⟩, kept⟩
    exact ⟨by simpa using kept, v, Catalog.get?_eq_some_iff.2 member, rfl⟩
  · rintro ⟨kept, v, value, similarity⟩
    refine ⟨⟨(m.word, v), Catalog.get?_eq_some_iff.1 value, ?_⟩, by simpa using kept⟩
    rw [← similarity]

/-! ## Searches -/

/-- A similarity as a search gives it: the inner product of the normalized query with an embedding,
summed from zero. Where a dot product is a single product it may differ in the sign of a zero. -/
def IsSimilarity (query v : Embedding) (s : Float32) : Prop :=
  s = query.normalize.inner v ∧
    ∃ d, query.normalize.dot v = .ok d ∧ Tied s d ∧ (v.length ≠ 1 → s = d)

/-- The matches `found` are the front of the ranking of all words that are not excluded. -/
structure IsRanking (lexicon : Lexicon) (query : Embedding) (count : Int)
    (excluded : List String) (found : List Match) : Prop where
  length_eq : found.length = min count.toNat (lexicon.words.filter (!excluded.contains ·)).length
  nodup : (found.map Match.word).Nodup
  not_excluded : ∀ m ∈ found, m.word ∉ excluded
  similarity : ∀ m ∈ found, ∃ v, lexicon.get? m.word = some v ∧ IsSimilarity query v m.similarity
  ordered : found.Pairwise (Precedes lexicon)
  left_out : ∀ word v, lexicon.get? word = some v → word ∉ excluded →
    word ∉ found.map Match.word → ∀ m ∈ found,
      ∃ s, IsSimilarity query v s ∧ Precedes lexicon m ⟨word, s⟩

theorem isSimilarity_inner {v : Embedding} (fits : v.length = query.length) :
    IsSimilarity query v (query.normalize.inner v) := by
  refine ⟨rfl, ?_⟩
  by_cases single : v.length = 1
  · obtain ⟨y, rfl⟩ := List.length_eq_one_iff.1 single
    obtain ⟨x, normalized⟩ := List.length_eq_one_iff.1
      ((Embedding.length_normalize query).trans fits.symm)
    rw [normalized]
    refine ⟨x * y, Embedding.dot_singleton x y, tied_iff.2 (rank?_zero_add (x * y)), ?_⟩
    exact absurd single
  · have several : query.normalize.length ≠ 1 := by
      rw [Embedding.length_normalize, ← fits]
      exact single
    refine ⟨_, ?_, tied_iff.2 rfl, fun _ => rfl⟩
    rw [Embedding.dot_of_length_ne_one several, Embedding.length_normalize, if_pos fits.symm]

theorem take_ranking_eq_nil (idle : count ≤ 0 ∨ lexicon.isEmpty = true) :
    (ranking lexicon query excluded).take count.toNat = [] := by
  rcases idle with least | empty
  · rw [Int.toNat_of_nonpos least, List.take_zero]
  · have noEntries : lexicon.entries = [] := List.isEmpty_iff.1 empty
    have noCandidates : candidates excluded (scored lexicon query) = [] := by
      rw [scored, noEntries]
      rfl
    have noRanking : ranking lexicon query excluded = [] := by
      have perm : (ranking lexicon query excluded).Perm _ := ranking_perm
      rw [noCandidates] at perm
      exact perm.eq_nil
    rw [noRanking, List.take_nil]

/-- What comes of a search that does not have to look at the words, or does: in this case it fails
if an embedding does not have the length of the query, or else if the number of words that it asks
for is too long for a record. If it does not fail it puts itself on record. -/
inductive Searched (lexicon : Lexicon) (query : Embedding) (count : Int) (excluded : List String) :
    Except SearchError Findings → Prop where
  | idle (idle : count ≤ 0 ∨ lexicon.isEmpty = true) :
    Searched lexicon query count excluded (.ok ⟨[], []⟩)
  | misfit (busy : ¬(count ≤ 0 ∨ lexicon.isEmpty = true))
    (misfits : ¬∀ entry ∈ lexicon.entries, entry.2.length = query.length) :
    Searched lexicon query count excluded (.error .lengthMismatch)
  | long (busy : ¬(count ≤ 0 ∨ lexicon.isEmpty = true))
    (fits : ∀ entry ∈ lexicon.entries, entry.2.length = query.length)
    (long : ¬Decimal.IsShort count) :
    Searched lexicon query count excluded (.error .tooManyDigits)
  | found {found : List Match} {left : Nat} (busy : ¬(count ≤ 0 ∨ lexicon.isEmpty = true))
    (fits : ∀ entry ∈ lexicon.entries, entry.2.length = query.length)
    (short : Decimal.IsShort count)
    (front : found = (ranking lexicon query.normalize excluded).take count.toNat)
    (others : left = (lexicon.words.filter (!excluded.contains ·)).length) :
    Searched lexicon query count excluded
      (.ok ⟨found, [.search (.number count short) (.size (lexicon.size - left))
        (.size found.length) (.size left)]⟩)

theorem zipWith_eq_scored :
    lexicon.words.zipWith Match.mk (lexicon.entries.map fun entry => query.inner entry.2) =
      scored lexicon query := by
  rw [words, Catalog.names, List.zipWith_map, List.zipWith_self]
  rfl

theorem searched (lexicon : Lexicon) (query : Embedding) (count : Int) (excluded : List String) :
    Searched lexicon query count excluded (lexicon.search query count excluded) := by
  unfold search
  split
  case isTrue idle => exact .idle idle
  case isFalse busy =>
    cases values : lexicon.similarities query.normalize with
    | error failure =>
      refine .misfit busy fun fits => ?_
      rw [← Embedding.length_normalize query] at fits
      cases values.symm.trans (similarities_eq_ok_iff.2 ⟨fits, rfl⟩)
    | ok similarities =>
      obtain ⟨fits, rfl⟩ := similarities_eq_ok_iff.1 values
      rw [Embedding.length_normalize] at fits
      change Searched lexicon query count excluded
        ((lexicon.findings _ count excluded).mapError .ofDigits)
      rw [findings, zipWith_eq_scored]
      by_cases short : Decimal.IsShort count
      · rw [Decimal.Figure.ofInt_of_isShort short]
        refine .found busy fits short rfl ?_
        rw [← @map_word_scored lexicon query.normalize, ← map_word_candidates, List.length_map]
      · rw [Decimal.Figure.ofInt_of_not_isShort short]
        exact .long busy fits short

/-- A search gives the front of the ranking. It fails only if it has to look at the words and one
of them has another length than the query, or the number that is asked for is too long. -/
theorem nearest_eq_ok_iff :
    lexicon.nearest query count excluded = .ok found ↔
      ((count ≤ 0 ∨ lexicon.isEmpty = true) ∨
          (∀ entry ∈ lexicon.entries, entry.2.length = query.length) ∧ Decimal.IsShort count) ∧
        found = (ranking lexicon query.normalize excluded).take count.toNat := by
  have outcome := searched lexicon query count excluded
  unfold nearest
  generalize lexicon.search query count excluded = result at outcome
  cases outcome with
  | idle idle =>
    change Except.ok [] = Except.ok found ↔ _
    rw [take_ranking_eq_nil idle, and_iff_right (.inl idle), Except.ok.injEq, eq_comm]
  | misfit busy misfits =>
    refine iff_of_false (fun ok => nomatch ok) ?_
    rintro ⟨idle | ⟨fits, -⟩, -⟩
    · exact busy idle
    · exact misfits fits
  | long busy _ long =>
    refine iff_of_false (fun ok => nomatch ok) ?_
    rintro ⟨idle | ⟨-, short⟩, -⟩
    · exact busy idle
    · exact long short
  | found busy fits short front =>
    subst front
    change Except.ok _ = Except.ok found ↔ _
    rw [and_iff_right (.inr ⟨fits, short⟩), Except.ok.injEq, eq_comm]

/-- What a search finds stands at the front of the ranking. -/
theorem exists_ranking_eq_append (ok : lexicon.nearest query count excluded = .ok found) :
    ∃ rest, ranking lexicon query.normalize excluded = found ++ rest := by
  obtain ⟨-, rfl⟩ := nearest_eq_ok_iff.1 ok
  exact ⟨_, (List.take_append_drop count.toNat _).symm⟩

/-- What a search finds are words with their similarities. -/
theorem exists_isSimilarity_of_mem_nearest {m : Match}
    (ok : lexicon.nearest query count excluded = .ok found) (member : m ∈ found) :
    ∃ v, lexicon.get? m.word = some v ∧ IsSimilarity query v m.similarity := by
  obtain ⟨looked, rfl⟩ := nearest_eq_ok_iff.1 ok
  rcases looked with idle | ⟨fits, -⟩
  · rw [take_ranking_eq_nil idle] at member
    cases member
  · obtain ⟨-, v, value, inner⟩ := mem_ranking_iff.1 (List.mem_of_mem_take member)
    rw [inner]
    exact ⟨v, value, isSimilarity_inner (fits (m.word, v) (Catalog.get?_eq_some_iff.1 value))⟩

/-- A search that succeeds gives the front of the ranking of all words that are not excluded. -/
theorem nearest_isRanking (ok : lexicon.nearest query count excluded = .ok found) :
    IsRanking lexicon query count excluded found := by
  obtain ⟨looked, rfl⟩ := nearest_eq_ok_iff.1 ok
  have front : ((ranking lexicon query.normalize excluded).take count.toNat).Sublist
      (ranking lexicon query.normalize excluded) := List.take_sublist _ _
  -- What is found has been looked at, and with it all words.
  have fits {m : Match} {word : String} {v : Embedding}
      (member : m ∈ (ranking lexicon query.normalize excluded).take count.toNat)
      (value : lexicon.get? word = some v) : v.length = query.length := by
    rcases looked with idle | ⟨all, -⟩
    · rw [take_ranking_eq_nil idle] at member
      cases member
    · exact all (word, v) (Catalog.get?_eq_some_iff.1 value)
  constructor
  case length_eq =>
    rw [List.length_take, ← List.length_map, map_word_ranking_perm.length_eq]
  case nodup =>
    have distinct : ((ranking lexicon query.normalize excluded).map Match.word).Nodup :=
      map_word_ranking_perm.nodup_iff.2 (lexicon.nodup_names.filter _)
    exact distinct.sublist (front.map Match.word)
  case not_excluded =>
    intro m member
    exact (mem_ranking_iff.1 (front.mem member)).1
  case similarity =>
    intro m member
    obtain ⟨_, v, value, inner⟩ := mem_ranking_iff.1 (front.mem member)
    rw [inner]
    exact ⟨v, value, isSimilarity_inner (fits member value)⟩
  case ordered => exact pairwise_ranking.sublist front
  case left_out =>
    intro word v value kept absent m member
    have order : (ranking lexicon query.normalize excluded).Pairwise (Precedes lexicon) :=
      pairwise_ranking
    have ranks : ⟨word, query.normalize.inner v⟩ ∈ ranking lexicon query.normalize excluded :=
      mem_ranking_iff.2 ⟨kept, v, value, rfl⟩
    rw [← List.take_append_drop count.toNat (ranking lexicon query.normalize excluded)]
      at order ranks
    have later := (List.mem_append.1 ranks).resolve_left fun found =>
      absent (List.mem_map_of_mem found)
    exact ⟨_, isSimilarity_inner (fits member value),
      (List.pairwise_append.1 order).2.2 m member _ later⟩

/-- Two words of equal similarity are found in their order, before a word without a similarity. -/
theorem nearest_isRanking_tied :
    let one := Float32.ofBits 0x3F800000
    let lexicon : Lexicon :=
      ⟨[("east", [one]), ("void", [Float32.ofBits 0x7FC00000]), ("west", [one])], by decide⟩
    let found : List Match := [⟨"east", one⟩, ⟨"west", one⟩]
    lexicon.nearest [Float32.ofBits 0x40000000] 2 [] = .ok found ∧
      IsRanking lexicon [Float32.ofBits 0x40000000] 2 [] found := by
  intro one lexicon found
  have all : candidates [] (scored lexicon (Embedding.normalize [Float32.ofBits 0x40000000])) =
      [⟨"east", one⟩, ⟨"void", Float32.ofBits 0x7FC00000⟩, ⟨"west", one⟩] := by decide +kernel
  have ties : mayPrecede one one = true := by decide
  have number : mayPrecede one (Float32.ofBits 0x7FC00000) = true := by decide
  have nan : mayPrecede (Float32.ofBits 0x7FC00000) one = false := by decide
  have ok : lexicon.nearest [Float32.ofBits 0x40000000] 2 [] = .ok found := by
    refine nearest_eq_ok_iff.2 ⟨.inr ⟨by decide, by decide⟩, ?_⟩
    rw [ranking, all, ranked]
    simp [List.mergeSort, ties, number, nan, found]
  exact ⟨ok, nearest_isRanking ok⟩

end WordSpace.Lexicon
