import WordSpace.Proofs.Catalog
import WordSpace.Proofs.Decimal
import WordSpace.Proofs.Lexicon.Ranking

/-!
Lexicons of one length.

Where all embeddings have the length of the query, a search finds something whatever is excluded, if
the number of words that it asks for is not too long to be put on record
(`Lexicon.nearest_of_uniform`). To exclude words from a search is then the same as to search a
lexicon that was made without them (`Lexicon.nearest_eq_nearest_without`).
-/

namespace WordSpace

namespace Catalog

/-- All embeddings of a catalog have one length. -/
def Uniform (embeddings : Catalog Embedding) (length : Nat) : Prop :=
  ∀ entry ∈ embeddings.entries, entry.2.length = length

instance (embeddings : Catalog Embedding) (length : Nat) : Decidable (embeddings.Uniform length) :=
  inferInstanceAs (Decidable (∀ entry ∈ embeddings.entries, entry.2.length = length))

variable {embeddings : Catalog Embedding} {length : Nat}

theorem uniform_iff_get? :
    embeddings.Uniform length ↔
      ∀ name v, embeddings.get? name = some v → v.length = length := by
  constructor
  · intro uniform name v found
    exact uniform (name, v) (get?_eq_some_iff.1 found)
  · rintro all ⟨name, v⟩ member
    exact all name v (get?_eq_some_iff.2 member)

theorem uniform_empty : (empty : Catalog Embedding).Uniform length := List.forall_mem_nil _

theorem Uniform.insert (uniform : embeddings.Uniform length) (name : String) {v : Embedding}
    (fits : v.length = length) : (embeddings.insert name v).Uniform length := by
  rw [uniform_iff_get?] at uniform ⊢
  intro other w found
  by_cases same : other = name
  · subst same
    rw [get?_insert_self, Option.some.injEq] at found
    rw [← found, fits]
  · rw [get?_insert_of_ne _ same] at found
    exact uniform other w found

end Catalog

namespace Lexicon

variable {lexicon : Lexicon} {query : Embedding} {count : Int} {excluded : List String}

/-- A search that has the length of all embeddings gives the front of the ranking, if it asks for
a number of words that can be put on record. -/
theorem nearest_of_uniform (uniform : lexicon.Uniform query.length)
    (short : count < 10 ^ Decimal.maxDigits) (excluded : List String) :
    lexicon.nearest query count excluded =
      .ok ((ranking lexicon query.normalize excluded).take count.toNat) := by
  refine nearest_eq_ok_iff.2 ⟨?_, rfl⟩
  rcases Int.le_total count 0 with least | asks
  · exact .inl (.inl least)
  · exact .inr ⟨uniform, (Decimal.isShort_iff_of_nonneg asks).2 short⟩

/-- A search that has the length of all embeddings finds as many of the words that are not excluded
as it asks for and there are, each of them once. -/
theorem exists_nearest_of_uniform (uniform : lexicon.Uniform query.length)
    (short : count < 10 ^ Decimal.maxDigits) (excluded : List String) :
    ∃ found, lexicon.nearest query count excluded = .ok found ∧
      found.length = min count.toNat (lexicon.words.filter (!excluded.contains ·)).length ∧
      (found.map Match.word).Nodup ∧
      ∀ m ∈ found, m.word ∈ lexicon.words ∧ m.word ∉ excluded := by
  have perm : ((ranking lexicon query.normalize excluded).map Match.word).Perm
      (lexicon.words.filter (!excluded.contains ·)) := map_word_ranking_perm
  have front : ((ranking lexicon query.normalize excluded).take count.toNat).Sublist
      (ranking lexicon query.normalize excluded) := List.take_sublist _ _
  refine ⟨_, nearest_of_uniform uniform short excluded, ?_, ?_, fun m member => ?_⟩
  · rw [List.length_take, ← perm.length_eq, List.length_map]
  · have distinct := perm.nodup_iff.2 (lexicon.nodup_names.filter _)
    exact distinct.sublist (front.map Match.word)
  · have kept := perm.mem_iff.1 (List.mem_map_of_mem (front.mem member))
    simpa using List.mem_filter.1 kept

/-! ## Exclusion -/

/-- The lexicon that is made of the words that are not excluded, with their embeddings. -/
def without (lexicon : Lexicon) (excluded : List String) : Lexicon :=
  .ofList (lexicon.entries.filter (!excluded.contains ·.1))

theorem entries_without :
    (lexicon.without excluded).entries = lexicon.entries.filter (!excluded.contains ·.1) :=
  Catalog.entries_ofList (lexicon.distinct.sublist (List.filter_sublist.map Prod.fst))

theorem uniform_without {length : Nat} (uniform : lexicon.Uniform length) :
    (lexicon.without excluded).Uniform length := by
  intro entry member
  rw [entries_without] at member
  exact uniform entry (List.mem_of_mem_filter member)

/-- The candidates among the words of a lexicon are all words of the lexicon without the others. -/
theorem candidates_scored_eq_scored_without :
    candidates excluded (scored lexicon query) = scored (lexicon.without excluded) query := by
  rw [candidates, scored, scored, entries_without, List.filter_map]
  rfl

theorem ranking_eq_ranking_without :
    ranking lexicon query excluded = ranking (lexicon.without excluded) query [] := by
  have nothing (found : List Match) : candidates [] found = found :=
    List.filter_eq_self.2 fun _ _ => rfl
  rw [ranking, ranking, nothing, candidates_scored_eq_scored_without]

/-- To exclude words from a search gives the same as to search the lexicon made without them. -/
theorem nearest_eq_nearest_without (uniform : lexicon.Uniform query.length)
    (short : count < 10 ^ Decimal.maxDigits) (excluded : List String) :
    ∃ found, lexicon.nearest query count excluded = .ok found ∧
      (lexicon.without excluded).nearest query count [] = .ok found := by
  refine ⟨_, nearest_of_uniform uniform short excluded, ?_⟩
  rw [nearest_of_uniform (uniform_without uniform) short [], ← ranking_eq_ranking_without]

/-- Of three words one is excluded, and so is a word that is not there. -/
theorem nearest_eq_nearest_without_tied :
    let number := fun bits => [Float32.ofBits bits]
    let lexicon : Lexicon := .ofList
      [("east", number 0x3F800000), ("void", number 0x7FC00000), ("west", number 0x3F800000)]
    lexicon.Uniform 1 ∧ (2 : Int) < 10 ^ Decimal.maxDigits ∧
      ∃ found, lexicon.nearest (number 0x40000000) 2 ["east", "south"] = .ok found ∧
        (lexicon.without ["east", "south"]).nearest (number 0x40000000) 2 [] = .ok found := by
  intro number lexicon
  have uniform : lexicon.Uniform 1 := by decide
  have short : (2 : Int) < 10 ^ Decimal.maxDigits := by decide +kernel
  exact ⟨uniform, short, nearest_eq_nearest_without uniform short ["east", "south"]⟩

end Lexicon

end WordSpace
