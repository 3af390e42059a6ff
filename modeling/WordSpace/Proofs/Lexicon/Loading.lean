import WordSpace.Lexicon.Load
import WordSpace.Proofs.Catalog

/-!
What is loaded from lines.

A line is a word, which is the text before its first space, and as many fields as it has spaces
(`Lexicon.IsRow`). The lines that count are those that are not empty without the line ends at their
end, up to the limit. A lexicon that is loaded from them has their words in the order in which each
first comes, and for each word the embedding of the last line that begins with it
(`Lexicon.load_reflects`).
-/

namespace WordSpace.Lexicon

/-! ## Lines -/

/-- The text of a line before its first space, or the whole line if it has none. -/
def firstField (line : List Char) : List Char := line.takeWhile (· ≠ ' ')

/-- The word of a line. -/
def firstWord (line : List Char) : String := String.ofList (firstField line)

/-- A line is made of a word and of fields, with a space before each field. -/
structure IsRow (line word : List Char) (fields : List (List Char)) : Prop where
  line_eq : line = word ++ fields.flatMap (' ' :: ·)
  word_solid : ' ' ∉ word
  fields_solid : ∀ field ∈ fields, ' ' ∉ field

/-- The numbers in the fields of a line, in single precision. -/
def numbers (fields : List (List Char)) : Embedding :=
  fields.map fun field => Precision.single (component (String.ofList field))

/-- Every line is made of a word, which is its text before the first space, and of fields. -/
theorem exists_isRow (line : List Char) : ∃ fields, IsRow line (firstField line) fields := by
  induction line with
  | nil => exact ⟨[], rfl, by simp [firstField], by simp⟩
  | cons c rest ih =>
    obtain ⟨fields, row⟩ := ih
    -- A space makes a field of the word of the rest; any other character goes before that word.
    by_cases space : c = ' '
    · subst space
      refine ⟨firstField rest :: fields, ?_, by simp [firstField], ?_⟩
      · rw [List.flatMap_cons, List.cons_append, ← row.line_eq]
        rfl
      · exact List.forall_mem_cons.2 ⟨row.word_solid, row.fields_solid⟩
    · have first : firstField (c :: rest) = c :: firstField rest := by simp [firstField, space]
      rw [first]
      refine ⟨fields, ?_, ?_, row.fields_solid⟩
      · rw [List.cons_append, ← row.line_eq]
      · exact List.not_mem_cons_of_ne_of_not_mem (Ne.symm space) row.word_solid

theorem splitOn_append_of_not_mem {separator : Char} {part : List Char} (solid : separator ∉ part)
    {text : List Char} {parts : List (List Char)}
    (split : Text.splitOn separator text = [] :: parts) :
    Text.splitOn separator (part ++ text) = part :: parts := by
  induction part with
  | nil => exact split
  | cons c part ih =>
    obtain ⟨apart, solid⟩ := List.ne_and_not_mem_of_not_mem_cons solid
    rw [List.cons_append, Text.splitOn, if_neg (Ne.symm apart), ih solid]

/-- The parts of a line between its spaces are its word and its fields. -/
theorem IsRow.splitOn_eq {line word : List Char} {fields : List (List Char)}
    (row : IsRow line word fields) : Text.splitOn ' ' line = word :: fields := by
  induction fields generalizing line word with
  | nil =>
    rw [row.line_eq]
    exact splitOn_append_of_not_mem row.word_solid rfl
  | cons field fields ih =>
    obtain ⟨solid, others⟩ := List.forall_mem_cons.1 row.fields_solid
    rw [row.line_eq]
    refine splitOn_append_of_not_mem row.word_solid ?_
    rw [List.flatMap_cons, List.cons_append, Text.splitOn, if_pos rfl, ih ⟨rfl, solid, others⟩]

/-- A line has a field behind each of its spaces. -/
theorem IsRow.length_fields {line word : List Char} {fields : List (List Char)}
    (row : IsRow line word fields) : fields.length = line.count ' ' := by
  rw [row.line_eq, List.count_append, List.count_eq_zero.2 row.word_solid, List.count_flatMap,
    Nat.zero_add]
  have single : fields.map (List.count ' ' ∘ (' ' :: ·)) = fields.map fun _ => 1 := by
    refine List.map_congr_left fun field member => ?_
    rw [Function.comp_apply, List.count_cons_self,
      List.count_eq_zero.2 (row.fields_solid field member)]
  rw [single]
  simp

/-- The entry of a line is its word with the normalized numbers in its fields. -/
theorem IsRow.entry_eq {line word : List Char} {fields : List (List Char)}
    (row : IsRow line word fields) :
    entry line = (String.ofList word, (numbers fields).normalize) := by
  rw [entry, row.splitOn_eq]
  rfl

theorem fst_entry (line : List Char) : (entry line).1 = firstWord line := by
  obtain ⟨fields, row⟩ := exists_isRow line
  rw [row.entry_eq]
  rfl

/-! ## Lexicons -/

/-- A lexicon says what some lines say: it has the words of the lines, in the order in which each
first comes, and of several lines with one word the last one gives the embedding. -/
structure Reflects (lexicon : Lexicon) (lines : List (List Char)) : Prop where
  words_eq : lexicon.words = (lines.map firstWord).eraseDups
  embedding : ∀ word ∈ lexicon.words, ∃ before line behind fields,
    lines = before ++ line :: behind ∧ (∀ later ∈ behind, firstWord later ≠ word) ∧
      IsRow line word.toList fields ∧ fields.length = line.count ' ' ∧
      lexicon.get? word = some (numbers fields).normalize
  get?_eq_none : ∀ word, word ∉ lexicon.words → lexicon.get? word = none
  contains_iff : ∀ word, lexicon.contains word = true ↔ word ∈ lexicon.words
  size_eq : lexicon.size = (lines.map firstWord).toFinset.card
  dimension_eq : lexicon.dimension =
    ((lexicon.words.head?.bind lexicon.get?).map List.length).getD 0

theorem dimension_eq_length (lexicon : Lexicon) :
    lexicon.dimension = ((lexicon.words.head?.bind lexicon.get?).map List.length).getD 0 := by
  unfold dimension words Catalog.names Catalog.get?
  cases lexicon.entries with
  | nil => rfl
  | cons entry rest =>
    obtain ⟨word, v⟩ := entry
    simp

variable {lines : List (List Char)}

theorem words_ofList_entries :
    words (.ofList (lines.map entry)) = (lines.map firstWord).eraseDups := by
  have firsts : (lines.map entry).map Prod.fst = lines.map firstWord := by
    rw [List.map_map]
    exact List.map_congr_left fun line _ => fst_entry line
  rw [words, Catalog.names_ofList, firsts]

/-- A word has the embedding of the last line that begins with it. -/
theorem exists_last_line {word : String} (member : word ∈ words (.ofList (lines.map entry))) :
    ∃ before line behind fields, lines = before ++ line :: behind ∧
      (∀ later ∈ behind, firstWord later ≠ word) ∧ IsRow line word.toList fields ∧
      Catalog.get? (.ofList (lines.map entry)) word = some (numbers fields).normalize := by
  obtain ⟨v, found⟩ := Option.isSome_iff_exists.1 (Catalog.contains_iff.2 member)
  obtain ⟨before, behind, entries, last⟩ := Catalog.get?_ofList_eq_some_iff.1 found
  obtain ⟨before, more, rfl, -, rest⟩ := List.map_eq_append_iff.1 entries
  obtain ⟨line, behind, rfl, own, rfl⟩ := List.map_eq_cons_iff.1 rest
  obtain ⟨fields, row⟩ := exists_isRow line
  rw [row.entry_eq, Prod.mk.injEq] at own
  obtain ⟨rfl, rfl⟩ := own
  refine ⟨before, line, behind, fields, rfl, fun later isLater same => ?_, ?_, found⟩
  · have apart := last (entry later) (List.mem_map_of_mem isLater)
    rw [fst_entry, same] at apart
    exact apart rfl
  · rwa [String.toList_ofList]

/-- The last line of a word says which embedding it has. -/
theorem get?_load_of_last_line {limit : Option Int} {before behind : List (List Char)}
    {line : List Char} {word : String} {fields : List (List Char)}
    (loaded : loadable limit lines = before ++ line :: behind)
    (last : ∀ later ∈ behind, firstWord later ≠ word) (row : IsRow line word.toList fields) :
    (load limit lines).get? word = some (numbers fields).normalize := by
  have own : entry line = (word, (numbers fields).normalize) := by
    rw [row.entry_eq, String.ofList_toList]
  rw [load, loaded, List.map_append, List.map_cons, own, Catalog.get?_ofList_eq_some_iff]
  refine ⟨_, _, rfl, fun pair member => ?_⟩
  obtain ⟨later, isLater, rfl⟩ := List.mem_map.1 member
  rw [fst_entry]
  exact (last later isLater).symm

/-- There are as many words as different ones among the words of the lines. -/
theorem size_ofList_entries :
    Catalog.size (.ofList (lines.map entry)) = (lines.map firstWord).toFinset.card := by
  have distinct : (words (.ofList (lines.map entry))).Nodup := Catalog.nodup_names _
  have same : (lines.map firstWord).toFinset = (words (.ofList (lines.map entry))).toFinset := by
    ext word
    rw [words_ofList_entries, List.mem_toFinset, List.mem_toFinset, List.mem_eraseDups]
  rw [same, List.toFinset_card_of_nodup distinct]
  exact (Catalog.length_names _).symm

/-- The lines that count are those that are not empty without their line ends, up to the limit. -/
theorem loadable_eq (limit : Option Int) (lines : List (List Char)) :
    let filled := (lines.map (List.rdropWhile Text.isLineEnd)).filter (· ≠ [])
    loadable limit lines = limit.elim filled fun n => filled.take (max n 0).toNat := by
  intro filled
  have filled_eq : (lines.map Text.dropLineEnds).filter (!·.isEmpty) = filled := by
    refine List.filter_congr fun line _ => ?_
    cases line <;> rfl
  unfold loadable
  rw [filled_eq]
  cases limit with
  | none => rfl
  | some n =>
    have least : n.toNat = (max n 0).toNat := by omega
    exact congrArg filled.take least

/-- Loading gives what the lines say that are not empty without their line ends, up to the limit. -/
theorem load_reflects (limit : Option Int) (lines : List (List Char)) :
    let filled := (lines.map (List.rdropWhile Text.isLineEnd)).filter (· ≠ [])
    Reflects (load limit lines) (limit.elim filled fun n => filled.take (max n 0).toNat) := by
  intro filled
  rw [load, loadable_eq]
  constructor
  case words_eq => exact words_ofList_entries
  case embedding =>
    intro word member
    obtain ⟨before, line, behind, fields, whole, last, row, found⟩ := exists_last_line member
    exact ⟨before, line, behind, fields, whole, last, row, row.length_fields, found⟩
  case get?_eq_none => exact fun word absent => Catalog.get?_eq_none_iff.2 absent
  case contains_iff => exact fun word => Catalog.contains_iff
  case size_eq => exact size_ofList_entries
  case dimension_eq => exact dimension_eq_length _

/-- The empty line does not count, and the second line of a word does. -/
example :
    let lines := ["cat 1\r\n", "\n", "dog 2 0", "cat 3 4", "cow 5"]
    let lexicon := load (some 3) (lines.map String.toList)
    lexicon.words = ["cat", "dog"] ∧ lexicon.dimension = 2 := by decide +kernel

end WordSpace.Lexicon
