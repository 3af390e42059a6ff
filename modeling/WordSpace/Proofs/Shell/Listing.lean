import WordSpace.Proofs.Session.UsedWords
import WordSpace.Proofs.Shell.Answers

/-!
What the shell lists.

The answer to an expression shows one word on each line, from which it can be read off
(`Shell.Shows.toList_word`), and leaves out exactly the identifiers of the line that stand for no
variable: these are the words that the value was made from. The answer to an assignment names its
target (`Shell.answer_lists_other_words`). Both are said of the variables behind any lines that were
evaluated, and a run of the shell leaves no others (`Shell.exists_varsAfter_eq`).
-/

namespace WordSpace

open Expression

namespace Session

variable {lexicon : Lexicon} {vars : Variables}

/-- A line comes out as it does without the blanks around it, if it has a value at all. -/
theorem evaluate_of_trim {line : String} {evaluation : Evaluation}
    (ok : (evaluate lexicon vars (Text.trim line)).result = .ok evaluation) :
    (evaluate lexicon vars line).result = .ok evaluation := by
  obtain ⟨s, parsed, evaluated⟩ := evaluate_result_eq_ok_iff.1 ok
  exact evaluate_result_eq_ok_iff.2 ⟨s, Statement.ofText_of_trim parsed, evaluated⟩

/-- There are as many other words in the lexicon as it has words that were not used. -/
theorem IsMadeFrom.length_filter {text : List Char} {used : List String}
    (made : IsMadeFrom lexicon vars text used) :
    (lexicon.words.filter (!used.contains ·)).length =
      lexicon.size - (typedWords vars text).card := by
  have distinct : lexicon.words.Nodup := lexicon.nodup_names
  have others : (lexicon.words.filter (!used.contains ·)).toFinset =
      lexicon.words.toFinset \ typedWords vars text := by
    ext word
    rw [← made.toFinset_eq]
    simp
  rw [← List.toFinset_card_of_nodup (distinct.filter _), others,
    Finset.card_sdiff_of_subset made.subset, List.toFinset_card_of_nodup distinct]
  exact congrArg (· - _) lexicon.length_names

end Session

namespace Shell

open Session (typedWords IsMadeFrom)

variable {room : Room} {lexicon : Lexicon} {count : Int} {length : Nat}

/-! ## Lines -/

/-- A line shows a match: behind two spaces its word, filled up with spaces to fifteen characters if
it has fewer, and behind one more space its similarity to three places. -/
def Shows (m : Lexicon.Match) (line : String) : Prop :=
  ∃ fill, m.word.length + fill = max 15 m.word.length ∧
    line = "  " ++ m.word ++ String.ofList (List.replicate fill ' ') ++ " " ++
      Decimal.fixed 3 m.similarity.toModel.unpack

theorem shows_matchLine (m : Lexicon.Match) : Shows m (matchLine m) := by
  refine ⟨15 - m.word.length, by omega, ?_⟩
  rw [matchLine, padRight, ← String.append_assoc]

/-- A word without a space is read off the line that shows it: it stands between the two spaces at
the front and the next one. -/
theorem Shows.toList_word {m : Lexicon.Match} {line : String} (shows : Shows m line)
    (single : ' ' ∉ m.word.toList) :
    m.word.toList = (line.toList.drop 2).takeWhile (· != ' ') := by
  obtain ⟨fill, -, rfl⟩ := shows
  have nothing (rest : List Char) :
      (List.replicate fill ' ' ++ ' ' :: rest).takeWhile (· != ' ') = [] := by
    cases fill <;> rfl
  have others : ∀ c ∈ m.word.toList, (c != ' ') = true := by
    intro c member
    exact bne_iff_ne.2 fun space => single (space ▸ member)
  simp only [String.toList_append, String.toList_ofList, List.append_assoc]
  change _ = (m.word.toList ++ (List.replicate fill ' ' ++ ' ' :: _)).takeWhile (· != ' ')
  rw [List.takeWhile_append_of_pos others, nothing, List.append_nil]

/-- Lines list words of a lexicon: each of them shows one of some matches, whose words are as many
as are asked for and there are besides those that are left out, each word once. -/
structure ListsWithout (lexicon : Lexicon) (count : Int) (out : Finset String)
    (found : List Lexicon.Match) (lines : List String) : Prop where
  shown : List.Forall₂ Shows found lines
  length_eq : lines.length = min count.toNat (lexicon.size - out.card)
  nodup : (found.map Lexicon.Match.word).Nodup
  words : ∀ m ∈ found, m.word ∈ lexicon.words ∧ m.word ∉ out

theorem forall₂_map_matchLine (found : List Lexicon.Match) :
    List.Forall₂ Shows found (found.map matchLine) :=
  List.forall₂_map_right_iff.2 (List.forall₂_same.2 fun m _ => shows_matchLine m)

/-! ## Answers -/

/-- The answer to an expression over a lexicon of one length lists the words that a search finds. -/
theorem exists_lists_of_uniform {vars : Variables} {vector : Embedding} {used : List String}
    {text : List Char} {line : String} (words : lexicon.Uniform vector.length)
    (short : count < 10 ^ Decimal.maxDigits)
    (evaluated : (Session.evaluate lexicon vars line).result = .ok ⟨vector, used, none⟩)
    (made : IsMadeFrom lexicon vars text used) :
    ∃ found lines, lexicon.nearest vector count used = .ok found ∧
      (answerInput lexicon count vars line).result = .ok ⟨lines, false⟩ ∧
      ListsWithout lexicon count (typedWords vars text) found lines := by
  obtain ⟨found, ok, size, distinct, kept⟩ :=
    Lexicon.exists_nearest_of_uniform words short used
  refine ⟨found, found.map matchLine, ok, ?_, forall₂_map_matchLine found, ?_, distinct, ?_⟩
  · rw [answerInput_of_expression evaluated, ok]
    rfl
  · rw [List.length_map, size, made.length_filter]
  · intro m member
    rw [← made.toFinset_eq, List.mem_toFinset]
    exact kept m member

/-- Where a line has a value there are words: without words nothing has a value. -/
theorem isEmpty_eq_false_of_evaluate {texts : List String} {text : String}
    {evaluation : Evaluation}
    (ok : (Session.evaluate lexicon (Session.varsAfter lexicon .empty texts) text).result =
      .ok evaluation) :
    lexicon.isEmpty = false := by
  by_contra empty
  -- Embeddings that are not there have every length, and so would the value.
  have words (length : Nat) : lexicon.Uniform length := by
    have none : lexicon.entries = [] :=
      List.isEmpty_iff.1 (Bool.eq_true_of_not_eq_false empty)
    rw [Catalog.Uniform, none]
    exact List.forall_mem_nil _
  have fits (length : Nat) : evaluation.vector.length = length :=
    Session.length_of_uniform (words length)
      (Session.uniform_varsAfter (words length) Catalog.uniform_empty texts) ok
  exact absurd ((fits 0).symm.trans (fits 1)) (by decide)

/-- Behind any lines of a session over a lexicon of one length, input that has a value is answered
in one of two ways, if there is room for it. An expression was made from the identifiers of the line
that stand for no variable, and its answer lists other words than these; it has no answer if the
number of words that is asked for is too long to be put on record. An assignment was made from those
behind the equals sign, and its answer names the target before it. -/
theorem answer_lists_other_words (words : lexicon.Uniform length) (room : Room) (count : Int)
    (texts : List String) {line : String} {evaluation : Evaluation}
    (input : Text.trim line ∉ ["", "exit", "quit", "help", "vars"])
    (fits : HasRoom room lexicon (Session.varsAfter lexicon .empty texts) (Text.trim line))
    (ok : (Session.evaluate lexicon (Session.varsAfter lexicon .empty texts)
      (Text.trim line)).result = .ok evaluation) :
    let vars := Session.varsAfter lexicon .empty texts
    let result := (answer room lexicon count vars line).result
    (evaluation.assignment = none ∧ IsMadeFrom lexicon vars line.toList evaluation.used ∧
        (count < 10 ^ Decimal.maxDigits → ∃ found lines,
          lexicon.nearest evaluation.vector count evaluation.used = .ok found ∧
            result = .ok ⟨lines, false⟩ ∧
            ListsWithout lexicon count (typedWords vars line.toList) found lines) ∧
        (10 ^ Decimal.maxDigits ≤ count → result = .error .tooManyDigits)) ∨
      ∃ target front body, evaluation.assignment = some target ∧
        line.toList = front ++ '=' :: body ∧ '=' ∉ front ∧ identifiers front = [target] ∧
        IsMadeFrom lexicon vars body evaluation.used ∧
        result = .ok ⟨["  [stored as '" ++ target ++ "']"], false⟩ := by
  intro vars result
  have uniform : vars.Uniform length := Session.uniform_varsAfter words Catalog.uniform_empty texts
  have answered : result = (answerInput lexicon count vars (Text.trim line)).result := by
    unfold result
    rw [answer_of_fits (Command.ofLine_eq_input_iff.2 ⟨input, rfl⟩) fits]
  rw [answered]
  obtain ⟨vector, used, assignment⟩ := evaluation
  -- The shell evaluates the line without its blanks; the identifiers are those of the line itself.
  obtain ⟨rfl, made⟩ | ⟨target, front, body, rfl, whole, first, named, made⟩ :=
    Session.evaluate_used (Session.evaluate_of_trim ok)
  · refine .inl ⟨rfl, made, fun short => ?_, fun long => ?_⟩
    · have fits : vector.length = length := Session.length_of_uniform words uniform ok
      exact exists_lists_of_uniform (fits ▸ words) short ok made
    · obtain ⟨brief, -⟩ | ⟨-, failed⟩ :=
        answerInput_of_uniform words uniform count (Text.trim line)
      · exact absurd ⟨long, isEmpty_eq_false_of_evaluate ok, vector, used, ok⟩ brief
      · exact failed
  · exact .inr ⟨target, front, body, rfl, whole, first, named, made, answerInput_of_assignment ok⟩

/-- In ` Dog + X - dog ` one word is typed twice, and `x` is a variable by then. -/
theorem answer_lists_other_words_shadowed :
    let number := fun bits => [Float32.ofBits bits]
    let lexicon : Lexicon := .ofList
      [("cat", number 0x3F800000), ("dog", number 0x40000000), ("x", number 0x40400000)]
    let vars := Session.varsAfter lexicon .empty ["x = cat"]
    let line := " Dog + X - dog "
    let evaluation : Evaluation := ⟨number 0xBF800000, ["dog"], none⟩
    let result := (answer (some ⟨0, 2⟩) lexicon 5 vars line).result
    (lexicon.Uniform 1 ∧ Text.trim line ∉ ["", "exit", "quit", "help", "vars"] ∧
      HasRoom (some ⟨0, 2⟩) lexicon vars (Text.trim line) ∧
      (Session.evaluate lexicon vars (Text.trim line)).result = .ok evaluation) ∧
    ((evaluation.assignment = none ∧ IsMadeFrom lexicon vars line.toList evaluation.used ∧
        ((5 : Int) < 10 ^ Decimal.maxDigits → ∃ found lines,
          lexicon.nearest evaluation.vector 5 evaluation.used = .ok found ∧
            result = .ok ⟨lines, false⟩ ∧
            ListsWithout lexicon 5 (typedWords vars line.toList) found lines) ∧
        ((10 : Int) ^ Decimal.maxDigits ≤ 5 → result = .error .tooManyDigits)) ∨
      ∃ target front body, evaluation.assignment = some target ∧
        line.toList = front ++ '=' :: body ∧ '=' ∉ front ∧ identifiers front = [target] ∧
        IsMadeFrom lexicon vars body evaluation.used ∧
        result = .ok ⟨["  [stored as '" ++ target ++ "']"], false⟩) := by
  intro number lexicon vars line evaluation result
  have words : lexicon.Uniform 1 := by decide
  have input : Text.trim line ∉ ["", "exit", "quit", "help", "vars"] := by decide
  have fits : HasRoom (some ⟨0, 2⟩) lexicon vars (Text.trim line) := by decide +kernel
  have ok : (Session.evaluate lexicon vars (Text.trim line)).result = .ok evaluation := by
    decide +kernel
  exact ⟨⟨words, input, fits, ok⟩,
    answer_lists_other_words words (some ⟨0, 2⟩) 5 ["x = cat"] input fits ok⟩

end Shell

end WordSpace
