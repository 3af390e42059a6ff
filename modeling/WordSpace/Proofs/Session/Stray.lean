import WordSpace.Proofs.Expression.Blame
import WordSpace.Proofs.Expression.Spelling
import WordSpace.Proofs.Session.Lengths

/-!
Stray characters: where a text cannot be cut into tokens.

A character strays if it has a place in no text of tokens, or if it is a digit with no character of
a name in front of it (`Strays`). A text of tokens has no stray character (`Token.Laid.not_strays`),
and where scanning fails the text before the place is one of tokens (`Token.exists_of_scanFrom`). So
scanning fails at the first stray character, and reading and evaluation fail with it, whatever else
is wrong with the text (`Session.evaluate_blames_first_stray`).
-/

namespace WordSpace

namespace Expression

open Text

/-! ## Characters that stray -/

/-- Whether a character starts no token behind the text that is before it: it is neither blank nor a
sign nor one of a name, or it is a digit and none of a name comes right before it. -/
def Strays (before : List Char) (c : Char) : Prop :=
  (isBlank c = false ∧ c ∉ ['+', '-', '=', '(', ')'] ∧ continuesName c = false) ∨
    (c.isDigit = true ∧ ∀ d ∈ before.getLast?, continuesName d = false)

/-- The stray character at a place of a text. -/
def IsStrayAt (text : List Char) (place : Nat) (c : Char) : Prop :=
  text[place]? = some c ∧ Strays (text.take place) c

/-- The stray character of a text that comes before all others. -/
def IsFirstStray (text : List Char) (stray : StrayCharacter) : Prop :=
  IsStrayAt text stray.position stray.char ∧
    ∀ place < stray.position, ∀ c, ¬IsStrayAt text place c

theorem continuesName_of_isDigit {c : Char} (digit : c.isDigit = true) :
    continuesName c = true := by
  simp [continuesName, Char.isAlphanum, digit]

theorem isDigit_eq_false_of_startsName {c : Char} (starts : startsName c = true) :
    c.isDigit = false := by
  simp only [startsName, Bool.or_eq_true, beq_iff_eq] at starts
  rcases starts with letter | rfl
  · exact isDigit_eq_false_of_isAlpha letter
  · rfl

theorem ofSign?_eq_none_iff {c : Char} :
    Kind.ofSign? c = none ↔ c ∉ ['+', '-', '=', '(', ')'] := by
  unfold Kind.ofSign?
  split <;> simp_all

/-- What strays behind a text strays behind an end of it, where less comes before. -/
theorem Strays.of_append (first : List Char) {before : List Char} {c : Char}
    (strays : Strays (first ++ before) c) : Strays before c := by
  rcases strays with foreign | ⟨digit, apart⟩
  · exact .inl foreign
  · refine .inr ⟨digit, fun d last => apart d ?_⟩
    rw [List.getLast?_append, last]
    rfl

theorem Strays.append (first : List Char) {before : List Char} {c : Char} (strays : Strays before c)
    (apart : before = [] → c.isDigit = true → ∀ d ∈ first.getLast?, continuesName d = false) :
    Strays (first ++ before) c := by
  rcases strays with foreign | ⟨digit, alone⟩
  · exact .inl foreign
  · refine .inr ⟨digit, fun d last => ?_⟩
    rw [List.getLast?_append] at last
    cases before with
    | nil => exact apart rfl digit d last
    | cons b before =>
      rw [List.getLast?_cons] at last
      exact alone d (by rw [List.getLast?_cons]; exact last)

theorem not_strays_of_isBlank {before : List Char} {c : Char} (blank : isBlank c = true) :
    ¬Strays before c := by
  rintro (⟨solid, -⟩ | ⟨digit, -⟩)
  · rw [blank] at solid
    cases solid
  · rw [isBlank_eq_false_of_continuesName (continuesName_of_isDigit digit)] at blank
    cases blank

theorem not_strays_of_ofSign? {before : List Char} {c : Char} {kind : Kind}
    (sign : Kind.ofSign? c = some kind) : ¬Strays before c := by
  rintro (⟨-, noSign, -⟩ | ⟨digit, -⟩)
  · rw [ofSign?_eq_none_iff.2 noSign] at sign
    cases sign
  · have outside := (Kind.isBlank_eq_false_of_ofSign? sign).2
    rw [continuesName_of_isDigit digit] at outside
    cases outside

/-- A character of a name does not stray: it is the first one, or one of the name is before it. -/
theorem not_strays_of_name {name before after : List Char} {c : Char}
    (identifier : isIdentifier name = true) (inside : name = before ++ c :: after) :
    ¬Strays before c := by
  obtain ⟨first, tail, whole, starts, continues⟩ := isIdentifier_iff.1 identifier
  have all : ∀ d ∈ name, continuesName d = true := by
    rw [whole]
    exact List.forall_mem_cons.2 ⟨continuesName_of_startsName starts, continues⟩
  rintro (⟨-, -, outside⟩ | ⟨digit, alone⟩)
  · rw [all c (by simp [inside])] at outside
    cases outside
  · cases last : before.getLast? with
    | none =>
      rw [List.getLast?_eq_none_iff.1 last, whole, List.nil_append] at inside
      cases inside
      rw [isDigit_eq_false_of_startsName starts] at digit
      cases digit
    | some d =>
      have member : d ∈ name := by
        rw [inside]
        exact List.mem_append_left _ (List.mem_of_mem_getLast? last)
      have stops := alone d last
      rw [all d member] at stops
      cases stops

/-! ## Texts of tokens -/

namespace Token

/-- No character of a text of tokens strays. -/
theorem Laid.not_strays {tokens : List Token} {text before after : List Char} {c : Char}
    (laid : Laid tokens text) (whole : text = before ++ c :: after) : ¬Strays before c := by
  induction laid generalizing before with
  | nil => simp at whole
  | @blank b tokens text blank _ ih =>
    cases before with
    | nil =>
      cases whole
      exact not_strays_of_isBlank blank
    | cons d before =>
      intro strays
      exact ih (List.cons.inj whole).2 (Strays.of_append [d] strays)
  | @sign s kind tokens text sign _ ih =>
    cases before with
    | nil =>
      cases whole
      exact not_strays_of_ofSign? sign
    | cons d before =>
      intro strays
      exact ih (List.cons.inj whole).2 (Strays.of_append [d] strays)
  | @name s tail text tokens starts continues ends _ ih =>
    have identifier := isIdentifier_iff.2 ⟨s, tail, rfl, starts, continues⟩
    rw [← List.cons_append] at whole
    rcases List.append_eq_append_iff.1 whole with
      ⟨rest, before_eq, text_eq⟩ | ⟨rest, name_eq, behind_eq⟩
    · rw [before_eq]
      exact fun strays => ih text_eq (strays.of_append _)
    · cases rest with
      | nil =>
        intro strays
        have strays : Strays (before ++ []) c := by rwa [List.append_nil]
        have whole : text = [] ++ c :: after := behind_eq.symm
        exact ih whole (strays.of_append before)
      | cons d rest =>
        obtain ⟨rfl, -⟩ := List.cons.inj behind_eq
        exact not_strays_of_name identifier name_eq

theorem eq_error_of_map_eq_error {ε α β : Type} {f : α → β} {x : Except ε α} {error : ε}
    (failed : f <$> x = .error error) : x = .error error := by
  cases x with
  | error other =>
    cases failed
    rfl
  | ok value => cases failed

/-- Where scanning fails there is a stray character, and the text before it is one of tokens. -/
theorem exists_of_scanFrom {position : Nat} {text : List Char} {stray : StrayCharacter}
    (failed : scanFrom position text = .error stray) :
    ∃ before after tokens, text = before ++ stray.char :: after ∧
      stray.position = position + before.length ∧ Laid tokens before ∧
      Strays before stray.char := by
  fun_induction scanFrom position text with
  | case1 position => cases failed
  | case2 position c rest blank ih =>
    obtain ⟨before, after, tokens, rfl, place, laid, strays⟩ := ih failed
    refine ⟨c :: before, after, tokens, rfl, ?_, .blank blank laid, ?_⟩
    · rw [place, List.length_cons]
      omega
    · refine strays.append [c] fun _ _ d last => ?_
      cases last
      exact continuesName_eq_false_of_isBlank blank
  | case3 position c rest solid kind sign ih =>
    obtain ⟨before, after, tokens, rfl, place, laid, strays⟩ := ih (eq_error_of_map_eq_error failed)
    refine ⟨c :: before, after, _, rfl, ?_, .sign sign laid, ?_⟩
    · rw [place, List.length_cons]
      omega
    · refine strays.append [c] fun _ _ d last => ?_
      cases last
      exact (Kind.isBlank_eq_false_of_ofSign? sign).2
  | case4 position c rest solid noSign starts tail ih =>
    obtain ⟨before, after, tokens, left, place, laid, strays⟩ :=
      ih (eq_error_of_map_eq_error failed)
    have ends : ∀ d ∈ (before ++ stray.char :: after).head?, continuesName d = false := by
      intro d first
      have stops := List.head?_dropWhile_not continuesName rest
      rw [left, first] at stops
      exact stops
    have continues (d : Char) (member : d ∈ tail) : continuesName d = true :=
      List.mem_takeWhile_imp member
    refine ⟨c :: (tail ++ before), after, _, ?_, ?_, .name starts continues ?_ laid, ?_⟩
    · rw [List.cons_append, List.append_assoc, ← left, List.takeWhile_append_dropWhile]
    · rw [place, List.length_cons, List.length_append]
      omega
    · intro d first
      cases before with
      | nil => cases first
      | cons => exact ends d first
    · rw [← List.cons_append]
      refine strays.append _ fun empty digit => ?_
      subst empty
      have stops := ends stray.char rfl
      rw [continuesName_of_isDigit digit] at stops
      cases stops
  | case5 position c rest solid noSign noStart =>
    cases failed
    refine ⟨[], rest, [], rfl, rfl, .nil, ?_⟩
    cases continues : continuesName c with
    | false => exact .inl ⟨Bool.eq_false_iff.2 solid, ofSign?_eq_none_iff.1 noSign, continues⟩
    | true =>
      refine .inr ⟨?_, by simp⟩
      simp only [startsName, continuesName, Char.isAlphanum, Bool.or_eq_true, not_or] at *
      tauto

end Token

/-! ## The first stray character -/

theorem isStrayAt_iff {text : List Char} {place : Nat} {c : Char} :
    IsStrayAt text place c ↔
      ∃ before after, text = before ++ c :: after ∧ before.length = place ∧ Strays before c := by
  constructor
  · rintro ⟨found, strays⟩
    obtain ⟨inside, rfl⟩ := List.getElem?_eq_some_iff.1 found
    refine ⟨text.take place, text.drop (place + 1), ?_, ?_, strays⟩
    · rw [← List.drop_eq_getElem_cons inside, List.take_append_drop]
    · rw [List.length_take]
      omega
  · rintro ⟨before, after, rfl, rfl, strays⟩
    refine ⟨by simp, ?_⟩
    rwa [List.take_left]

/-- There is one first stray character at most. -/
theorem IsFirstStray.unique {text : List Char} {a b : StrayCharacter} (first : IsFirstStray text a)
    (other : IsFirstStray text b) : a = b := by
  rcases a with ⟨c, p⟩
  rcases b with ⟨d, q⟩
  have place : p = q := by
    by_contra apart
    rcases Nat.lt_or_gt_of_ne apart with less | less
    · exact other.2 p less c first.1
    · exact first.2 q less d other.1
  subst place
  have char := first.1.1.symm.trans other.1.1
  cases char
  rfl

namespace Token

theorem not_isStrayAt_of_scan {text : String} {tokens : List Token}
    (scanned : scan text = .ok tokens) (place : Nat) (c : Char) :
    ¬IsStrayAt text.toList place c := by
  rw [isStrayAt_iff]
  rintro ⟨before, after, whole, -, strays⟩
  exact (scan_eq_ok_iff.1 scanned).not_strays whole strays

/-- Scanning fails at the first stray character, and the text before it is one of tokens. -/
theorem isFirstStray_of_scan {text : String} {stray : StrayCharacter}
    (failed : scan text = .error stray) :
    IsFirstStray text.toList stray ∧
      ∃ tokens, scan (String.ofList (text.toList.take stray.position)) = .ok tokens := by
  obtain ⟨before, after, tokens, whole, place, laid, strays⟩ := exists_of_scanFrom failed
  rw [Nat.zero_add] at place
  have prefix_eq : text.toList.take stray.position = before := by
    rw [whole, place, List.take_left]
  refine ⟨⟨isStrayAt_iff.2 ⟨before, after, whole, place.symm, strays⟩, ?_⟩, tokens, ?_⟩
  · -- An earlier stray character would stray in the text of tokens.
    intro earlier less c early
    have found := early.1
    have strays := early.2
    rw [whole, List.getElem?_append_left (place ▸ less)] at found
    rw [whole, List.take_append_of_le_length (Nat.le_of_lt (place ▸ less))] at strays
    obtain ⟨front, back, split, -, strays⟩ := isStrayAt_iff.1 ⟨found, strays⟩
    exact laid.not_strays split strays
  · rw [scan_eq_ok_iff, String.toList_ofList, prefix_eq]
    exact laid

theorem scan_eq_error_iff {text : String} {stray : StrayCharacter} :
    scan text = .error stray ↔ IsFirstStray text.toList stray := by
  refine ⟨fun failed => (isFirstStray_of_scan failed).1, fun first => ?_⟩
  cases scanned : scan text with
  | ok tokens => exact absurd first.1 (not_isStrayAt_of_scan scanned _ _)
  | error other => rw [first.unique (isFirstStray_of_scan scanned).1]

end Token

/-! ## Reading and evaluation -/

/-- Tokens that were found are never blamed for a stray character. -/
theorem readWhole_result_ne_strayCharacter (tokens : List Token) (stray : StrayCharacter) :
    (readWhole tokens).result ≠ .error (.strayCharacter stray) := by
  obtain ⟨front, body, rfl, head, plain⟩ := exists_head tokens
  obtain ⟨used, rest, stop, rfl, run, stuck⟩ := ReadState.exists_stop .initial body
  cases rest with
  | cons token more =>
    rw [head.readWhole_of_stuck plain run (stuck token more rfl)]
    simp [Reading.result]
  | nil =>
    rw [List.append_nil] at plain ⊢
    by_cases empty : front ++ used = []
    · simp [empty, readWhole, readStatement, Reading.result]
    cases complete : stop.complete? with
    | none =>
      rw [head.readWhole_of_incomplete plain run complete empty]
      simp [Reading.result]
    | some e =>
      have reading : readExpression used = _ := ReadState.read_of_after? run
      rw [complete] at reading
      obtain ⟨s, sentence⟩ := head.isSentence (readExpression_eq_done_iff.1 reading)
      rw [readWhole_result_eq_ok_iff.2 sentence]
      simp

/-- Reading a text fails with a stray character if scanning it does, whatever tokens are before. -/
theorem Statement.ofText_eq_strayCharacter_iff {text : String} {stray : StrayCharacter} :
    Statement.ofText text = .error (.strayCharacter stray) ↔ Token.scan text = .error stray := by
  rw [Statement.ofText]
  cases Token.scan text with
  | error other => simp
  | ok tokens => exact iff_of_false (readWhole_result_ne_strayCharacter tokens stray) (by simp)

end Expression

open Expression

/-- An expression that was read is never blamed for what reading is blamed for. -/
theorem Scope.eval_ne_parse (scope : Scope) (e : Expr) (error : ParseError) :
    scope.eval e ≠ .error (.input (.parse error)) := by
  intro failed
  have outcome := scope.eval_outcomeBy e
  rw [failed, Expr.outcomeBy] at outcome
  cases fault : e.postorder.findSome? (Expr.fault? scope.lengthOf) with
  | none =>
    rw [fault] at outcome
    cases outcome
  | some other =>
    rw [fault] at outcome
    cases outcome
    obtain ⟨part, -, fault⟩ := List.exists_of_findSome?_eq_some fault
    cases part with
    | word name =>
      simp only [Expr.fault?] at fault
      split at fault
      · cases fault
      · split at fault <;> cases fault
    | binary operator left right =>
      simp only [Expr.fault?] at fault
      split at fault <;> cases fault

namespace Session

variable {lexicon : Lexicon} {vars : Variables}

theorem evaluate_result_eq_parse_iff {text : String} {error : ParseError} :
    (evaluate lexicon vars text).result = .error (.input (.parse error)) ↔
      Statement.ofText text = .error error := by
  cases parsed : Statement.ofText text with
  | error other =>
    rw [evaluate_result_of_not_parsed lexicon vars parsed]
    simp
  | ok s =>
    rw [evaluate_result_of_parsed lexicon vars parsed, Scope.evalStatement]
    refine iff_of_false ?_ (by simp)
    intro failed
    cases value : Scope.eval ⟨lexicon, vars⟩ s.body with
    | ok value =>
      rw [value] at failed
      cases failed
    | error other =>
      rw [value] at failed
      cases failed
      exact Scope.eval_ne_parse _ _ _ value

/-- Scanning, reading and evaluation fail with a stray character if and only if it is the first one
of the text. What is before it can be cut into tokens, and so can all of a text without stray
characters. -/
theorem evaluate_blames_first_stray (lexicon : Lexicon) (vars : Variables) (text : String)
    (stray : StrayCharacter) :
    (Token.scan text = .error stray ↔ IsFirstStray text.toList stray) ∧
      (Statement.ofText text = .error (.strayCharacter stray) ↔ IsFirstStray text.toList stray) ∧
      ((evaluate lexicon vars text).result = .error (.input (.parse (.strayCharacter stray))) ↔
        IsFirstStray text.toList stray) ∧
      (IsFirstStray text.toList stray →
        ∃ tokens, Token.scan (String.ofList (text.toList.take stray.position)) = .ok tokens) ∧
      ((∀ place c, ¬IsStrayAt text.toList place c) → ∃ tokens, Token.scan text = .ok tokens) := by
  have scanned : Token.scan text = .error stray ↔ _ := Token.scan_eq_error_iff
  have read := Statement.ofText_eq_strayCharacter_iff.trans scanned
  refine ⟨scanned, read, evaluate_result_eq_parse_iff.trans read, ?_, ?_⟩
  · intro first
    exact (Token.isFirstStray_of_scan (scanned.2 first)).2
  · intro clean
    cases outcome : Token.scan text with
    | ok tokens => exact ⟨tokens, rfl⟩
    | error other =>
      obtain ⟨first, -⟩ := Token.isFirstStray_of_scan outcome
      exact absurd first.1 (clean _ _)

/-- In `a1 - - 2b` the digit behind the name is none that strays, and the one that does is blamed
before the second sign is. -/
theorem evaluate_blames_first_stray_digit :
    let text := "a1 - - 2b"
    IsFirstStray text.toList ⟨'2', 7⟩ ∧
      (evaluate .empty .empty text).result =
        .error (.input (.parse (.strayCharacter ⟨'2', 7⟩))) ∧
      ∃ tokens, Token.scan (String.ofList (text.toList.take 7)) = .ok tokens := by
  intro text
  have scanned : Token.scan text = .error ⟨'2', 7⟩ := by cbv
  obtain ⟨scan, -, evaluated, before, -⟩ :=
    evaluate_blames_first_stray .empty .empty text ⟨'2', 7⟩
  have first := scan.1 scanned
  exact ⟨first, evaluated.2 first, before first⟩

end Session

end WordSpace
