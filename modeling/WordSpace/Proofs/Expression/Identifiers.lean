import WordSpace.Proofs.Expression.Layout

/-!
The identifiers of a text.

They are the longest runs of letters, digits and underscores, in lower case (`identifiers`). In a
text that is laid out from tokens they are the texts of the identifiers among the tokens
(`Token.Laid.identifiers_eq`). So a text that is read as an expression has the words of the
expression for its identifiers, and one that is read as an assignment has the target before the
equals sign and the words of the body behind it (`Statement.identifiers_of_assignment`).
-/

namespace WordSpace.Expression

open Text

/-! ## Runs of characters -/

/-- The identifiers of a text, in lower case. -/
def identifiers (text : List Char) : List String :=
  ((text.splitOnP (!continuesName ·)).filter (!·.isEmpty)).map fun run =>
    String.ofList (run.map Char.toLower)

/-- Where a character cannot stand in an identifier, the identifiers before it and behind it are
apart. -/
theorem identifiers_append_cons {c : Char} (ends : continuesName c = false)
    (front behind : List Char) :
    identifiers (front ++ c :: behind) = identifiers front ++ identifiers behind := by
  have separates : (!continuesName c) = true := by
    rw [ends]
    rfl
  unfold identifiers
  rw [List.splitOnP_append_cons front behind separates, List.filter_append, List.map_append]

theorem identifiers_cons_of_not_continuesName {c : Char} (ends : continuesName c = false)
    (text : List Char) : identifiers (c :: text) = identifiers text :=
  identifiers_append_cons ends [] text

theorem identifiers_eq_singleton {run : List Char} (nonempty : run ≠ [])
    (continues : ∀ c ∈ run, continuesName c = true) :
    identifiers run = [String.ofList (run.map Char.toLower)] := by
  have inside : ∀ c ∈ run, (!continuesName c) = false := by
    intro c member
    rw [continues c member]
    rfl
  unfold identifiers
  rw [List.splitOnP_eq_singleton inside]
  simp [nonempty]

/-- A run of characters is an identifier if it does not go on behind it. -/
theorem identifiers_append_of_head? {run text : List Char} (nonempty : run ≠ [])
    (continues : ∀ c ∈ run, continuesName c = true)
    (ends : ∀ d ∈ text.head?, continuesName d = false) :
    identifiers (run ++ text) = String.ofList (run.map Char.toLower) :: identifiers text := by
  cases text with
  | nil =>
    rw [List.append_nil]
    exact identifiers_eq_singleton nonempty continues
  | cons d rest =>
    rw [identifiers_append_cons (ends d rfl), identifiers_eq_singleton nonempty continues,
      identifiers_cons_of_not_continuesName (ends d rfl)]
    rfl

/-! ## Tokens -/

/-- The texts of the identifiers among some tokens. -/
def Token.names (tokens : List Token) : List String :=
  (tokens.filter (·.kind = .identifier)).map (·.text)

theorem Token.names_append (before behind : List Token) :
    names (before ++ behind) = names before ++ names behind := by
  rw [names, List.filter_append, List.map_append]
  rfl

theorem Token.names_cons_of_identifier {token : Token} (kind : token.kind = .identifier)
    (tokens : List Token) : names (token :: tokens) = token.text :: names tokens := by
  simp [names, kind]

theorem Token.names_cons_of_sign {token : Token} (kind : token.kind ≠ .identifier)
    (tokens : List Token) : names (token :: tokens) = names tokens := by
  simp [names, kind]

/-- The identifiers of a text are those that it is laid out from. -/
theorem Token.Laid.identifiers_eq {tokens : List Token} {text : List Char}
    (laid : Laid tokens text) : identifiers text = names tokens := by
  induction laid with
  | nil => rfl
  | blank blank _ ih =>
    rw [identifiers_cons_of_not_continuesName (continuesName_eq_false_of_isBlank blank), ih]
  | @sign c kind tokens text sign _ ih =>
    have noName : kind ≠ .identifier := fun same =>
      Kind.ofSign?_ne_identifier c (same ▸ sign)
    rw [identifiers_cons_of_not_continuesName (Kind.isBlank_eq_false_of_ofSign? sign).2, ih,
      names_cons_of_sign noName]
  | @name c tail text tokens starts continues ends _ ih =>
    have all : ∀ d ∈ c :: tail, continuesName d = true :=
      List.forall_mem_cons.2 ⟨continuesName_of_startsName starts, continues⟩
    rw [names_cons_of_identifier rfl, ← ih]
    exact identifiers_append_of_head? (List.cons_ne_nil c tail) all ends

/-! ## Phrases -/

namespace Grammar

theorem words_foldLeft (first : Expr) (joins : List (String × Expr)) :
    (foldLeft first joins).words = first.words ++ joins.flatMap (·.2.words) := by
  induction joins generalizing first with
  | nil => simp
  | cons join joins ih =>
    rw [foldLeft_cons, ih, Expr.words, List.flatMap_cons, List.append_assoc]

mutual

theorem Primary.words_eq {tokens : List Token} {e : Expr} :
    Primary tokens e → e.words = Token.names tokens
  | .word kind => by
    rw [Token.names_cons_of_identifier kind]
    rfl
  | .group opening body closing => by
    rw [List.cons_append, Token.names_cons_of_sign (by simp [opening]), Token.names_append,
      Token.names_cons_of_sign (by simp [closing]), Chain.words_eq body]
    exact (List.append_nil _).symm

theorem Joins.words_eq {tokens : List Token} {joins : List (String × Expr)} :
    Joins tokens joins → joins.flatMap (·.2.words) = Token.names tokens
  | .nil => rfl
  | .cons operator operand joins => by
    have noName : ∀ kind : Kind, kind = .plus ∨ kind = .minus → kind ≠ .identifier := by
      rintro _ (rfl | rfl) <;> simp
    rw [List.cons_append, Token.names_cons_of_sign (noName _ operator), Token.names_append,
      List.flatMap_cons, Primary.words_eq operand, Joins.words_eq joins]

theorem Chain.words_eq {tokens : List Token} {e : Expr} :
    Chain tokens e → e.words = Token.names tokens
  | .operands first joins => by
    rw [words_foldLeft, Token.names_append, Primary.words_eq first, Joins.words_eq joins]

end

end Grammar

/-! ## Assignments -/

namespace Token

/-- A text that is laid out from two lists of tokens has a part for each of them. -/
theorem Laid.exists_append {before behind : List Token} {text : List Char}
    (laid : Laid (before ++ behind) text) :
    ∃ front rest, text = front ++ rest ∧ Laid before front ∧ Laid behind rest := by
  generalize whole : before ++ behind = tokens at laid
  induction laid generalizing before with
  | nil =>
    obtain ⟨rfl, rfl⟩ := List.append_eq_nil_iff.1 whole
    exact ⟨[], [], rfl, .nil, .nil⟩
  | @blank c _ _ blank _ ih =>
    obtain ⟨front, rest, rfl, laidFront, laidRest⟩ := ih whole
    exact ⟨c :: front, rest, rfl, .blank blank laidFront, laidRest⟩
  | @sign c kind _ _ sign laid ih =>
    obtain ⟨rfl, rfl⟩ | ⟨before, rfl, more⟩ := List.append_eq_cons_iff.1 whole
    · exact ⟨[], _, rfl, .nil, .sign sign laid⟩
    · obtain ⟨front, rest, rfl, laidFront, laidRest⟩ := ih more.symm
      exact ⟨c :: front, rest, rfl, .sign sign laidFront, laidRest⟩
  | @name c tail _ _ starts continues ends laid ih =>
    obtain ⟨rfl, rfl⟩ | ⟨before, rfl, more⟩ := List.append_eq_cons_iff.1 whole
    · exact ⟨[], _, rfl, .nil, .name starts continues ends laid⟩
    · obtain ⟨front, rest, rfl, laidFront, laidRest⟩ := ih more.symm
      -- What ends the name in the whole text ends it in the front part, unless that stops there.
      refine ⟨c :: (tail ++ front), rest, by simp, .name starts continues ?_ laidFront, laidRest⟩
      intro d first
      exact ends d (List.mem_head?_append_of_mem_head? first)

/-- The text of an equals sign and more tokens is that sign, behind blanks, and the text of the
others. -/
theorem Laid.exists_equals {equals : Token} {tokens : List Token} {text : List Char}
    (kind : equals.kind = .equals) (laid : Laid (equals :: tokens) text) :
    ∃ blanks rest, text = blanks ++ '=' :: rest ∧ (∀ c ∈ blanks, isBlank c = true) ∧
      Laid tokens rest := by
  generalize whole : equals :: tokens = all at laid
  induction laid with
  | nil => cases whole
  | @blank c _ _ blank _ ih =>
    obtain ⟨blanks, rest, rfl, blanksAll, laidRest⟩ := ih whole
    exact ⟨c :: blanks, rest, rfl, List.forall_mem_cons.2 ⟨blank, blanksAll⟩, laidRest⟩
  | @sign c _ _ text sign laid _ =>
    cases whole
    have isEquals : Kind.ofSign? '=' = some .equals := rfl
    rw [← kind] at isEquals
    rw [Kind.ofSign?_inj sign isEquals]
    exact ⟨[], text, rfl, List.forall_mem_nil _, laid⟩
  | name =>
    cases whole
    cases kind

/-- An equals sign in a text is one of the tokens that the text is laid out from. -/
theorem Laid.exists_of_mem_equals {tokens : List Token} {text : List Char} (laid : Laid tokens text)
    (member : '=' ∈ text) : ∃ token ∈ tokens, token.kind = .equals := by
  induction laid with
  | nil => cases member
  | blank blank _ ih =>
    obtain rfl | member := List.mem_cons.1 member
    · cases blank
    · exact ih member
  | sign sign _ ih =>
    obtain rfl | member := List.mem_cons.1 member
    · cases sign
      exact ⟨_, List.mem_cons_self, rfl⟩
    · obtain ⟨token, isToken, kind⟩ := ih member
      exact ⟨token, List.mem_cons_of_mem _ isToken, kind⟩
  | @name c tail _ _ starts continues _ _ ih =>
    rw [← List.cons_append, List.mem_append] at member
    obtain member | member := member
    · have all : ∀ d ∈ c :: tail, continuesName d = true :=
        List.forall_mem_cons.2 ⟨continuesName_of_startsName starts, continues⟩
      cases all '=' member
    · obtain ⟨token, isToken, kind⟩ := ih member
      exact ⟨token, List.mem_cons_of_mem _ isToken, kind⟩

end Token

namespace Statement

theorem identifiers_of_expression {text : String} {e : Expr}
    (parsed : Statement.ofText text = .ok (.expression e)) :
    identifiers text.toList = e.words := by
  obtain ⟨tokens, laid, sentence⟩ := ofText_eq_ok_iff.1 parsed
  cases sentence with
  | expression derived => rw [laid.identifiers_eq, derived.words_eq]

/-- The target of an assignment is what stands before the first equals sign, and the words of its
body are the identifiers behind it. -/
theorem identifiers_of_assignment {text : String} {name : String} {e : Expr}
    (parsed : Statement.ofText text = .ok (.assignment name e)) :
    ∃ front body, text.toList = front ++ '=' :: body ∧ '=' ∉ front ∧
      identifiers front = [name] ∧ identifiers body = e.words := by
  obtain ⟨tokens, laid, sentence⟩ := ofText_eq_ok_iff.1 parsed
  cases sentence with
  | @assignment target equals body _ isName isEquals derived =>
    obtain ⟨front, rest, whole, laidTarget, laidRest⟩ :=
      @Token.Laid.exists_append [target] _ _ laid
    obtain ⟨blanks, body, rfl, blanksAll, laidBody⟩ := laidRest.exists_equals isEquals
    have laidFront := laidTarget.append_blanks blanksAll
    refine ⟨front ++ blanks, body, by rw [whole, List.append_assoc], ?_, ?_, ?_⟩
    · intro member
      obtain ⟨token, isToken, kind⟩ := laidFront.exists_of_mem_equals member
      cases List.mem_singleton.1 isToken
      rw [isName] at kind
      cases kind
    · rw [laidFront.identifiers_eq, Token.names_cons_of_identifier isName]
      rfl
    · rw [laidBody.identifiers_eq, derived.words_eq]

end Statement

end WordSpace.Expression
