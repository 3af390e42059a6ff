import WordSpace.Proofs.Expression.Layout
import WordSpace.Proofs.Expression.Printing

/-!
Spellings: tokens in letters of any case.

The tokens that come from texts are signs with their own text and identifiers that are names in
lower case (`Token.Proper`). A text that shows such tokens is laid out from them, unless two of them
are identifiers side by side (`Token.Spaced.laid`), and a text that is laid out from tokens shows
them (`Token.Laid.spaced`).
-/

namespace WordSpace.Expression

open Text

/-! ## Letters of any case -/

theorem isDigit_eq_false_of_isAlpha {c : Char} (letter : c.isAlpha = true) :
    c.isDigit = false := by
  simp only [Char.isAlpha, Char.isUpper, Char.isLower, Char.isDigit, Bool.or_eq_true,
    Bool.and_eq_true, decide_eq_true_eq, Bool.and_eq_false_iff, decide_eq_false_iff_not, ge_iff_le,
    UInt32.le_iff_toNat_le] at letter ⊢
  simp at letter ⊢
  omega

/-- A character is its own lower case, unless it is a letter and its lower case is one too. -/
theorem toLower_cases (c : Char) :
    c.toLower = c ∨ (c.isAlpha = true ∧ c.toLower.isAlpha = true) := by
  cases upper : c.isUpper with
  | false => exact .inl (Char.toLower_eq_of_not_isUpper (by simpa using upper))
  | true =>
    have letter : c.isAlpha = true := by simp [Char.isAlpha, upper]
    exact .inr ⟨letter, by rw [Char.isAlpha_toLower_eq_isAlpha, letter]⟩

theorem toLower_eq_iff {c d : Char} (noLetter : d.isAlpha = false) : c.toLower = d ↔ c = d := by
  rcases toLower_cases c with same | ⟨letter, lower⟩
  · rw [same]
  · refine iff_of_false ?_ ?_
    · intro same
      rw [← same, lower] at noLetter
      cases noLetter
    · intro same
      rw [← same, letter] at noLetter
      cases noLetter

theorem toLower_eq_iff_of_ofSign? {c d : Char} {kind : Kind} (sign : Kind.ofSign? d = some kind) :
    c.toLower = d ↔ c = d := by
  have outside := (Kind.isBlank_eq_false_of_ofSign? sign).2
  simp only [continuesName, Char.isAlphanum, Bool.or_eq_false_iff] at outside
  exact toLower_eq_iff outside.1.1

theorem isDigit_toLower (c : Char) : c.toLower.isDigit = c.isDigit := by
  rcases toLower_cases c with same | ⟨letter, lower⟩
  · rw [same]
  · rw [isDigit_eq_false_of_isAlpha letter, isDigit_eq_false_of_isAlpha lower]

theorem startsLowerName_toLower (c : Char) : startsLowerName c.toLower = startsName c := by
  have underscore : c.toLower = '_' ↔ c = '_' := toLower_eq_iff rfl
  rw [Bool.eq_iff_iff]
  simp only [startsLowerName, startsName, Char.isLower_toLower_eq_isAlpha, Bool.or_eq_true,
    beq_iff_eq, underscore]

theorem continuesLowerName_toLower (c : Char) :
    continuesLowerName c.toLower = continuesName c := by
  have underscore : c.toLower = '_' ↔ c = '_' := toLower_eq_iff rfl
  rw [Bool.eq_iff_iff]
  simp only [continuesLowerName, continuesName, Char.isAlphanum, Char.isLower_toLower_eq_isAlpha,
    isDigit_toLower, Bool.or_eq_true, beq_iff_eq, underscore]

/-- The spellings of a name in lower case are those that can be read as a name. -/
theorem isLowerName_ofList_map_toLower (spelling : List Char) :
    isLowerName (String.ofList (spelling.map Char.toLower)) = isIdentifier spelling := by
  cases spelling with
  | nil => simp [isLowerName, isIdentifier]
  | cons c tail =>
    simp [isLowerName, isIdentifier, startsLowerName_toLower, continuesLowerName_toLower,
      Function.comp_def]

theorem toLower_of_continuesLowerName {c : Char} (lower : continuesLowerName c = true) :
    c.toLower = c := by
  rcases toLower_cases c with same | ⟨letter, -⟩
  · exact same
  · have noDigit := isDigit_eq_false_of_isAlpha letter
    simp only [continuesLowerName, noDigit, Bool.or_false, Bool.or_eq_true, beq_iff_eq] at lower
    rcases lower with lower | rfl
    · exact Char.toLower_eq_of_not_isUpper (Char.not_isUpper_of_isLower lower)
    · rfl

theorem continuesLowerName_of_mem {text : String} (lower : isLowerName text = true) :
    ∀ c ∈ text.toList, continuesLowerName c = true := by
  unfold isLowerName at lower
  split at lower
  · cases lower
  · rename_i c tail characters
    rcases Bool.and_eq_true_iff.1 lower with ⟨starts, continues⟩
    rw [characters, List.forall_mem_cons]
    refine ⟨?_, List.all_eq_true.1 continues⟩
    simp only [startsLowerName, continuesLowerName, Bool.or_eq_true] at starts ⊢
    tauto

/-! ## Tokens that a text can have -/

namespace Token

/-- A sign with its own text, or an identifier whose text is a name in lower case. -/
inductive Proper : Token → Prop
  | sign {c : Char} {kind : Kind} : Kind.ofSign? c = some kind → Proper ⟨kind, c.toString⟩
  | name {text : String} : isLowerName text = true → Proper ⟨.identifier, text⟩

/-- There is only one token for each kind of sign. -/
theorem Proper.eq_sign {token : Token} {c : Char} (proper : token.Proper)
    (sign : Kind.ofSign? c = some token.kind) : token = ⟨token.kind, c.toString⟩ := by
  cases proper with
  | sign other => rw [Kind.ofSign?_inj sign other]
  | name => exact absurd sign (Kind.ofSign?_ne_identifier c)

theorem Proper.isLowerName {token : Token} (proper : token.Proper)
    (kind : token.kind = .identifier) : Expression.isLowerName token.text = true := by
  cases proper with
  | sign sign =>
    cases kind
    exact absurd sign (Kind.ofSign?_ne_identifier _)
  | name lower => exact lower

theorem Proper.eq_ofOperator {token : Token} (proper : token.Proper)
    (kind : token.kind = .plus ∨ token.kind = .minus) :
    token = .ofOperator token.text ∧ (token.text = "+" ∨ token.text = "-") := by
  rcases kind with kind | kind
  · rw [proper.eq_sign (c := '+') (by rw [kind]; rfl), kind]
    exact ⟨rfl, .inl rfl⟩
  · rw [proper.eq_sign (c := '-') (by rw [kind]; rfl), kind]
    exact ⟨rfl, .inr rfl⟩

theorem proper_ofOperator {operator : String}
    (isSign : operator = "+" ∨ operator = "-") : (Token.ofOperator operator).Proper := by
  rcases isSign with rfl | rfl
  · exact .sign (c := '+') rfl
  · exact .sign (c := '-') rfl

theorem Laid.proper {tokens : List Token} {text : List Char} (laid : Laid tokens text) :
    ∀ token ∈ tokens, token.Proper := by
  induction laid with
  | nil => simp
  | blank _ _ ih => exact ih
  | sign sign _ ih => exact List.forall_mem_cons.2 ⟨.sign sign, ih⟩
  | @name c tail _ _ starts continues _ _ ih =>
    have identifier := isIdentifier_iff.2 ⟨c, tail, rfl, starts, continues⟩
    rw [← isLowerName_ofList_map_toLower] at identifier
    exact List.forall_mem_cons.2 ⟨.name identifier, ih⟩

theorem Proper.map_toLower {token : Token} (proper : token.Proper) :
    token.text.toList.map Char.toLower = token.text.toList := by
  cases proper with
  | @sign c kind sign =>
    have self : c.toLower = c := (toLower_eq_iff_of_ofSign? sign).2 rfl
    simp [self]
  | @name text lower =>
    have self (c : Char) (member : c ∈ text.toList) : c.toLower = id c :=
      toLower_of_continuesLowerName (continuesLowerName_of_mem lower c member)
    exact (List.map_congr_left self).trans (List.map_id _)

/-! ## Shown tokens and laid out tokens -/

theorem Spaced.blank {c : Char} {tokens : List Token} {text : List Char} (blank : isBlank c = true)
    (spaced : Spaced tokens text) : Spaced tokens (c :: text) := by
  cases spaced with
  | nil blanks => exact .nil (List.forall_mem_cons.2 ⟨blank, blanks⟩)
  | cons blanks spells spaced =>
    exact .cons (List.forall_mem_cons.2 ⟨blank, blanks⟩) spells spaced

theorem Spaced.token {token : Token} {tokens : List Token} {spelling text : List Char}
    (spells : spelling.map Char.toLower = token.text.toList) (spaced : Spaced tokens text) :
    Spaced (token :: tokens) (spelling ++ text) := by
  have spaced := Spaced.cons (List.forall_mem_nil _) spells spaced
  rwa [List.nil_append] at spaced

theorem Laid.spaced {tokens : List Token} {text : List Char} (laid : Laid tokens text) :
    Spaced tokens text := by
  induction laid with
  | nil => exact .nil (List.forall_mem_nil _)
  | blank blank _ ih => exact ih.blank blank
  | @sign c kind _ _ sign _ ih =>
    have self : c.toLower = c := (toLower_eq_iff_of_ofSign? sign).2 rfl
    have spells : [c].map Char.toLower = (Token.mk kind c.toString).text.toList := by simp [self]
    exact ih.token spells
  | @name c tail _ _ _ _ _ _ ih =>
    have spells : (c :: tail).map Char.toLower = (ofName (c :: tail)).text.toList :=
      String.toList_ofList.symm
    exact ih.token spells

/-- No two identifiers stand next to each other. -/
def Apart (tokens : List Token) : Prop :=
  tokens.IsChain fun a b => ¬(a.kind = .identifier ∧ b.kind = .identifier)

/-- Signs are spelled in one way only. -/
theorem spelling_eq_of_sign {c : Char} {kind : Kind} {spelling : List Char}
    (sign : Kind.ofSign? c = some kind)
    (spells : spelling.map Char.toLower = c.toString.toList) : spelling = [c] := by
  have spells : spelling.map Char.toLower = [c] := by simpa using spells
  rcases List.map_eq_singleton_iff.1 spells with ⟨d, rfl, lower⟩
  rw [(toLower_eq_iff_of_ofSign? sign).1 lower]

/-- A name before a text ends there, unless an identifier comes first in the text. -/
theorem Spaced.ends {tokens : List Token} {text : List Char} (spaced : Spaced tokens text)
    (noName : ∀ token ∈ tokens.head?, token.Proper ∧ token.kind ≠ .identifier) :
    ∀ d ∈ text.head?, continuesName d = false := by
  cases spaced with
  | nil blanks =>
    intro d first
    exact continuesName_eq_false_of_isBlank (blanks d (List.mem_of_mem_head? first))
  | @cons token tokens blanks spelling text all spells _ =>
    cases blanks with
    | cons c blanks =>
      intro d first
      cases first
      exact continuesName_eq_false_of_isBlank (all _ List.mem_cons_self)
    | nil =>
      rcases noName token rfl with ⟨proper, other⟩
      cases proper with
      | sign sign =>
        rw [spelling_eq_of_sign sign spells]
        intro d first
        cases first
        exact (Kind.isBlank_eq_false_of_ofSign? sign).2
      | name => exact absurd rfl other

theorem Spaced.laid {tokens : List Token} {text : List Char} (spaced : Spaced tokens text)
    (proper : ∀ token ∈ tokens, token.Proper) (apart : Apart tokens) : Laid tokens text := by
  induction spaced with
  | nil blanks =>
    have laid := Laid.nil.blanks blanks
    rwa [List.append_nil] at laid
  | @cons token tokens blanks spelling text all spells spaced ih =>
    rcases List.forall_mem_cons.1 proper with ⟨first, others⟩
    have laid := ih others apart.tail
    refine Laid.blanks all ?_
    cases first with
    | sign sign =>
      rw [spelling_eq_of_sign sign spells]
      exact .sign sign laid
    | @name name lower =>
      have name_eq : name = String.ofList (spelling.map Char.toLower) := by
        rw [spells, String.ofList_toList]
      rw [name_eq] at lower ⊢
      rw [isLowerName_ofList_map_toLower] at lower
      rcases isIdentifier_iff.1 lower with ⟨c, tail, rfl, starts, continues⟩
      refine .name starts continues (spaced.ends fun token next => ?_) laid
      rcases List.head?_eq_some_iff.1 next with ⟨rest, rfl⟩
      exact ⟨others token List.mem_cons_self, fun identifier =>
        (List.isChain_cons_cons.1 apart).1 ⟨rfl, identifier⟩⟩

/-- Tokens that a text can have are shown by their own texts. -/
theorem spaced_flatMap {tokens : List Token} (proper : ∀ token ∈ tokens, token.Proper) :
    Spaced tokens (tokens.flatMap (·.text.toList)) := by
  induction tokens with
  | nil => exact .nil (List.forall_mem_nil _)
  | cons token tokens ih =>
    rcases List.forall_mem_cons.1 proper with ⟨first, others⟩
    exact (ih others).token first.map_toLower

end Token

end WordSpace.Expression
