import WordSpace.Proofs.Expression.Layout

/-!
Segmentations: texts cut into the spellings of tokens.

A segmentation gives each token the characters that spell it and the blanks behind them, and has
blanks before the first token. Only where two identifiers follow each other does there have to be a
blank. Scanning finds the tokens of a text if and only if the text has a segmentation into them
(`Token.scan_eq_ok_iff_exists_segmentation`), so a text has segmentations into one list of tokens at
most. `Token.Laid` builds the texts of tokens from the right, one character of blanks or one token
at a time; here all parts of a text are named at once.
-/

namespace WordSpace.Expression.Token

open Text

/-! ## Spellings -/

/-- The characters spell the token: one character spells a sign, and an identifier is spelled in
letters of any case. -/
inductive Spells : List Char → Token → Prop
  | sign {c : Char} {kind : Kind} : Kind.ofSign? c = some kind → Spells [c] ⟨kind, c.toString⟩
  | name {spelling : List Char} : isIdentifier spelling = true →
    Spells spelling ⟨.identifier, String.ofList (spelling.map Char.toLower)⟩

/-- The first character of a spelling tells whether it is one of an identifier. -/
theorem Spells.exists_cons {spelling : List Char} {token : Token} (spells : Spells spelling token) :
    ∃ c tail, spelling = c :: tail ∧ (continuesName c = true ↔ token.kind = .identifier) := by
  cases spells with
  | @sign c kind sign =>
    have outside := (Kind.isBlank_eq_false_of_ofSign? sign).2
    have other : kind ≠ .identifier := by
      rintro rfl
      exact Kind.ofSign?_ne_identifier c sign
    exact ⟨c, [], rfl, by simp [outside, other]⟩
  | name identifier =>
    obtain ⟨c, tail, rfl, starts, -⟩ := isIdentifier_iff.1 identifier
    exact ⟨c, tail, rfl, by simp [continuesName_of_startsName starts]⟩

/-! ## Segmentations -/

/-- A token in a text: the characters that spell it, and the blanks behind them. -/
structure Segment where
  token : Token
  spelling : List Char
  behind : List Char
  spells : Spells spelling token
  blank : ∀ c ∈ behind, isBlank c = true

namespace Segment

/-- The part of a text that a segment takes up. -/
def text (segment : Segment) : List Char := segment.spelling ++ segment.behind

/-- Whether two segments may follow each other: identifiers have a blank between them. -/
def Apart (first second : Segment) : Prop :=
  first.token.kind = .identifier → second.token.kind = .identifier → first.behind ≠ []

end Segment

/-- A text cut into blanks, and tokens with the blanks behind them. -/
structure Segmentation where
  before : List Char
  segments : List Segment
  blank : ∀ c ∈ before, isBlank c = true
  apart : segments.IsChain Segment.Apart

namespace Segmentation

/-- The text that is cut. -/
def text (cut : Segmentation) : List Char := cut.before ++ cut.segments.flatMap Segment.text

/-- The tokens that it is cut into. -/
def tokens (cut : Segmentation) : List Token := cut.segments.map Segment.token

end Segmentation

/-! ## From segmentations to layouts -/

/-- What is behind a name does not go on with it, if the next segment is apart from the name. -/
theorem Segment.ends {first : Segment} {segments : List Segment}
    (identifier : first.token.kind = .identifier)
    (apart : ∀ second ∈ segments.head?, first.Apart second) :
    ∀ d ∈ (first.behind ++ segments.flatMap Segment.text).head?, continuesName d = false := by
  intro d next
  cases behind : first.behind with
  | cons c blanks =>
    rw [behind] at next
    cases next
    have blank := first.blank d (behind ▸ List.mem_cons_self)
    exact continuesName_eq_false_of_isBlank blank
  | nil =>
    rw [behind] at next
    cases segments with
    | nil => cases next
    | cons second segments =>
      obtain ⟨c, tail, spelling, continues⟩ := second.spells.exists_cons
      have other : second.token.kind ≠ .identifier := fun same =>
        apart second rfl identifier same behind
      rw [List.nil_append, List.flatMap_cons, Segment.text, spelling] at next
      cases next
      exact Bool.eq_false_iff.2 fun inName => other (continues.1 inName)

/-- Segments that are apart are a layout of their tokens. -/
theorem laid_of_isChain {segments : List Segment} (apart : segments.IsChain Segment.Apart) :
    Laid (segments.map Segment.token) (segments.flatMap Segment.text) := by
  induction segments with
  | nil => exact .nil
  | cons first segments ih =>
    have laid : Laid (segments.map Segment.token)
        (first.behind ++ segments.flatMap Segment.text) := (ih apart.tail).blanks first.blank
    have ends (identifier : first.token.kind = .identifier) :=
      first.ends identifier (List.isChain_cons.1 apart).1
    rw [List.map_cons, List.flatMap_cons, Segment.text, List.append_assoc]
    rcases first with ⟨token, spelling, behind, spells, blank⟩
    cases spells with
    | sign sign => exact .sign sign laid
    | name identifier =>
      obtain ⟨c, tail, rfl, starts, continues⟩ := isIdentifier_iff.1 identifier
      exact .name starts continues (ends rfl) laid

/-! ## From layouts to segmentations -/

/-- A token in front of a segmentation, if it is apart from the first segment. -/
theorem Segmentation.exists_cons (cut : Segmentation) {token : Token} {spelling : List Char}
    (spells : Spells spelling token)
    (ends : token.kind = .identifier → ∀ d ∈ cut.text.head?, continuesName d = false) :
    ∃ longer : Segmentation,
      longer.text = spelling ++ cut.text ∧ longer.tokens = token :: cut.tokens := by
  let first : Segment := ⟨token, spelling, cut.before, spells, cut.blank⟩
  have apart : ∀ second ∈ cut.segments.head?, first.Apart second := by
    intro second next identifier same behind
    obtain ⟨segments, whole⟩ := List.head?_eq_some_iff.1 next
    obtain ⟨c, tail, spelling_eq, continues⟩ := second.spells.exists_cons
    have before : cut.before = [] := behind
    have head : c ∈ cut.text.head? := by
      simp [Segmentation.text, before, whole, Segment.text, spelling_eq]
    have stops := ends identifier c head
    rw [continues.2 same] at stops
    cases stops
  refine ⟨⟨[], first :: cut.segments, List.forall_mem_nil _,
    List.isChain_cons.2 ⟨apart, cut.apart⟩⟩, ?_, rfl⟩
  simp [Segmentation.text, Segment.text, first]

theorem Laid.exists_segmentation {tokens : List Token} {text : List Char}
    (laid : Laid tokens text) :
    ∃ cut : Segmentation, cut.text = text ∧ cut.tokens = tokens := by
  induction laid with
  | nil => exact ⟨⟨[], [], List.forall_mem_nil _, .nil⟩, rfl, rfl⟩
  | @blank c _ _ blank _ ih =>
    obtain ⟨cut, rfl, rfl⟩ := ih
    exact ⟨⟨c :: cut.before, cut.segments, List.forall_mem_cons.2 ⟨blank, cut.blank⟩, cut.apart⟩,
      rfl, rfl⟩
  | @sign c kind _ _ sign _ ih =>
    obtain ⟨cut, rfl, rfl⟩ := ih
    have noName : kind ≠ .identifier := by
      rintro rfl
      exact Kind.ofSign?_ne_identifier c sign
    exact cut.exists_cons (.sign sign) fun identifier => absurd identifier noName
  | name starts continues ends _ ih =>
    obtain ⟨cut, rfl, rfl⟩ := ih
    have identifier := isIdentifier_iff.2 ⟨_, _, rfl, starts, continues⟩
    exact cut.exists_cons (.name identifier) fun _ => ends

/-- Scanning finds exactly the tokens that a text can be cut into. -/
theorem scan_eq_ok_iff_exists_segmentation (text : String) (tokens : List Token) :
    scan text = .ok tokens ↔
      ∃ cut : Segmentation, cut.text = text.toList ∧ cut.tokens = tokens := by
  rw [scan_eq_ok_iff]
  constructor
  · exact Laid.exists_segmentation
  · intro cuttable
    obtain ⟨cut, whole, rfl⟩ := cuttable
    rw [← whole]
    exact (laid_of_isChain cut.apart).blanks cut.blank

end WordSpace.Expression.Token
