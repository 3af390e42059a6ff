import WordSpace.Proofs.Lexicon.Loading
import WordSpace.Proofs.Text.Decoding
import WordSpace.Proofs.Text.Lines

/-!
Files that lexicons can be loaded from.

A file of text in UTF-8 can be loaded whatever the limit is. A file that ends in the middle of an
encoding can be loaded too, if a line beyond the limit ends before that: nothing is read behind it.
No other file can (`Lexicon.exists_ofFile_iff_isReadable`).
-/

namespace WordSpace.Lexicon

open Text

/-- The bytes are those of a text in UTF-8. -/
def IsUtf8 (bytes : List UInt8) : Prop :=
  ∃ text : List Char, bytes = text.flatMap String.utf8EncodeChar

/-- The bytes are those of a text and of what is cut short behind it, and a line of the text that is
beyond the limit, without counting empty ones, is known to be ended. -/
def IsCutBeyond (limit : Option Int) (bytes : List UInt8) : Prop :=
  ∃ (text : List Char) (rest : List UInt8) (n : Int),
    bytes = text.flatMap String.utf8EncodeChar ++ rest ∧ CutShort rest ∧
      limit = some n ∧ max n 0 < (filled (endedLines text)).length

/-- The bytes are in UTF-8 as far as they have to be read. -/
def IsReadable (limit : Option Int) (bytes : List UInt8) : Prop :=
  IsUtf8 bytes ∨ IsCutBeyond limit bytes

/-- Nothing that is cut short is text. -/
theorem not_isUtf8_of_cutShort {rest : List UInt8} (cut : CutShort rest) (text : List Char) :
    ¬IsUtf8 (text.flatMap String.utf8EncodeChar ++ rest) := by
  intro utf8
  obtain ⟨other, same⟩ := utf8
  obtain ⟨error, decoded⟩ := exists_of_cutShort cut text
  rw [same, decodeUtf8_flatMap_utf8EncodeChar] at decoded
  cases decoded

theorem Source.passes_iff {source : Source} {limit : Option Int} :
    source.passes limit = true ↔
      ∃ n, limit = some n ∧ max n 0 < (filled source.lines).length := by
  have loaded (limit : Option Int) : loadable limit source.lines =
      limit.elim (filled source.lines) fun n => (filled source.lines).take (max n 0).toNat :=
    loadable_eq limit source.lines
  rw [Source.passes, decide_eq_true_eq, loaded, loaded]
  cases limit with
  | none => simp
  | some n =>
    simp only [Option.elim_some, Option.elim_none, List.length_take, Option.some.injEq,
      exists_eq_left']
    omega

/-- A lexicon is loaded from the bytes that can be read, and from no others. -/
theorem exists_ofFile_iff_isReadable {limit : Option Int} {bytes : List UInt8} :
    (∃ lexicon, ofFile limit bytes = .ok lexicon) ↔ IsReadable limit bytes := by
  constructor
  · intro loaded
    obtain ⟨lexicon, loaded⟩ := loaded
    rw [ofFile, Source.ofBytes] at loaded
    cases outcome : decodeUtf8 bytes with
    | error error =>
      rw [outcome] at loaded
      cases loaded
    | ok decoded =>
      rw [outcome] at loaded
      rcases decoded with ⟨text, fault⟩
      have decodes := decodes_of_decodeUtf8 outcome
      cases fault with
      | none => exact .inl ⟨text, decodes.eq_of_no_fault⟩
      | some error =>
        obtain ⟨rest, whole, ⟨-, fault⟩ | ⟨cut, -⟩⟩ := decodes
        · cases fault
        · change (if _ then _ else _) = _ at loaded
          split at loaded
          case isTrue passes =>
            obtain ⟨n, limited, beyond⟩ := Source.passes_iff.1 passes
            exact .inr ⟨text, rest, n, whole, cut, limited, beyond⟩
          case isFalse => cases loaded
  · intro readable
    rcases readable with ⟨text, rfl⟩ | ⟨text, rest, n, rfl, cut, limited, beyond⟩
    · rw [ofFile, Source.ofBytes, decodeUtf8_flatMap_utf8EncodeChar]
      exact ⟨_, rfl⟩
    · obtain ⟨error, decoded⟩ := exists_of_cutShort cut text
      have passes : (Source.mk (endedLines text) (some error)).passes limit = true :=
        Source.passes_iff.2 ⟨n, limited, beyond⟩
      rw [ofFile, Source.ofBytes, decoded]
      exact ⟨_, if_pos passes⟩

end WordSpace.Lexicon
