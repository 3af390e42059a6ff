import WordSpace.Proofs.Lexicon.Loading
import WordSpace.Proofs.Text.Lines
import WordSpace.Proofs.Text.Utf8

/-!
Lexicons from files.

A file that was written in UTF-8 has nothing wrong in it, so what is loaded from it is what is
loaded from the lines of its text. Only filled lines count for that, up to the limit, and these do
not depend on the line ends that the text was written with (`Lexicon.ofFile_of_written`).
-/

namespace WordSpace.Lexicon

open Text

/-- Lines of which the same are filled make one lexicon. -/
theorem load_of_filled {lines written : List (List Char)} (same : filled lines = filled written)
    (limit : Option Int) : load limit lines = load limit written := by
  have loaded (lines : List (List Char)) : loadable limit lines =
      limit.elim (filled lines) fun n => (filled lines).take (max n 0).toNat :=
    loadable_eq limit lines
  rw [load, load, loaded, loaded, same]

/-- A text in UTF-8 is loaded by its lines, and nothing in it is at fault. -/
theorem ofFile_utf8 (limit : Option Int) (text : List Char) :
    ofFile limit (text.flatMap String.utf8EncodeChar) = .ok (load limit (Text.lines text)) := by
  rw [ofFile, Source.ofBytes, decodeUtf8_flatMap_utf8EncodeChar]
  rfl

/-- A file in UTF-8 gives the lexicon of the lines that it was written from, whatever line ends they
were written with and whatever empty lines were put in, up to any limit. -/
theorem ofFile_of_written (limit : Option Int) {lines : List (List Char)} {text : List Char}
    (single : ∀ line ∈ lines, '\n' ∉ line ∧ '\r' ∉ line) (written : Written lines text) :
    ofFile limit (text.flatMap String.utf8EncodeChar) = .ok (load limit lines) := by
  have inside : ∀ line ∈ lines, ∀ c ∈ line, isLineEnd c = false := by
    intro line member c inLine
    obtain ⟨noFeed, noReturn⟩ := single line member
    have notFeed : c ≠ '\n' := fun same => noFeed (same ▸ inLine)
    have notReturn : c ≠ '\r' := fun same => noReturn (same ▸ inLine)
    simp [isLineEnd, notFeed, notReturn]
  rw [ofFile_utf8, load_of_filled (written.filled_lines inside)]

/-- The carriage return behind the first line and the line feed of the empty one are read as one
line end, so there is a line less than was written. -/
theorem ofFile_of_written_joined :
    let lines := ["é 1", "", "dog 2"].map String.toList
    let text := "é 1\r\ndog 2".toList
    ((∀ line ∈ lines, '\n' ∉ line ∧ '\r' ∉ line) ∧ Written lines text) ∧
      ofFile (some 2) (text.flatMap String.utf8EncodeChar) = .ok (load (some 2) lines) := by
  intro lines text
  have single : ∀ line ∈ lines, '\n' ∉ line ∧ '\r' ∉ line := by decide
  have written : Written lines text := by
    have last : Written ["dog 2".toList] "dog 2".toList := .unended _
    have empty : Written [[], "dog 2".toList] "\ndog 2".toList := .ended (.head _) last
    exact .ended (.tail _ (.tail _ (.head _))) empty
  exact ⟨⟨single, written⟩, ofFile_of_written (some 2) single written⟩

end WordSpace.Lexicon
