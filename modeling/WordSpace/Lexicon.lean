import WordSpace.Catalog
import WordSpace.Embedding

/-!
Lexicons: the embeddings of a vocabulary, in the order of its words.

A word has to be spelled as it is in the lexicon. The embeddings may have different lengths.
-/

namespace WordSpace

/-- The words of a vocabulary and their embeddings. -/
abbrev Lexicon := Catalog Embedding

namespace Lexicon

/-- The words, in the order in which they first came. -/
def words (lexicon : Lexicon) : List String := lexicon.names

/-- The length of the embedding of the first word, and zero without words. -/
def dimension (lexicon : Lexicon) : Nat :=
  match lexicon.entries with
  | [] => 0
  | entry :: _ => entry.2.length

end Lexicon

end WordSpace
