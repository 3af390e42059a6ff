import WordSpace.Decimal.Numeral
import WordSpace.Lexicon
import WordSpace.Text.Lines
import WordSpace.Text.Utf8

/-!
Loading: lexicons from lines of text.

A line is a word and the numbers of its embedding, with one space before each number. Line ends at
the end of a line do not belong to it, and lines that are empty then are passed over. A blank field
is zero; a field that is no numeral is NaN, and so, once normalized, is its whole line. A repeated
word keeps its first place and its last embedding. A limit bounds the number of lines, repeated
words included; the first line beyond it is the last one that is read.
-/

namespace WordSpace.Lexicon

/-- The number in a field of a line. -/
def component (field : String) : Float :=
  if (Text.strip Text.isBlank field.toList).isEmpty then 0
  else (Decimal.numeral? field).getD Precision.nan

/-- The word of a line and its normalized embedding. -/
def entry (line : List Char) : String × Embedding :=
  match Text.splitOn ' ' line with
  | [] => ("", [])
  | word :: fields =>
    let numbers := fields.map fun field => Precision.single (component (String.ofList field))
    (String.ofList word, Embedding.normalize numbers)

/-- The lines to load: those that are not empty without their line ends, up to the limit. -/
def loadable (limit : Option Int) (lines : List (List Char)) : List (List Char) :=
  let filled := (lines.map Text.dropLineEnds).filter (!·.isEmpty)
  match limit with
  | none => filled
  | some n => filled.take n.toNat

/-- The lexicon of a list of lines. -/
def load (limit : Option Int) (lines : List (List Char)) : Lexicon :=
  Catalog.ofList ((loadable limit lines).map entry)

/-! ## Files -/

/-- The lines that can be read from a file, and what is found wrong behind them, if anything is. -/
structure Source where
  lines : List (List Char)
  fault : Option Text.Utf8Error

/-- The lines of a file of text in UTF-8. Bytes that are set aside at the end of the file stand in
the way of the line they belong to; all other bytes that are no UTF-8 stand in the way of every
line. -/
def Source.ofBytes (bytes : List UInt8) : Except Text.Utf8Error Source :=
  (fun decoded =>
    match decoded.fault with
    | none => ⟨Text.lines decoded.text, none⟩
    | some fault => ⟨Text.endedLines decoded.text, some fault⟩) <$> Text.decodeUtf8 bytes

/-- Whether there is a line to load. -/
def Source.hasLine (source : Source) : Bool := !(loadable none source.lines).isEmpty

/-- Whether there is a line beyond the limit. -/
def Source.passes (source : Source) (limit : Option Int) : Bool :=
  (loadable limit source.lines).length < (loadable none source.lines).length

/-- The lexicon of a source. What is wrong behind the first line beyond the limit is not found. -/
def ofSource (limit : Option Int) (source : Source) : Except Text.Utf8Error Lexicon :=
  match source.fault with
  | none => .ok (load limit source.lines)
  | some fault => if source.passes limit then .ok (load limit source.lines) else .error fault

/-- The lexicon of a file of text in UTF-8. -/
def ofFile (limit : Option Int) (bytes : List UInt8) : Except Text.Utf8Error Lexicon := do
  ofSource limit (← Source.ofBytes bytes)

end WordSpace.Lexicon
