/-!
Lines: what a text is divided into by its line ends.

A line feed, a carriage return, and a carriage return with a line feed behind it each end a line;
nothing else does. A last line need not be ended, but an empty one is none.
-/

namespace WordSpace.Text

/-- Puts a character before the first line of a text. -/
def prependChar (c : Char) : List (List Char) → List (List Char)
  | [] => [[c]]
  | line :: rest => (c :: line) :: rest

/-- The lines of a text, without their ends. -/
def lines : List Char → List (List Char)
  | [] => []
  | '\n' :: rest => [] :: lines rest
  | '\r' :: '\n' :: rest => [] :: lines rest
  | '\r' :: rest => [] :: lines rest
  | c :: rest => prependChar c (lines rest)

/-- Whether a character is one of those that end lines. -/
def isLineEnd (c : Char) : Bool := c == '\n' || c == '\r'

/-- The lines of a text that are known to be ended, whatever comes behind the text. A carriage
return at the very end is not known to end a line, since a line feed may come behind it. -/
def endedLines (text : List Char) : List (List Char) :=
  let known := if text.getLast? = some '\r' then text.dropLast else text
  if known.getLast?.any isLineEnd then lines known else (lines known).dropLast

/-- Drops the line ends at the end of a text. -/
def dropLineEnds (text : List Char) : List Char := (text.reverse.dropWhile isLineEnd).reverse

end WordSpace.Text
