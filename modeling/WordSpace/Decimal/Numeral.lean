import WordSpace.Precision
import WordSpace.Text.Blank
import WordSpace.Text.Digit

/-!
Numerals: texts that stand for a number of double precision.

A numeral is an optional sign before `inf`, `infinity` or `nan` in any case, or before digits with
at most one point among or around them and an optional exponent. Digits may be those of any script;
one underscore may stand between two digits. Blanks around the numeral do not count. In a numeral a
blank or a digit from beyond ASCII stands for the space or the ASCII digit (`toAscii`); the
information separators are blanks of ASCII that do not stand for a space.
-/

namespace WordSpace.Decimal

/-! ## Spelling -/

/-- The ASCII character that a character of a numeral stands for, if it stands for one. -/
def toAscii (c : Char) : Char :=
  if c.toNat < 0x80 then c
  else if Text.isBlank c then ' '
  else match Text.digitValue? c with
    | some value => Text.asciiDigit value
    | none => c

/-- The characters of a numeral in ASCII, without the blanks around it. -/
def spelling (text : String) : List Char := Text.strip Text.isTypedBlank (text.toList.map toAscii)

/-- Takes the underscores out of a text, if each of them stands between two digits. -/
def joinDigits? : List Char → Option (List Char)
  | [] => some []
  | '_' :: _ => none
  | [c] => some [c]
  | c :: '_' :: d :: rest =>
    if c.isDigit && d.isDigit then (c :: ·) <$> joinDigits? (d :: rest) else none
  | c :: d :: rest => (c :: ·) <$> joinDigits? (d :: rest)

/-- Splits the sign off a text: whether it is negative, and what follows. -/
def splitSign : List Char → Bool × List Char
  | '-' :: rest => (true, rest)
  | '+' :: rest => (false, rest)
  | text => (false, text)

/-! ## Values -/

/-- A number as written: its digits without the point, and the power of ten that they count. -/
structure Scientific where
  significand : Nat
  exponent : Int
  deriving DecidableEq, Repr

/-- The number of double precision nearest to a written number. -/
def Scientific.toFloat (s : Scientific) : Float :=
  .ofScientific s.significand (s.exponent < 0) s.exponent.natAbs

/-- Reads an exponent: a sign and at least one digit, up to the end. -/
def exponent? (text : List Char) : Option Int :=
  let (negative, ds) := splitSign text
  if ds.isEmpty || !ds.all Char.isDigit then none
  else some (if negative then -Text.ofDigits ds else Text.ofDigits ds)

/-- Reads what may follow the digits of a numeral: nothing, or the letter `e` and an exponent. -/
def tail? : List Char → Option Int
  | [] => some 0
  | c :: rest => if c = 'e' ∨ c = 'E' then exponent? rest else none

/-- Reads digits with at most one point and an exponent, up to the end. -/
def scientific? (text : List Char) : Option Scientific :=
  let whole := text.takeWhile Char.isDigit
  let (fraction, rest) :=
    match text.dropWhile Char.isDigit with
    | '.' :: rest => (rest.takeWhile Char.isDigit, rest.dropWhile Char.isDigit)
    | rest => ([], rest)
  if whole.isEmpty && fraction.isEmpty then none
  else (tail? rest).map fun exponent =>
    ⟨Text.ofDigits (whole ++ fraction), exponent - fraction.length⟩

/-- Reads a numeral without its sign. -/
def unsigned? (text : List Char) : Option Float :=
  let word := String.ofList (text.map Char.toLower)
  if word = "inf" ∨ word = "infinity" then some Precision.infinity
  else if word = "nan" then some Precision.nan
  else (scientific? text).map Scientific.toFloat

/-- The number of double precision that a numeral stands for; `none` for any other text. -/
def numeral? (text : String) : Option Float := do
  let (negative, rest) := splitSign (← joinDigits? (spelling text))
  let value ← unsigned? rest
  return if negative then -value else value

end WordSpace.Decimal
