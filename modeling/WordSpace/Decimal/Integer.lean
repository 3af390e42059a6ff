import WordSpace.Decimal.Numeral
import WordSpace.Text.Quoted

/-!
Whole numbers: reading them from text, and writing them, at once or in groups of three digits.

A whole number is an optional sign before digits, of any script, with one underscore allowed
between two digits and blanks allowed around all. More digits than `maxDigits` are refused without
being read, also when something else follows them. A number of more digits is not written either
(`Figure.ofInt`).
-/

namespace WordSpace.Decimal

/-- The most digits that a whole number may have to be read or written. -/
def maxDigits : Nat := 4300

/-! ## Reading -/

/-- Why a text is not read as a whole number. -/
inductive IntegerError where
  /-- The text is no whole number. -/
  | malformed (text : String)
  /-- The text begins with a number of so many digits, which are too many. -/
  | tooLong (digits : Nat)
  deriving DecidableEq, Repr

/-- The text shown for an error; of a long text that is no number only the beginning is shown. -/
def IntegerError.message : IntegerError → String
  | malformed text =>
    "invalid literal for int() with base 10: " ++
      String.ofList ((Text.quoted text).toList.take 200)
  | tooLong digits =>
    "Exceeds the limit (" ++ toString maxDigits ++ " digits) for integer string conversion: " ++
      "value has " ++ toString digits ++
      " digits; use sys.set_int_max_str_digits() to increase the limit"

/-- The longest run of digits and underscores at the front of a text, and the rest. -/
def splitRun (text : List Char) : List Char × List Char :=
  let inRun (c : Char) : Bool := c.isDigit || c == '_'
  (text.takeWhile inRun, text.dropWhile inRun)

/-- Reads a whole number. -/
def integer (text : String) : Except IntegerError Int :=
  let (negative, unsigned) := splitSign (spelling text)
  let (run, rest) := splitRun unsigned
  match joinDigits? run with
  | none => .error (.malformed text)
  | some ds =>
    if maxDigits < ds.length then .error (.tooLong ds.length)
    else if ds.isEmpty || !rest.isEmpty then .error (.malformed text)
    else .ok (if negative then -Text.ofDigits ds else Text.ofDigits ds)

/-! ## Writing -/

/-- A whole number is not written, since it has too many digits. -/
inductive TooManyDigits where
  | tooManyDigits
  deriving DecidableEq, Repr

/-- The text shown for a number that is not written. -/
def TooManyDigits.message : TooManyDigits → String
  | tooManyDigits =>
    "Exceeds the limit (" ++ toString maxDigits ++ " digits) for integer string conversion; " ++
      "use sys.set_int_max_str_digits() to increase the limit"

/-- A whole number has few enough digits to be written. Its sign does not count. -/
def IsShort (n : Int) : Prop := (Text.digits n.natAbs).length ≤ maxDigits

instance (n : Int) : Decidable (IsShort n) := inferInstanceAs (Decidable (_ ≤ _))

/-- A whole number that can be written: one that is short, or the size of something that is kept in
memory, which no memory lets grow to so many digits. -/
inductive Figure where
  | number (value : Int) (short : IsShort value)
  | size (value : Nat)

namespace Figure

/-- A whole number as one that can be written. -/
def ofInt (n : Int) : Except TooManyDigits Figure :=
  if short : IsShort n then .ok (.number n short) else .error .tooManyDigits

theorem ofInt_of_isShort {n : Int} (short : IsShort n) : ofInt n = .ok (.number n short) :=
  dif_pos short

theorem ofInt_of_not_isShort {n : Int} (long : ¬IsShort n) : ofInt n = .error .tooManyDigits :=
  dif_neg long

/-- A whole number as it is written. -/
def text : Figure → String
  | number value _ => toString value
  | size value => toString value

end Figure

/-! ## Groups of digits -/

/-- Puts a comma between groups of three digits, counted from the last digit, which comes first. -/
def groupReversed : List Char → List Char
  | a :: b :: c :: d :: rest => a :: b :: c :: ',' :: groupReversed (d :: rest)
  | ds => ds

/-- A number in groups of three digits with commas between them. -/
def grouped (n : Nat) : String :=
  String.ofList (groupReversed (Text.digits n).reverse).reverse

end WordSpace.Decimal
