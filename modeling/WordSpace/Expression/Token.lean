import WordSpace.Text.Blank

/-!
Tokens: the signs and identifiers that a line of input is made of.

`Token.scan` cuts a text into tokens. Blanks separate tokens and leave none; a sign is one
character; an identifier is a longest run of ASCII letters, digits and underscores that does not
start with a digit, and is read in lower case. The first character that fits none of these is
reported with its place, counted in characters.
-/

namespace WordSpace.Expression

/-- The six kinds of token. -/
inductive Kind where
  | identifier
  | plus
  | minus
  | equals
  | leftParen
  | rightParen
  deriving DecidableEq, Repr

namespace Kind

/-- The name that messages use for a kind. -/
def name : Kind → String
  | identifier => "Identifier"
  | plus => "Plus"
  | minus => "Minus"
  | equals => "Equals"
  | leftParen => "LParen"
  | rightParen => "RParen"

/-- The kind of a one-character sign. -/
def ofSign? : Char → Option Kind
  | '+' => some plus
  | '-' => some minus
  | '=' => some equals
  | '(' => some leftParen
  | ')' => some rightParen
  | _ => none

/-- Whether tokens of a kind join two operands. -/
def isOperator : Kind → Bool
  | plus | minus => true
  | _ => false

end Kind

/-- A token: its kind and the text it stands for. -/
structure Token where
  kind : Kind
  text : String
  deriving DecidableEq, Repr

/-- Whether a character may start an identifier: an ASCII letter or an underscore. -/
def startsName (c : Char) : Bool := c.isAlpha || c == '_'

/-- Whether a character may stand inside an identifier: an ASCII letter or digit or an
underscore. -/
def continuesName (c : Char) : Bool := c.isAlphanum || c == '_'

theorem continuesName_of_startsName {c : Char} (h : startsName c = true) :
    continuesName c = true := by
  simp only [startsName, continuesName, Char.isAlphanum, Bool.or_eq_true] at *
  rcases h with h | h <;> simp [h]

/-- A character that starts no token, and its place in the text. -/
structure StrayCharacter where
  char : Char
  position : Nat
  deriving DecidableEq, Repr

namespace Token

/-- The identifier of a run of characters, in lower case. -/
def ofName (name : List Char) : Token := ⟨.identifier, String.ofList (name.map Char.toLower)⟩

/-- The tokens of a text whose first character has the place `position`. -/
def scanFrom (position : Nat) : List Char → Except StrayCharacter (List Token)
  | [] => .ok []
  | c :: rest =>
    if Text.isBlank c then scanFrom (position + 1) rest
    else match Kind.ofSign? c with
      | some kind => (⟨kind, c.toString⟩ :: ·) <$> scanFrom (position + 1) rest
      | none =>
        if startsName c then
          let tail := rest.takeWhile continuesName
          (ofName (c :: tail) :: ·) <$>
            scanFrom (position + 1 + tail.length) (rest.dropWhile continuesName)
        else .error ⟨c, position⟩
termination_by text => text.length
decreasing_by
  · simp
  · simp
  · exact Nat.lt_succ_of_le (List.dropWhile_suffix _).length_le

/-- The tokens of a text. -/
def scan (text : String) : Except StrayCharacter (List Token) := scanFrom 0 text.toList

end Token

end WordSpace.Expression
