import WordSpace.Expression.Reading

/-!
Cursors: a place in a list of tokens, from which statements and their parts are read.

A step of a cursor gives its result and the cursor behind it. A reading that fails leaves the
cursor before the token that is to blame, or at the end.
-/

namespace WordSpace.Expression

/-- A place between the tokens of a list. -/
structure Cursor where
  tokens : List Token
  position : Nat
  position_le : position ≤ tokens.length

namespace Cursor

/-- The place before the first token. -/
def start (tokens : List Token) : Cursor := ⟨tokens, 0, Nat.zero_le _⟩

/-- The tokens behind the cursor. -/
def remaining (c : Cursor) : List Token := c.tokens.drop c.position

/-- There is no token at the place asked for. -/
inductive OutOfRange where
  | outOfRange
  deriving DecidableEq, Repr

/-- The token `offset` places from the cursor, if the list reaches that far. A place before the
first token counts back from the end of the list, and has to be in it. -/
def peek (c : Cursor) (offset : Int) : Except OutOfRange (Option Token) :=
  let place := c.position + offset
  if 0 ≤ place then .ok c.tokens[place.toNat]?
  else
    let fromEnd := c.tokens.length + place
    if 0 ≤ fromEnd then .ok c.tokens[fromEnd.toNat]? else .error .outOfRange

/-- Takes the next token. -/
def consume (c : Cursor) : Except OutOfRange Token × Cursor :=
  if h : c.position < c.tokens.length then
    (.ok c.tokens[c.position], ⟨c.tokens, c.position + 1, h⟩)
  else (.error .outOfRange, c)

variable {α : Type}

/-- Reads from the tokens behind the cursor, and puts the cursor behind what was read. -/
def read (c : Cursor) (reader : List Token → Reading α) : Except ParseError α × Cursor :=
  let reading := reader c.remaining
  (reading.result, ⟨c.tokens, c.tokens.length - reading.rest.length, Nat.sub_le _ _⟩)

/-- Takes the next token if it is of a kind. -/
def expect (c : Cursor) (kind : Kind) : Except ParseError Token × Cursor := c.read (readToken kind)

/-- Reads a word or an expression in parentheses. -/
def primary (c : Cursor) : Except ParseError Expr × Cursor := c.read readPrimary

/-- Reads an expression. -/
def expression (c : Cursor) : Except ParseError Expr × Cursor := c.read readExpression

/-- Reads a statement. -/
def statement (c : Cursor) : Except ParseError Statement × Cursor := c.read readStatement

/-- Reads a statement that reaches to the end of the tokens. -/
def whole (c : Cursor) : Except ParseError Statement × Cursor := c.read readWhole

end Cursor

end WordSpace.Expression
