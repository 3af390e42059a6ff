import WordSpace.Expression.Token

/-!
Expressions and statements: what a line of input means.

An expression is a word or two expressions joined by an operator. A statement is an expression, or
an expression whose value is given a name. The name stands at the root only: no expression holds a
statement.
-/

namespace WordSpace.Expression

/-- A word, or two expressions joined by an operator. -/
inductive Expr where
  | word (name : String)
  | binary (operator : String) (left right : Expr)
  deriving DecidableEq, Repr, Inhabited

namespace Expr

/-- The words of an expression, from left to right. -/
def words : Expr → List String
  | word name => [name]
  | binary _ left right => left.words ++ right.words

end Expr

/-- A line of input: an expression, or an expression to be stored under a name. -/
inductive Statement where
  | expression (body : Expr)
  | assignment (name : String) (body : Expr)
  deriving DecidableEq, Repr, Inhabited

namespace Statement

/-- The expression of a statement. -/
def body : Statement → Expr
  | expression e => e
  | assignment _ e => e

/-- The name that a statement gives to its value. -/
def target? : Statement → Option String
  | expression _ => none
  | assignment name _ => some name

end Statement

/-- Why a line of input is no statement. -/
inductive ParseError where
  /-- A character that starts no token. -/
  | strayCharacter (stray : StrayCharacter)
  /-- There is no token at all. -/
  | emptyInput
  /-- The tokens end where another one has to come. -/
  | unexpectedEnd
  /-- A token that cannot stand where it does, with the only kind that could, if there is one. -/
  | unexpectedToken (token : Token) (expected : Option Kind)
  deriving DecidableEq, Repr

namespace ParseError

/-- The text shown for an error. -/
def message : ParseError → String
  | strayCharacter stray => "Unexpected character: '" ++ stray.char.toString ++ "'"
  | emptyInput => "Empty input"
  | unexpectedEnd => "Unexpected end of expression"
  | unexpectedToken token none => "Unexpected token: " ++ token.kind.name
  | unexpectedToken token (some kind) => "Expected " ++ kind.name ++ ", got " ++ token.kind.name

/-- The name that log records use for a kind of error. -/
def label : ParseError → String
  | strayCharacter _ => "UnexpectedCharacter"
  | emptyInput | unexpectedEnd => "UnexpectedEnd"
  | unexpectedToken .. => "UnexpectedToken"

end ParseError

end WordSpace.Expression
