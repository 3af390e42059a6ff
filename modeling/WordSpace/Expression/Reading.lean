import WordSpace.Expression.Tree

/-!
Readings: statements read from tokens.

The grammar is

    statement  := identifier '=' expression | expression
    expression := primary (('+' | '-') primary)*
    primary    := identifier | '(' expression ')'

and both operators have one precedence and group to the left. A reading takes tokens from the
front and leaves the rest; where it fails, the rest starts with the token that is to blame, or is
empty. An expression is read in one pass over the tokens that keeps, for each open parenthesis,
what stands before it and still waits for an operand.
-/

namespace WordSpace.Expression

/-- What came of reading from a list of tokens: a value and the tokens behind it, or an error and
the tokens from the one to blame on. -/
inductive Reading (α : Type) where
  | done (value : α) (rest : List Token)
  | failed (error : ParseError) (rest : List Token)
  deriving DecidableEq, Repr

namespace Reading

variable {α β : Type}

/-- The tokens that were not read. -/
def rest : Reading α → List Token
  | done _ rest => rest
  | failed _ rest => rest

/-- The value or the error, without the rest. -/
def result : Reading α → Except ParseError α
  | done value _ => .ok value
  | failed error _ => .error error

/-- Applies a function to the value that was read. -/
def map (f : α → β) : Reading α → Reading β
  | done value rest => done (f value) rest
  | failed error rest => failed error rest

@[simp] theorem rest_map (f : α → β) (r : Reading α) : (r.map f).rest = r.rest := by
  cases r <;> rfl

end Reading

/-! ## Expressions -/

/-- A left operand and the operator behind it. -/
structure Pending where
  left : Expr
  operator : String
  deriving DecidableEq, Repr

/-- Joins an operand to what waits for it, if anything does. -/
def Pending.join : Option Pending → Expr → Expr
  | none, operand => operand
  | some pending, operand => .binary pending.operator pending.left operand

mutual

/-- Reads on where an operand has to come. `pending` waits for this operand; `enclosing` holds what
waits outside of each open parenthesis, the innermost first. -/
def readOperand (enclosing : List (Option Pending)) (pending : Option Pending) :
    List Token → Reading Expr
  | [] => .failed .unexpectedEnd []
  | token :: rest =>
    match token.kind with
    | .identifier => readOperator enclosing (Pending.join pending (.word token.text)) rest
    | .leftParen => readOperand (pending :: enclosing) none rest
    | _ => .failed (.unexpectedToken token none) (token :: rest)

/-- Reads on behind an operand, which with all that is left of it inside the innermost parenthesis
makes the expression `left`. -/
def readOperator (enclosing : List (Option Pending)) (left : Expr) : List Token → Reading Expr
  | [] =>
    match enclosing with
    | [] => .done left []
    | _ :: _ => .failed .unexpectedEnd []
  | token :: rest =>
    if token.kind.isOperator then readOperand enclosing (some ⟨left, token.text⟩) rest
    else match enclosing with
      | [] => .done left (token :: rest)
      | pending :: outer =>
        if token.kind = .rightParen then readOperator outer (Pending.join pending left) rest
        else .failed (.unexpectedToken token (some .rightParen)) (token :: rest)

end

/-- Reads the longest expression at the front of the tokens. -/
def readExpression (tokens : List Token) : Reading Expr := readOperand [] none tokens

/-- Takes one token of a kind from the front of the tokens. -/
def readToken (kind : Kind) : List Token → Reading Token
  | [] => .failed .unexpectedEnd []
  | token :: rest =>
    if token.kind = kind then .done token rest
    else .failed (.unexpectedToken token (some kind)) (token :: rest)

/-- Reads a word or an expression in parentheses. -/
def readPrimary : List Token → Reading Expr
  | [] => .failed .unexpectedEnd []
  | token :: rest =>
    match token.kind with
    | .identifier => .done (.word token.text) rest
    | .leftParen =>
      match readExpression rest with
      | .done inner after => (readToken .rightParen after).map fun _ => inner
      | .failed error after => .failed error after
    | _ => .failed (.unexpectedToken token none) (token :: rest)

/-! ## Statements -/

/-- The name and the tokens behind the equals sign, of tokens that begin an assignment. -/
def assignment? : List Token → Option (String × List Token)
  | first :: second :: rest =>
    if first.kind = .identifier ∧ second.kind = .equals then some (first.text, rest) else none
  | _ => none

/-- Reads the longest statement at the front of the tokens. -/
def readStatement (tokens : List Token) : Reading Statement :=
  if tokens.isEmpty then .failed .emptyInput []
  else match assignment? tokens with
    | some (name, rest) => (readExpression rest).map (.assignment name)
    | none => (readExpression tokens).map .expression

/-- Reads a statement that takes up all the tokens. -/
def readWhole (tokens : List Token) : Reading Statement :=
  match readStatement tokens with
  | .done _ (token :: rest) => .failed (.unexpectedToken token none) (token :: rest)
  | reading => reading

/-- The statement that a list of tokens makes up. -/
def Statement.ofTokens (tokens : List Token) : Except ParseError Statement :=
  (readWhole tokens).result

/-- The statement of a line of input. -/
def Statement.ofText (text : String) : Except ParseError Statement :=
  match Token.scan text with
  | .ok tokens => Statement.ofTokens tokens
  | .error stray => .error (.strayCharacter stray)

end WordSpace.Expression
