import WordSpace.Expression.Tree

/-!
Printed statements.

`Expr.Prints` says which tokens print an expression: a right operand that is not a word has
parentheses, and any part may have more of them. `Token.Spaced` says which texts show the tokens:
letters may have any case, and blanks may stand anywhere between tokens. Statements with names in
lower case and signs for operators are plain; they are the ones that texts can be read as.
-/

namespace WordSpace.Expression

open Text

/-! ## Plain statements -/

/-- Whether a character may start a name in lower case. -/
def startsLowerName (c : Char) : Bool := c.isLower || c == '_'

/-- Whether a character may stand inside a name in lower case. -/
def continuesLowerName (c : Char) : Bool := c.isLower || c.isDigit || c == '_'

/-- Whether a text is a name in lower case: an ASCII letter or an underscore, and any number of
ASCII letters, digits and underscores behind it. -/
def isLowerName (text : String) : Bool :=
  match text.toList with
  | [] => false
  | c :: tail => startsLowerName c && tail.all continuesLowerName

/-- Whether all words are names in lower case and all operators are signs. -/
def Expr.isPlain : Expr → Bool
  | .word name => isLowerName name
  | .binary operator left right =>
    (operator == "+" || operator == "-") && left.isPlain && right.isPlain

/-- Whether the expression is plain, and the target is a name in lower case if there is one. -/
def Statement.isPlain : Statement → Bool
  | .expression body => body.isPlain
  | .assignment name body => isLowerName name && body.isPlain

/-! ## Printing -/

/-- The token of an operator. -/
def Token.ofOperator (operator : String) : Token :=
  ⟨if operator = "+" then .plus else .minus, operator⟩

/-- Tokens between parentheses. -/
def grouped (inside : List Token) : List Token :=
  ⟨.leftParen, "("⟩ :: inside ++ [⟨.rightParen, ")"⟩]

/-- The tokens print an expression: of the right operands only words need no parentheses, and each
part may have any number of further parentheses. -/
inductive Expr.Prints : Expr → List Token → Prop
  | word (name : String) : Prints (.word name) [⟨.identifier, name⟩]
  | group {e : Expr} {inside : List Token} : Prints e inside → Prints e (grouped inside)
  | joinWord {left : Expr} {before : List Token} (operator name : String) :
    Prints left before →
    Prints (.binary operator left (.word name))
      (before ++ [.ofOperator operator, ⟨.identifier, name⟩])
  | joinGroup {left right : Expr} {before inside : List Token} (operator : String) :
    Prints left before → Prints right inside →
    Prints (.binary operator left right) (before ++ .ofOperator operator :: grouped inside)

/-- The tokens print a statement. The parentheses of an assignment are those of its body. -/
inductive Statement.Prints : Statement → List Token → Prop
  | expression {body : Expr} {tokens : List Token} :
    body.Prints tokens → Prints (.expression body) tokens
  | assignment {body : Expr} {tokens : List Token} (name : String) :
    body.Prints tokens →
    Prints (.assignment name body) (⟨.identifier, name⟩ :: ⟨.equals, "="⟩ :: tokens)

/-- The text shows the tokens one after the other, with letters of any case, and with any blanks
before, between and behind them. -/
inductive Token.Spaced : List Token → List Char → Prop
  | nil {blanks : List Char} : (∀ c ∈ blanks, isBlank c = true) → Spaced [] blanks
  | cons {token : Token} {tokens : List Token} {blanks spelling text : List Char} :
    (∀ c ∈ blanks, isBlank c = true) → spelling.map Char.toLower = token.text.toList →
    Spaced tokens text → Spaced (token :: tokens) (blanks ++ (spelling ++ text))

/-- The tokens of an expression with no more parentheses than it needs. -/
def Expr.print : Expr → List Token
  | .word name => [⟨.identifier, name⟩]
  | .binary operator left (.word name) =>
    left.print ++ [.ofOperator operator, ⟨.identifier, name⟩]
  | .binary operator left right => left.print ++ .ofOperator operator :: grouped right.print

theorem Expr.prints_print (e : Expr) : e.Prints e.print := by
  fun_induction Expr.print e with
  | case1 name => exact .word name
  | case2 operator left name ih => exact .joinWord operator name ih
  | case3 operator left right _ ihLeft ihRight => exact .joinGroup operator ihLeft ihRight

/-- What is joined on the left needs no parentheses. -/
example : (Expr.binary "-" (.binary "+" (.word "a") (.word "b"))
      (.binary "+" (.word "c") (.word "d"))).print.map (·.text) =
    ["a", "+", "b", "-", "(", "c", "+", "d", ")"] := by decide

theorem Statement.exists_prints (s : Statement) : ∃ tokens, s.Prints tokens := by
  cases s with
  | expression body => exact ⟨_, .expression body.prints_print⟩
  | assignment name body => exact ⟨_, .assignment name body.prints_print⟩

end WordSpace.Expression
