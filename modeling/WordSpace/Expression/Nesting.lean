import WordSpace.Expression.Reading

/-!
Nesting: how deep a line of input goes.

Reading goes one level deeper at each parenthesis that opens, and evaluating at each operator, whose
value waits for those of its operands. Each level takes its place on the stack of calls, and the
stack has room for a number of levels only (`Room`).
-/

namespace WordSpace.Expression

/-- Levels of nesting: parentheses that are open at once while a line is read, and operators that
wait for an operand at once while it is evaluated. -/
structure Nesting where
  parentheses : Nat
  operators : Nat
  deriving DecidableEq, Repr

/-- The levels of nesting that the stack of calls has room for, if there is a limit. -/
abbrev Room := Option Nesting

instance : LE Nesting where
  le a b := a.parentheses ≤ b.parentheses ∧ a.operators ≤ b.operators

instance (a b : Nesting) : Decidable (a ≤ b) := inferInstanceAs (Decidable (_ ∧ _))

/-- The most parentheses that are open at once while tokens are taken one after the other, if some
are open before them. -/
def mostOpen (before : Nat) : List Token → Nat
  | [] => before
  | token :: rest =>
    match token.kind with
    | .leftParen => mostOpen (before + 1) rest
    | .rightParen => max before (mostOpen (before - 1) rest)
    | _ => mostOpen before rest

/-- The most parentheses that are open at once while a statement is read. Nothing is taken from the
token on that is to blame. -/
def parenthesesOf (tokens : List Token) : Nat :=
  mostOpen 0 (tokens.take (tokens.length - (readWhole tokens).rest.length))

end WordSpace.Expression
