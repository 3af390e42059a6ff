import WordSpace.Expression.Reading

/-!
The grammar of statements, as a relation between lists of tokens and what they mean.

    statement  := identifier '=' expression | expression
    expression := primary (('+' | '-') primary)*
    primary    := identifier | '(' expression ')'

The relation says nothing of how tokens are read. `Grammar.Primary`, `Grammar.Joins` and
`Grammar.Chain` are the phrases of an expression, `Grammar.Sentence` is a whole statement. A
chain of operands is folded to the left, and parentheses only group: the expression between them is
what they mean.
-/

namespace WordSpace.Expression.Grammar

/-- Joins right operands to a first one, the leftmost first. -/
def foldLeft (first : Expr) (joins : List (String × Expr)) : Expr :=
  joins.foldl (fun left join => .binary join.1 left join.2) first

@[simp] theorem foldLeft_nil (first : Expr) : foldLeft first [] = first := rfl

@[simp] theorem foldLeft_cons (first : Expr) (join : String × Expr) (joins : List (String × Expr)) :
    foldLeft first (join :: joins) = foldLeft (.binary join.1 first join.2) joins := rfl

mutual

/-- An identifier, or an expression between parentheses. -/
inductive Primary : List Token → Expr → Prop
  | word {token : Token} :
    token.kind = .identifier → Primary [token] (.word token.text)
  | group {opening closing : Token} {inside : List Token} {e : Expr} :
    opening.kind = .leftParen → Chain inside e → closing.kind = .rightParen →
    Primary (opening :: inside ++ [closing]) e

/-- Any number of operators, each with the operand behind it. -/
inductive Joins : List Token → List (String × Expr) → Prop
  | nil : Joins [] []
  | cons {operator : Token} {operand rest : List Token} {right : Expr}
      {joins : List (String × Expr)} :
    (operator.kind = .plus ∨ operator.kind = .minus) → Primary operand right → Joins rest joins →
    Joins (operator :: operand ++ rest) ((operator.text, right) :: joins)

/-- An expression: a first operand and what is joined to it, folded to the left. -/
inductive Chain : List Token → Expr → Prop
  | operands {operand rest : List Token} {first : Expr} {joins : List (String × Expr)} :
    Primary operand first → Joins rest joins →
    Chain (operand ++ rest) (foldLeft first joins)

end

/-- A whole statement: an assignment begins with an identifier and an equals sign, all else is an
expression. -/
inductive Sentence : List Token → Statement → Prop
  | assignment {name equals : Token} {body : List Token} {e : Expr} :
    name.kind = .identifier → equals.kind = .equals → Chain body e →
    Sentence (name :: equals :: body) (.assignment name.text e)
  | expression {body : List Token} {e : Expr} :
    Chain body e → Sentence body (.expression e)

theorem isOperator_iff {kind : Kind} : kind.isOperator = true ↔ kind = .plus ∨ kind = .minus := by
  cases kind <;> simp [Kind.isOperator]

/-- An operand begins with an identifier or an opening parenthesis. -/
theorem Primary.exists_cons {tokens : List Token} {e : Expr} (operand : Primary tokens e) :
    ∃ token rest, tokens = token :: rest ∧
      (token.kind = .identifier ∨ token.kind = .leftParen) := by
  cases operand with
  | word kind => exact ⟨_, [], rfl, .inl kind⟩
  | group opening _ _ => exact ⟨_, _, rfl, .inr opening⟩

end WordSpace.Expression.Grammar
