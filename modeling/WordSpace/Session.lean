import WordSpace.Expression.Nesting
import WordSpace.Lexicon.Nearest

/-!
Sessions: evaluating lines of input over a lexicon and the variables of a session.

A name stands for a variable if there is one, and for a word of the lexicon otherwise. The value of
an operator is normalized, that of a name is taken as it is. A session changes in one way only: a
statement that assigns and evaluates stores its value.

An evaluation has all the stack that it needs. How much that is, is said by `Scope.nesting`.
-/

namespace WordSpace

open Expression

/-- The values that a session has given names to, in the order in which the names first came. -/
abbrev Variables := Catalog Embedding

/-! ## Errors -/

/-- What is wrong with a line of input. -/
inductive InputError where
  | parse (error : ParseError)
  /-- A name that is neither a variable nor a word. -/
  | unknownWord (word : String)
  /-- A name with an underscore, which was meant as a variable, that is neither. -/
  | undefinedVariable (name : String)
  deriving DecidableEq, Repr

namespace InputError

/-- The text shown for an error. -/
def message : InputError → String
  | parse error => error.message
  | unknownWord word => "Unknown word: '" ++ word ++ "'"
  | undefinedVariable name => "Undefined variable: '" ++ name ++ "'"

/-- The name that log records use for a kind of error. -/
def label : InputError → String
  | parse error => error.label
  | unknownWord _ => "UnknownWord"
  | undefinedVariable _ => "UndefinedVariable"

end InputError

/-- Why an evaluation has no value: the input is wrong, or the lengths of two embeddings do not
fit. -/
inductive EvalError where
  | input (error : InputError)
  | lengthMismatch
  deriving DecidableEq, Repr

/-- Lengths that do not fit, as a failed evaluation. -/
def EvalError.ofMismatch : LengthMismatch → EvalError
  | .lengthMismatch => .lengthMismatch

/-! ## Values of expressions -/

/-- The members of two lists without repetition, in the order in which they first come. -/
def unite (a b : List String) : List String := a ++ b.filter (!a.contains ·)

theorem mem_unite {a b : List String} {x : String} : x ∈ unite a b ↔ x ∈ a ∨ x ∈ b := by
  simp only [unite, List.mem_append, List.mem_filter, List.contains_eq_mem, Bool.not_eq_true',
    decide_eq_false_iff_not]
  by_cases h : x ∈ a <;> simp [h]

theorem nodup_unite {a b : List String} (left : a.Nodup) (right : b.Nodup) :
    (unite a b).Nodup := by
  refine List.nodup_append.2 ⟨left, right.filter _, ?_⟩
  rintro x inLeft y inRight rfl
  simp [inLeft] at inRight

/-- The value of an expression, and the words of the lexicon that it was made from. -/
structure Value where
  vector : Embedding
  used : List String
  deriving DecidableEq

/-- What names stand for: a lexicon, and variables that come before it. -/
structure Scope where
  lexicon : Lexicon
  vars : Variables

namespace Scope

/-- The value of a name. -/
def resolve (scope : Scope) (name : String) : Except EvalError Value :=
  match scope.vars.get? name with
  | some vector => .ok ⟨vector, []⟩
  | none =>
    match scope.lexicon.get? name with
    | some vector => .ok ⟨vector, [name]⟩
    | none =>
      .error (.input (if name.contains '_' then .undefinedVariable name else .unknownWord name))

/-- Joins two embeddings: a plus sign adds, any other operator subtracts. -/
def combine (operator : String) (a b : Embedding) : Except LengthMismatch Embedding :=
  if operator = "+" then a.add b else a.subtract b

/-- The value of an expression. -/
def eval (scope : Scope) : Expr → Except EvalError Value
  | .word name => scope.resolve name
  | .binary operator left right => do
    let a ← scope.eval left
    let b ← scope.eval right
    let combined ← (combine operator a.vector b.vector).mapError .ofMismatch
    return ⟨combined.normalize, unite a.used b.used⟩

/-- The most operators that wait for an operand at once while an expression is evaluated. The right
operand is looked for only if the left one has a value. -/
def depth (scope : Scope) : Expr → Nat
  | .word _ => 0
  | .binary _ left right =>
    match scope.eval left with
    | .ok _ => max (scope.depth left) (scope.depth right) + 1
    | .error _ => scope.depth left + 1

end Scope

/-! ## Lines of input -/

/-- The outcome of a line of input: its value, the words it was made from, and the name it was
stored under. -/
structure Evaluation where
  vector : Embedding
  used : List String
  assignment : Option String
  deriving DecidableEq

/-- What a step of a session gives: its result, the variables behind it, and what it puts on
record. -/
structure Step (ε α : Type) where
  result : Except ε α
  vars : Variables
  records : List Record

/-- The outcome of a statement. -/
def Scope.evalStatement (scope : Scope) (statement : Statement) : Except EvalError Evaluation :=
  (fun value => ⟨value.vector, value.used, statement.target?⟩) <$> scope.eval statement.body

/-- The outcome of a line of input. -/
def Scope.evalText (scope : Scope) (text : String) : Except EvalError Evaluation := do
  let statement ← (Statement.ofText text).mapError (.input ∘ .parse)
  scope.evalStatement statement

/-- How deep a line of input nests. -/
def Scope.nesting (scope : Scope) (text : String) : Nesting :=
  match Token.scan text with
  | .error _ => ⟨0, 0⟩
  | .ok tokens =>
    match Statement.ofTokens tokens with
    | .error _ => ⟨parenthesesOf tokens, 0⟩
    | .ok statement => ⟨parenthesesOf tokens, scope.depth statement.body⟩

namespace Session

/-- The variables behind an evaluation: an assignment stores its value. -/
def store (vars : Variables) : Except EvalError Evaluation → Variables
  | .ok ⟨vector, _, some name⟩ => vars.insert name vector
  | _ => vars

/-- What an evaluation puts on record: one record, unless lengths did not fit. -/
def evaluationRecords : Except EvalError Evaluation → List Record
  | .ok evaluation =>
    let kind := if evaluation.assignment.isSome then "assignment" else "expression"
    [.evaluation kind "success" [("used_words", .integer (.size evaluation.used.length))]]
  | .error (.input error) => [.evaluation "error" "failed" [("error", .text error.label)]]
  | .error .lengthMismatch => []

/-- Evaluates a line of input. -/
def evaluate (lexicon : Lexicon) (vars : Variables) (text : String) :
    Step EvalError Evaluation :=
  let result := Scope.evalText ⟨lexicon, vars⟩ text
  ⟨result, store vars result, evaluationRecords result⟩

/-- What a search puts on record: nothing, if it fails. -/
def searchRecords : Except Lexicon.SearchError Lexicon.Findings → List Record
  | .ok findings => findings.records
  | .error _ => []

/-- Searches the lexicon. -/
def search (lexicon : Lexicon) (vars : Variables) (query : Embedding) (count : Int)
    (excluded : List String) : Step Lexicon.SearchError (List Lexicon.Match) :=
  let outcome := lexicon.search query count excluded
  ⟨Lexicon.Findings.found <$> outcome, vars, searchRecords outcome⟩

end Session

end WordSpace
