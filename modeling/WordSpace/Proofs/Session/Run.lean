import Mathlib
import WordSpace.Session

/-!
Runs of a session: lines of input evaluated one after the other.

`Session.varsAfter` threads the variables through the lines of a run. One line changes them in one
way only: an assignment whose body has a value writes that value (`Session.evaluate_cases`). The
vector of an expression is found operand by operand (`Scope.vectorOf_binary`), whatever words it was
made from.
-/

namespace WordSpace

open Expression

/-! ## Vectors of expressions -/

namespace Scope

/-- The vector of an expression, without the words that it was made from. -/
def vectorOf (scope : Scope) (e : Expr) : Except EvalError Embedding := (·.vector) <$> scope.eval e

theorem vectorOf_eq_ok_iff {scope : Scope} {e : Expr} {v : Embedding} :
    scope.vectorOf e = .ok v ↔ ∃ value, scope.eval e = .ok value ∧ value.vector = v := by
  rw [vectorOf]
  cases scope.eval e <;> simp [Functor.map, Except.map]

theorem vectorOf_word_of_var {scope : Scope} {name : String} {v : Embedding}
    (found : scope.vars.get? name = some v) : scope.vectorOf (.word name) = .ok v := by
  simp [vectorOf, eval, resolve, found, Functor.map, Except.map]

theorem resolve_of_no_var {scope : Scope} {name : String} (absent : scope.vars.get? name = none) :
    scope.resolve name = resolve ⟨scope.lexicon, .empty⟩ name := by
  simp [resolve, absent]

theorem vectorOf_binary (scope : Scope) (operator : String) (left right : Expr) :
    scope.vectorOf (.binary operator left right) = do
      let a ← scope.vectorOf left
      let b ← scope.vectorOf right
      let combined ← (combine operator a b).mapError .ofMismatch
      return combined.normalize := by
  simp only [vectorOf, eval]
  cases scope.eval left with
  | error error => rfl
  | ok a =>
    cases scope.eval right with
    | error error => rfl
    | ok b =>
      simp only [Functor.map, Except.map, bind, Except.bind]
      cases combine operator a.vector b.vector <;> rfl

/-- An operator has a value if both operands have one and their lengths fit. -/
theorem eval_binary_eq_ok_iff {scope : Scope} {operator : String} {left right : Expr}
    {value : Value} :
    scope.eval (.binary operator left right) = .ok value ↔
      ∃ a b combined, scope.eval left = .ok a ∧ scope.eval right = .ok b ∧
        combine operator a.vector b.vector = .ok combined ∧
        value = ⟨combined.normalize, unite a.used b.used⟩ := by
  rw [eval]
  cases scope.eval left with
  | error error => simp [bind, Except.bind]
  | ok a =>
    cases scope.eval right with
    | error error => simp [bind, Except.bind]
    | ok b =>
      cases combined : combine operator a.vector b.vector with
      | error error => simp [bind, Except.bind, Except.mapError, combined]
      | ok embedding =>
        simp [bind, Except.bind, Except.mapError, combined, pure, Except.pure, eq_comm]

end Scope

/-! ## One line -/

namespace Session

theorem evaluate_result_of_parsed (lexicon : Lexicon) (vars : Variables) {text : String}
    {s : Statement} (parsed : Statement.ofText text = .ok s) :
    (evaluate lexicon vars text).result = Scope.evalStatement ⟨lexicon, vars⟩ s := by
  simp [evaluate, Scope.evalText, parsed, Except.mapError, bind, Except.bind]

theorem evaluate_result_of_not_parsed (lexicon : Lexicon) (vars : Variables) {text : String}
    {error : ParseError} (unparsed : Statement.ofText text = .error error) :
    (evaluate lexicon vars text).result = .error (.input (.parse error)) := by
  simp [evaluate, Scope.evalText, unparsed, Except.mapError, bind, Except.bind]

/-- A line has a value if it is read as a statement that has one. -/
theorem evaluate_result_eq_ok_iff {lexicon : Lexicon} {vars : Variables} {text : String}
    {evaluation : Evaluation} :
    (evaluate lexicon vars text).result = .ok evaluation ↔
      ∃ s, Statement.ofText text = .ok s ∧
        Scope.evalStatement ⟨lexicon, vars⟩ s = .ok evaluation := by
  cases parsed : Statement.ofText text with
  | error error => simp [evaluate_result_of_not_parsed lexicon vars parsed]
  | ok s => simp [evaluate_result_of_parsed lexicon vars parsed]

/-- The two ways of a line: an assignment whose body has a value stores it, and every other line
leaves the variables as they are. -/
theorem evaluate_cases (lexicon : Lexicon) (vars : Variables) (text : String) :
    (∃ name body value, Statement.ofText text = .ok (.assignment name body) ∧
      Scope.eval ⟨lexicon, vars⟩ body = .ok value ∧
      (evaluate lexicon vars text).result = .ok ⟨value.vector, value.used, some name⟩ ∧
      (evaluate lexicon vars text).vars = vars.insert name value.vector) ∨
    ((∀ name body evaluation, Statement.ofText text = .ok (.assignment name body) →
        (evaluate lexicon vars text).result ≠ .ok evaluation) ∧
      (evaluate lexicon vars text).vars = vars) := by
  cases parsed : Statement.ofText text with
  | error error =>
    refine .inr ⟨by simp, ?_⟩
    simp [evaluate, Scope.evalText, parsed, Except.mapError, bind, Except.bind, store]
  | ok s =>
    have result := evaluate_result_of_parsed lexicon vars parsed
    have kept : (evaluate lexicon vars text).vars =
        store vars (Scope.evalStatement ⟨lexicon, vars⟩ s) := by
      rw [← result]
      rfl
    rw [result, kept]
    cases s with
    | expression body =>
      refine .inr ⟨by simp, ?_⟩
      cases found : Scope.eval ⟨lexicon, vars⟩ body <;>
        simp [Scope.evalStatement, Statement.body, found, Statement.target?, store, Functor.map,
          Except.map]
    | assignment name body =>
      cases found : Scope.eval ⟨lexicon, vars⟩ body with
      | error error =>
        refine .inr ⟨?_, ?_⟩ <;>
          simp [Scope.evalStatement, Statement.body, found, store, Functor.map, Except.map]
      | ok value =>
        refine .inl ⟨name, body, value, rfl, found, ?_, ?_⟩ <;>
          simp [Scope.evalStatement, Statement.body, found, Statement.target?, store, Functor.map,
            Except.map]

/-! ## Several lines -/

/-- The variables behind several lines of input, evaluated one after the other. -/
def varsAfter (lexicon : Lexicon) (vars : Variables) : List String → Variables
  | [] => vars
  | text :: rest => varsAfter lexicon (evaluate lexicon vars text).vars rest

end Session

end WordSpace
