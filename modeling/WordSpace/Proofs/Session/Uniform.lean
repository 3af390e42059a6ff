import WordSpace.Proofs.Lexicon.Uniform
import WordSpace.Proofs.Session.Lengths

/-!
Sessions over lexicons of one length.

An expression whose names stand for embeddings of one length has a vector of that length, or it has
no value because the input is wrong: lengths always fit (`Scope.eval_of_uniform`). A line of input
therefore leaves variables of that length behind (`Session.evaluate_of_uniform`), and so does a run
of lines (`Session.uniform_varsAfter`).
-/

namespace WordSpace

open Expression

variable {length : Nat}

/-! ## Expressions -/

theorem Scope.resolve_of_uniform (scope : Scope) (words : scope.lexicon.Uniform length)
    (vars : scope.vars.Uniform length) (name : String) :
    (∃ error, scope.resolve name = .error (.input error)) ∨
      ∃ value, scope.resolve name = .ok value ∧ value.vector.length = length := by
  unfold resolve
  split
  case h_1 v found => exact .inr ⟨_, rfl, Catalog.uniform_iff_get?.1 vars name v found⟩
  case h_2 =>
    split
    case h_1 v found => exact .inr ⟨_, rfl, Catalog.uniform_iff_get?.1 words name v found⟩
    case h_2 => exact .inl ⟨_, rfl⟩

/-- An expression has a vector of the one length, or the input is wrong. -/
theorem Scope.eval_of_uniform (scope : Scope) (words : scope.lexicon.Uniform length)
    (vars : scope.vars.Uniform length) (e : Expr) :
    (∃ error, scope.eval e = .error (.input error)) ∨
      ∃ value, scope.eval e = .ok value ∧ value.vector.length = length := by
  induction e with
  | word name => exact resolve_of_uniform scope words vars name
  | binary operator left right ihLeft ihRight =>
    obtain ⟨error, failed⟩ | ⟨a, found, lengthLeft⟩ := ihLeft
    · exact .inl ⟨error, by rw [eval, failed]; rfl⟩
    obtain ⟨error, failed⟩ | ⟨b, foundRight, lengthRight⟩ := ihRight
    · exact .inl ⟨error, by rw [eval, found, failed]; rfl⟩
    -- Operands of one length always fit, so the operator cannot be what fails.
    have same : a.vector.length = b.vector.length := lengthLeft.trans lengthRight.symm
    obtain ⟨-, joined, combined, lengthJoined⟩ | ⟨apart, -⟩ :=
      combine_cases operator a.vector b.vector
    · refine .inr ⟨_, eval_binary_eq_ok_iff.2 ⟨a, b, joined, found, foundRight, combined, rfl⟩, ?_⟩
      rw [Embedding.length_normalize, lengthJoined, jointLength_of_eq same, lengthLeft]
    · exact absurd (.inl same) apart

theorem Scope.length_of_uniform {scope : Scope} (words : scope.lexicon.Uniform length)
    (vars : scope.vars.Uniform length) {e : Expr} {value : Value}
    (found : scope.eval e = .ok value) : value.vector.length = length := by
  obtain ⟨error, failed⟩ | ⟨_, succeeded, fits⟩ := scope.eval_of_uniform words vars e
  · cases failed.symm.trans found
  · cases succeeded.symm.trans found
    exact fits

/-! ## Lines of input -/

namespace Session

variable {lexicon : Lexicon} {vars : Variables}

/-- A line of input is wrong or has a vector of the one length, and the variables keep it. -/
theorem evaluate_of_uniform (words : lexicon.Uniform length) (uniform : vars.Uniform length)
    (text : String) :
    ((∃ error, (evaluate lexicon vars text).result = .error (.input error)) ∨
        ∃ evaluation, (evaluate lexicon vars text).result = .ok evaluation ∧
          evaluation.vector.length = length) ∧
      (evaluate lexicon vars text).vars.Uniform length := by
  have outcome : (∃ error, (evaluate lexicon vars text).result = .error (.input error)) ∨
      ∃ evaluation, (evaluate lexicon vars text).result = .ok evaluation ∧
        evaluation.vector.length = length := by
    cases parsed : Statement.ofText text with
    | error error =>
      exact .inl ⟨.parse error, evaluate_result_of_not_parsed lexicon vars parsed⟩
    | ok s =>
      rw [evaluate_result_of_parsed lexicon vars parsed, Scope.evalStatement]
      obtain ⟨error, failed⟩ | ⟨value, found, fits⟩ :=
        Scope.eval_of_uniform ⟨lexicon, vars⟩ words uniform s.body
      · exact .inl ⟨error, by rw [failed]; rfl⟩
      · exact .inr ⟨_, by rw [found]; rfl, fits⟩
  refine ⟨outcome, ?_⟩
  obtain ⟨name, body, value, -, -, result, stored⟩ | ⟨-, kept⟩ := evaluate_cases lexicon vars text
  · obtain ⟨error, failed⟩ | ⟨evaluation, succeeded, fits⟩ := outcome
    · rw [result] at failed
      cases failed
    · rw [result] at succeeded
      cases succeeded
      rw [stored]
      exact uniform.insert name fits
  · rwa [kept]

theorem length_of_uniform (words : lexicon.Uniform length) (uniform : vars.Uniform length)
    {text : String} {evaluation : Evaluation}
    (ok : (evaluate lexicon vars text).result = .ok evaluation) :
    evaluation.vector.length = length := by
  obtain ⟨error, failed⟩ | ⟨_, found, fits⟩ := (evaluate_of_uniform words uniform text).1
  · rw [failed] at ok
    cases ok
  · rw [found] at ok
    cases ok
    exact fits

/-- A run of lines leaves variables of the one length behind. -/
theorem uniform_varsAfter (words : lexicon.Uniform length) (uniform : vars.Uniform length)
    (texts : List String) : (varsAfter lexicon vars texts).Uniform length := by
  induction texts generalizing vars with
  | nil => exact uniform
  | cons text rest ih => exact ih (evaluate_of_uniform words uniform text).2

end Session

end WordSpace
