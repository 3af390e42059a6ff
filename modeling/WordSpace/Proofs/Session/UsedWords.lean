import WordSpace.Proofs.Catalog
import WordSpace.Proofs.Expression.Identifiers
import WordSpace.Proofs.Session.Run

/-!
The words that a value is made from.

The value of an expression is made from those of its words that stand for no variable, and all of
them are words of the lexicon (`Scope.used_of_eval`). In a line of input these are the identifiers
of the text, or of what stands behind the equals sign of an assignment, that were no variables
before (`Session.evaluate_used`).
-/

namespace WordSpace

open Expression

/-! ## Expressions -/

namespace Scope

variable {scope : Scope} {value : Value}

theorem used_of_resolve {name : String} (found : scope.resolve name = .ok value) :
    value.used.Nodup ∧ (∀ word, word ∈ value.used ↔ word = name ∧ word ∉ scope.vars.names) ∧
      ∀ word ∈ value.used, word ∈ scope.lexicon.words := by
  unfold resolve at found
  split at found
  case h_1 v var =>
    cases found
    have known : name ∈ scope.vars.names :=
      Catalog.contains_iff.1 (Option.isSome_iff_exists.2 ⟨v, var⟩)
    refine ⟨List.nodup_nil, fun word => ?_, List.forall_mem_nil _⟩
    refine iff_of_false List.not_mem_nil ?_
    rintro ⟨rfl, new⟩
    exact new known
  case h_2 noVar =>
    split at found
    case h_2 => cases found
    case h_1 v word =>
      cases found
      have new : name ∉ scope.vars.names := Catalog.get?_eq_none_iff.1 noVar
      have listed : name ∈ scope.lexicon.words :=
        Catalog.contains_iff.1 (Option.isSome_iff_exists.2 ⟨v, word⟩)
      refine ⟨List.nodup_singleton name, fun word => ?_, List.forall_mem_singleton.2 listed⟩
      rw [List.mem_singleton, iff_self_and]
      rintro rfl
      exact new

/-- A value is made from the words of its expression that stand for no variable. -/
theorem used_of_eval {e : Expr} (found : scope.eval e = .ok value) :
    value.used.Nodup ∧ (∀ word, word ∈ value.used ↔ word ∈ e.words ∧ word ∉ scope.vars.names) ∧
      ∀ word ∈ value.used, word ∈ scope.lexicon.words := by
  induction e generalizing value with
  | word name =>
    obtain ⟨distinct, used, listed⟩ := used_of_resolve found
    refine ⟨distinct, fun word => ?_, listed⟩
    rw [used, Expr.words, List.mem_singleton]
  | binary operator left right ihLeft ihRight =>
    obtain ⟨a, b, joined, foundLeft, foundRight, -, rfl⟩ := eval_binary_eq_ok_iff.1 found
    obtain ⟨distinctLeft, usedLeft, listedLeft⟩ := ihLeft foundLeft
    obtain ⟨distinctRight, usedRight, listedRight⟩ := ihRight foundRight
    refine ⟨nodup_unite distinctLeft distinctRight, fun word => ?_, fun word member => ?_⟩
    · rw [mem_unite, usedLeft, usedRight, Expr.words, List.mem_append, or_and_right]
    · exact (mem_unite.1 member).elim (listedLeft word) (listedRight word)

end Scope

/-! ## Lines of input -/

namespace Session

/-- The identifiers of a text that stand for no variable. -/
def typedWords (vars : Variables) (text : List Char) : Finset String :=
  (identifiers text).toFinset.filter (· ∉ vars.names)

/-- The words `used` are those of a text that stand for no variable, and all are in the lexicon. -/
structure IsMadeFrom (lexicon : Lexicon) (vars : Variables) (text : List Char)
    (used : List String) : Prop where
  nodup : used.Nodup
  toFinset_eq : used.toFinset = typedWords vars text
  subset : typedWords vars text ⊆ lexicon.words.toFinset

variable {lexicon : Lexicon} {vars : Variables}

theorem isMadeFrom_of_eval {e : Expr} {value : Value} {text : List Char}
    (found : Scope.eval ⟨lexicon, vars⟩ e = .ok value) (words : identifiers text = e.words) :
    IsMadeFrom lexicon vars text value.used := by
  obtain ⟨distinct, used, listed⟩ := Scope.used_of_eval found
  have same : value.used.toFinset = typedWords vars text := by
    ext word
    rw [List.mem_toFinset, used, typedWords, Finset.mem_filter, List.mem_toFinset, words]
  refine ⟨distinct, same, fun word member => ?_⟩
  rw [← same, List.mem_toFinset] at member
  exact List.mem_toFinset.2 (listed word member)

/-- An expression is made from the identifiers of its text that stand for no variable, and an
assignment from those behind its equals sign. -/
theorem evaluate_used {text : String} {evaluation : Evaluation}
    (ok : (evaluate lexicon vars text).result = .ok evaluation) :
    (evaluation.assignment = none ∧ IsMadeFrom lexicon vars text.toList evaluation.used) ∨
      ∃ target front body, evaluation.assignment = some target ∧
        text.toList = front ++ '=' :: body ∧ '=' ∉ front ∧ identifiers front = [target] ∧
        IsMadeFrom lexicon vars body evaluation.used := by
  obtain ⟨s, parsed, evaluated⟩ := evaluate_result_eq_ok_iff.1 ok
  obtain ⟨value, found, rfl⟩ := exists_of_map_eq_ok evaluated
  cases s with
  | expression body =>
    exact .inl ⟨rfl, isMadeFrom_of_eval found (Statement.identifiers_of_expression parsed)⟩
  | assignment name e =>
    obtain ⟨front, body, whole, first, target, words⟩ :=
      Statement.identifiers_of_assignment parsed
    exact .inr ⟨name, front, body, rfl, whole, first, target, isMadeFrom_of_eval found words⟩

end Session

end WordSpace
