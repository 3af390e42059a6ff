import WordSpace.Proofs.Catalog
import WordSpace.Proofs.Session.Run

/-!
What a run of lines leaves behind.

`Session.history` lists the lines of a run with their results. A line that assigns and succeeds has
something to store (`Session.Evaluated.stored?`), and a run writes what its lines store, one after
the other, whatever stands between them (`Session.varsAfter_eq_insertAll`). So the other lines can
be left out: the assignments that succeeded come out in the same way when they are run alone
(`Session.history_stores`).
-/

namespace WordSpace.Session

open Expression

/-- A line of input and what came of it. -/
structure Evaluated where
  text : String
  result : Except EvalError Evaluation

/-- The lines of a run with their results. -/
def history (lexicon : Lexicon) (vars : Variables) : List String → List Evaluated
  | [] => []
  | text :: rest =>
    ⟨text, (evaluate lexicon vars text).result⟩ ::
      history lexicon (evaluate lexicon vars text).vars rest

namespace Evaluated

/-- The target and the vector of a line that is an assignment and succeeded. -/
def stored? (line : Evaluated) : Option (String × Embedding) :=
  match Statement.ofText line.text, line.result with
  | .ok (.assignment name _), .ok evaluation => some (name, evaluation.vector)
  | _, _ => none

/-- Whether a line is an assignment and succeeded. -/
def stores (line : Evaluated) : Bool := line.stored?.isSome

theorem filterMap_stored?_filter_stores (lines : List Evaluated) :
    (lines.filter stores).filterMap stored? = lines.filterMap stored? := by
  rw [List.filterMap_filter]
  congr 1
  funext line
  cases found : line.stored? <;> simp [stores, found]

end Evaluated

/-! ## One line -/

/-- One line writes what it stores, and nothing else. -/
theorem evaluate_vars_eq_insertAll (lexicon : Lexicon) (vars : Variables) (text : String) :
    (evaluate lexicon vars text).vars =
      vars.insertAll (Evaluated.stored? ⟨text, (evaluate lexicon vars text).result⟩).toList := by
  rcases evaluate_cases lexicon vars text with
    ⟨name, body, value, parsed, -, result, stored⟩ | ⟨noStore, kept⟩
  · rw [stored, Evaluated.stored?, parsed, result]
    rfl
  · rw [kept, Evaluated.stored?]
    split
    · rename_i name body evaluation parsed result
      exact absurd result (noStore _ _ _ parsed)
    · rfl

/-- A line that stores nothing leaves the variables as they are. -/
theorem evaluate_vars_of_not_stores {lexicon : Lexicon} {vars : Variables} {text : String}
    (idle : Evaluated.stores ⟨text, (evaluate lexicon vars text).result⟩ ≠ true) :
    (evaluate lexicon vars text).vars = vars := by
  have nothing := Option.not_isSome_iff_eq_none.1 idle
  rw [evaluate_vars_eq_insertAll, nothing]
  rfl

/-! ## Whole runs -/

/-- A run writes what its lines store, one after the other. -/
theorem varsAfter_eq_insertAll (lexicon : Lexicon) (vars : Variables) (texts : List String) :
    varsAfter lexicon vars texts =
      vars.insertAll ((history lexicon vars texts).filterMap Evaluated.stored?) := by
  induction texts generalizing vars with
  | nil => rfl
  | cons text rest ih =>
    rw [varsAfter, ih, history, evaluate_vars_eq_insertAll, List.filterMap_cons]
    cases Evaluated.stored? ⟨text, (evaluate lexicon vars text).result⟩ with
    | none => rfl
    | some stored => rfl

/-- The lines that store something come out in the same way without the others. -/
theorem history_stores (lexicon : Lexicon) (vars : Variables) (texts : List String) :
    history lexicon vars (((history lexicon vars texts).filter Evaluated.stores).map (·.text)) =
      (history lexicon vars texts).filter Evaluated.stores := by
  induction texts generalizing vars with
  | nil => rfl
  | cons text rest ih =>
    rw [history, List.filter_cons]
    split
    · rw [List.map_cons, history, ih]
    · rename_i idle
      rw [evaluate_vars_of_not_stores idle, ih]

/-- A run leaves nothing behind but its successful assignments: the variables are their targets, in
the order in which each was first assigned to, a variable has the vector of the last of them that
assigned to it, and these lines alone, run one after the other, give the same results and the same
variables. -/
theorem varsAfter_eq_varsAfter_stores (lexicon : Lexicon) (texts : List String) :
    let vars := varsAfter lexicon .empty texts
    let assignments := (history lexicon .empty texts).filter Evaluated.stores
    let stored := assignments.filterMap Evaluated.stored?
    vars.names = (stored.map Prod.fst).eraseDups ∧
      (∀ name, vars.get? name = stored.reverse.lookup name) ∧
      history lexicon .empty (assignments.map Evaluated.text) = assignments ∧
      varsAfter lexicon .empty (assignments.map Evaluated.text) = vars := by
  intro vars assignments stored
  have all : stored = (history lexicon .empty texts).filterMap Evaluated.stored? :=
    Evaluated.filterMap_stored?_filter_stores _
  have written : vars = .ofList stored := by
    rw [all]
    exact varsAfter_eq_insertAll lexicon .empty texts
  have alone : history lexicon .empty (assignments.map Evaluated.text) = assignments :=
    history_stores lexicon .empty texts
  refine ⟨?_, fun name => ?_, alone, ?_⟩
  · rw [written, Catalog.names_ofList]
  · rw [written, Catalog.get?_ofList]
  · rw [varsAfter_eq_insertAll, alone, written]
    rfl

end WordSpace.Session
