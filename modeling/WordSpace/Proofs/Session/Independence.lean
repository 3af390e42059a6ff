import WordSpace.Proofs.Session.Assignments

/-!
Lines of input that do not depend on each other.

A line comes out in one way wherever the names in its expression stand for the same
(`Session.evaluate_result_congr`), and it changes what its target stands for and nothing else
(`Session.get?_evaluate_vars`). So two lines of which neither assigns to a name in the other one can
change places: each comes out as before, and the variables behind them are the same
(`Session.evaluate_comm`).
-/

namespace WordSpace

open Expression

/-! ## Catalogs -/

namespace Catalog

variable {α : Type}

/-- Two values under different names can be put in either way round. -/
theorem get?_insert_comm (catalog : Catalog α) {first second : String} (apart : first ≠ second)
    (a b : α) (name : String) :
    ((catalog.insert first a).insert second b).get? name =
      ((catalog.insert second b).insert first a).get? name := by
  by_cases isFirst : name = first
  · subst isFirst
    rw [get?_insert_of_ne _ apart, get?_insert_self, get?_insert_self]
  · rw [get?_insert_of_ne _ isFirst]
    by_cases isSecond : name = second
    · subst isSecond
      rw [get?_insert_self, get?_insert_self]
    · rw [get?_insert_of_ne _ isSecond, get?_insert_of_ne _ isSecond,
        get?_insert_of_ne _ isFirst]

/-- What is put in under different names, if anything is, can be put in either way round. -/
theorem get?_insertAll_toList_comm (catalog : Catalog α) {one other : Option (String × α)}
    (apart : ∀ a b, one = some a → other = some b → a.1 ≠ b.1) (name : String) :
    ((catalog.insertAll one.toList).insertAll other.toList).get? name =
      ((catalog.insertAll other.toList).insertAll one.toList).get? name := by
  cases one with
  | none => rfl
  | some a =>
    cases other with
    | none => rfl
    | some b => exact catalog.get?_insert_comm (apart a b rfl rfl) a.2 b.2 name

/-- Catalogs with the same values have the same names. -/
theorem names_perm_of_get?_eq {left right : Catalog α}
    (same : ∀ name, left.get? name = right.get? name) : left.names.Perm right.names := by
  refine (List.perm_ext_iff_of_nodup left.nodup_names right.nodup_names).2 fun name => ?_
  rw [← contains_iff, ← contains_iff, contains, contains, same]

/-- Names that are there keep their places when others come. -/
theorem names_prefix_names_insertAll (catalog : Catalog α) (pairs : List (String × α)) :
    catalog.names <+: (catalog.insertAll pairs).names := by
  induction pairs generalizing catalog with
  | nil => exact List.prefix_rfl
  | cons pair pairs ih =>
    refine List.IsPrefix.trans ?_ (ih _)
    rw [names_insert]
    split
    · exact List.prefix_rfl
    · exact List.prefix_append _ _

end Catalog

/-! ## Expressions -/

/-- The value of an expression goes by what its own words stand for. -/
theorem Scope.eval_congr {lexicon : Lexicon} {vars vars' : Variables} {e : Expr}
    (same : ∀ name ∈ e.words, vars.get? name = vars'.get? name) :
    Scope.eval ⟨lexicon, vars⟩ e = Scope.eval ⟨lexicon, vars'⟩ e := by
  induction e with
  | word name =>
    rw [eval, eval, resolve, resolve, same name List.mem_cons_self]
  | binary operator left right ihLeft ihRight =>
    obtain ⟨sameLeft, sameRight⟩ := List.forall_mem_append.1 same
    rw [eval, eval, ihLeft sameLeft, ihRight sameRight]

/-! ## Lines of input -/

namespace Session

variable {lexicon : Lexicon} {vars vars' : Variables} {text first second : String}

/-- A line comes out in the same way if the words of its expression stand for the same. -/
theorem evaluate_result_congr
    (same : ∀ s, Statement.ofText text = .ok s →
      ∀ name ∈ s.body.words, vars.get? name = vars'.get? name) :
    (evaluate lexicon vars text).result = (evaluate lexicon vars' text).result := by
  cases parsed : Statement.ofText text with
  | error error =>
    rw [evaluate_result_of_not_parsed lexicon vars parsed,
      evaluate_result_of_not_parsed lexicon vars' parsed]
  | ok s =>
    rw [evaluate_result_of_parsed lexicon vars parsed,
      evaluate_result_of_parsed lexicon vars' parsed, Scope.evalStatement, Scope.evalStatement,
      Scope.eval_congr (same s parsed)]

/-- A line changes only what its target stands for. -/
theorem get?_evaluate_vars {name : String}
    (noTarget : ∀ body, Statement.ofText text ≠ .ok (.assignment name body)) :
    (evaluate lexicon vars text).vars.get? name = vars.get? name := by
  obtain ⟨target, body, value, parsed, -, -, stored⟩ | ⟨-, kept⟩ :=
    evaluate_cases lexicon vars text
  · rw [stored]
    refine Catalog.get?_insert_of_ne vars ?_ value.vector
    rintro rfl
    exact noTarget body parsed
  · rw [kept]

/-- The name to which a line assigns, if it is an assignment, does not occur in another line,
neither as a word of its expression nor as its target. -/
def LeavesAlone (first second : String) : Prop :=
  ∀ target body s, Statement.ofText first = .ok (.assignment target body) →
    Statement.ofText second = .ok s → target ∉ s.body.words ∧ s.target? ≠ some target

/-- A line comes out behind another one that leaves it alone as it comes out at once. -/
theorem LeavesAlone.evaluate_result_eq (alone : LeavesAlone first second) :
    (evaluate lexicon (evaluate lexicon vars first).vars second).result =
      (evaluate lexicon vars second).result := by
  refine evaluate_result_congr fun s parsed name member => ?_
  refine get?_evaluate_vars fun body assigned => ?_
  exact (alone name body s assigned parsed).1 member

/-- What a line stores goes under the name to which it assigns. -/
theorem Evaluated.assignment_of_stored? {line : Evaluated} {pair : String × Embedding}
    (stored : line.stored? = some pair) :
    ∃ body, Statement.ofText line.text = .ok (.assignment pair.1 body) := by
  unfold stored? at stored
  split at stored
  · rename_i target body evaluation parsed result
    cases stored
    exact ⟨body, parsed⟩
  · cases stored

theorem LeavesAlone.targets_ne {one other : Evaluated} {a b : String × Embedding}
    (alone : LeavesAlone one.text other.text) (storedOne : one.stored? = some a)
    (storedOther : other.stored? = some b) : a.1 ≠ b.1 := by
  obtain ⟨body, parsedOne⟩ := Evaluated.assignment_of_stored? storedOne
  obtain ⟨body', parsedOther⟩ := Evaluated.assignment_of_stored? storedOther
  intro same
  refine (alone a.1 body _ parsedOne parsedOther).2 ?_
  rw [same]
  rfl

theorem names_prefix_evaluate (lexicon : Lexicon) (vars : Variables) (text : String) :
    vars.names <+: (evaluate lexicon vars text).vars.names := by
  rw [evaluate_vars_eq_insertAll]
  exact vars.names_prefix_names_insertAll _

/-- Lines that leave each other alone can change places: each comes out as it does in the other
order, and they leave variables with the same names and vectors behind. In both orders the names
that were there before come first, in their order. -/
theorem evaluate_comm (lexicon : Lexicon) (vars : Variables) (alone : LeavesAlone first second)
    (alone' : LeavesAlone second first) :
    let forth := evaluate lexicon (evaluate lexicon vars first).vars second
    let back := evaluate lexicon (evaluate lexicon vars second).vars first
    forth.result = (evaluate lexicon vars second).result ∧
      back.result = (evaluate lexicon vars first).result ∧
      (∀ name, forth.vars.get? name = back.vars.get? name) ∧ forth.vars.names.Perm back.vars.names ∧
      vars.names <+: forth.vars.names ∧ vars.names <+: back.vars.names := by
  intro forth back
  have resultForth : forth.result = (evaluate lexicon vars second).result :=
    alone.evaluate_result_eq
  have resultBack : back.result = (evaluate lexicon vars first).result :=
    alone'.evaluate_result_eq
  have values (name : String) : forth.vars.get? name = back.vars.get? name := by
    let one : Evaluated := ⟨first, (evaluate lexicon vars first).result⟩
    let other : Evaluated := ⟨second, (evaluate lexicon vars second).result⟩
    have varsForth : forth.vars =
        (vars.insertAll one.stored?.toList).insertAll other.stored?.toList := by
      unfold forth at resultForth ⊢
      rw [evaluate_vars_eq_insertAll, resultForth, evaluate_vars_eq_insertAll]
    have varsBack : back.vars =
        (vars.insertAll other.stored?.toList).insertAll one.stored?.toList := by
      unfold back at resultBack ⊢
      rw [evaluate_vars_eq_insertAll, resultBack, evaluate_vars_eq_insertAll]
    rw [varsForth, varsBack]
    refine vars.get?_insertAll_toList_comm (fun a b storedOne storedOther => ?_) name
    exact LeavesAlone.targets_ne alone storedOne storedOther
  refine ⟨resultForth, resultBack, values, Catalog.names_perm_of_get?_eq values, ?_, ?_⟩
  · exact (names_prefix_evaluate lexicon vars first).trans (names_prefix_evaluate lexicon _ second)
  · exact (names_prefix_evaluate lexicon vars second).trans (names_prefix_evaluate lexicon _ first)

/-- Each of two assignments comes first in one of the orders, and so does the name it makes. -/
theorem evaluate_comm_of_new_names :
    let lexicon : Lexicon :=
      .ofList [("cat", [Float32.ofBits 0x3F800000]), ("dog", [Float32.ofBits 0x40000000])]
    let vars := varsAfter lexicon .empty ["y = dog"]
    let forth := evaluate lexicon (evaluate lexicon vars "X = cat - y").vars "z = dog + Cat"
    let back := evaluate lexicon (evaluate lexicon vars "z = dog + Cat").vars "X = cat - y"
    (LeavesAlone "X = cat - y" "z = dog + Cat" ∧ LeavesAlone "z = dog + Cat" "X = cat - y") ∧
      forth.result = (evaluate lexicon vars "z = dog + Cat").result ∧
        back.result = (evaluate lexicon vars "X = cat - y").result ∧
        (∀ name, forth.vars.get? name = back.vars.get? name) ∧
        forth.vars.names.Perm back.vars.names ∧ vars.names <+: forth.vars.names ∧
        vars.names <+: back.vars.names := by
  intro lexicon vars forth back
  have parsedX : Statement.ofText "X = cat - y" =
      .ok (.assignment "x" (.binary "-" (.word "cat") (.word "y"))) := by cbv
  have parsedZ : Statement.ofText "z = dog + Cat" =
      .ok (.assignment "z" (.binary "+" (.word "dog") (.word "cat"))) := by cbv
  have alone : LeavesAlone "X = cat - y" "z = dog + Cat" := by
    intro target body s assigned parsed
    rw [parsedX] at assigned
    rw [parsedZ] at parsed
    cases assigned
    cases parsed
    decide
  have alone' : LeavesAlone "z = dog + Cat" "X = cat - y" := by
    intro target body s assigned parsed
    rw [parsedZ] at assigned
    rw [parsedX] at parsed
    cases assigned
    cases parsed
    decide
  exact ⟨⟨alone, alone'⟩, evaluate_comm lexicon vars alone alone'⟩

end Session

end WordSpace
