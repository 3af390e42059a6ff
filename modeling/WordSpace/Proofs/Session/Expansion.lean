import WordSpace.Proofs.Session.Run

/-!
Variables as abbreviations.

A variable stands for the body of its latest successful assignment, in which the names that were
variables by then are replaced by what they stood for by then. `Session.expansionsAfter` keeps these
expansions along a run, which holds the vectors only. In each state of a run a variable has the
vector that its expansion has without any variables (`Session.Abbreviates`), so a line of input
comes out as its expanded statement does in a fresh session
(`Session.evaluate_eq_evalStatement_expand`).
-/

namespace WordSpace

open Expression

/-! ## Expansions -/

namespace Expression

/-- An expression with the names that stand for expressions replaced by these. -/
def Expr.expand (expansions : Catalog Expr) : Expr → Expr
  | .word name => (expansions.get? name).getD (.word name)
  | .binary operator left right =>
    .binary operator (left.expand expansions) (right.expand expansions)

/-- A statement with its body expanded. The name that it assigns to is left as it is. -/
def Statement.expand (expansions : Catalog Expr) : Statement → Statement
  | .expression body => .expression (body.expand expansions)
  | .assignment name body => .assignment name (body.expand expansions)

end Expression

namespace Session

/-- The expansions behind a line of input: an assignment that succeeds gives its name the expansion
of its body. -/
def expansionsStep (lexicon : Lexicon) (vars : Variables) (expansions : Catalog Expr)
    (text : String) : Catalog Expr :=
  match Statement.ofText text, (evaluate lexicon vars text).result with
  | .ok (.assignment name body), .ok _ => expansions.insert name (body.expand expansions)
  | _, _ => expansions

/-- The expansions behind several lines of input. -/
def expansionsAfter (lexicon : Lexicon) (vars : Variables) (expansions : Catalog Expr) :
    List String → Catalog Expr
  | [] => expansions
  | text :: rest =>
    expansionsAfter lexicon (evaluate lexicon vars text).vars
      (expansionsStep lexicon vars expansions text) rest

/-- Variables have the vectors that their expansions have in a fresh session, and no other names
have expansions. -/
def Abbreviates (lexicon : Lexicon) (vars : Variables) (expansions : Catalog Expr) : Prop :=
  ∀ name, (vars.get? name).map Except.ok =
    (expansions.get? name).map (Scope.vectorOf ⟨lexicon, .empty⟩)

/-! ## One state -/

variable {lexicon : Lexicon} {vars : Variables} {expansions : Catalog Expr}

/-- An expression has the vector that its expansion has in a fresh session. -/
theorem Abbreviates.vectorOf_eq (abbreviates : Abbreviates lexicon vars expansions) (e : Expr) :
    Scope.vectorOf ⟨lexicon, vars⟩ e = Scope.vectorOf ⟨lexicon, .empty⟩ (e.expand expansions) := by
  induction e with
  | word name =>
    have stands := abbreviates name
    cases var : vars.get? name with
    | none =>
      rw [var, Option.map_none, eq_comm, Option.map_eq_none_iff] at stands
      rw [Expr.expand, stands, Option.getD_none]
      simp only [Scope.vectorOf, Scope.eval]
      rw [Scope.resolve_of_no_var var]
    | some v =>
      rw [var, Option.map_some, eq_comm, Option.map_eq_some_iff] at stands
      obtain ⟨expansion, found, vector⟩ := stands
      rw [Scope.vectorOf_word_of_var var, Expr.expand, found, Option.getD_some, vector]
  | binary operator left right ihLeft ihRight =>
    rw [Expr.expand, Scope.vectorOf_binary, Scope.vectorOf_binary, ihLeft, ihRight]

/-- One line keeps variables and expansions together. -/
theorem Abbreviates.step (abbreviates : Abbreviates lexicon vars expansions) (text : String) :
    Abbreviates lexicon (evaluate lexicon vars text).vars
      (expansionsStep lexicon vars expansions text) := by
  obtain ⟨name, body, value, parsed, found, result, stored⟩ | ⟨noStore, kept⟩ :=
    evaluate_cases lexicon vars text
  · rw [stored, expansionsStep, parsed, result]
    have vector : Scope.vectorOf ⟨lexicon, vars⟩ body = .ok value.vector :=
      Scope.vectorOf_eq_ok_iff.2 ⟨value, found, rfl⟩
    intro other
    by_cases same : other = name
    · subst same
      rw [Catalog.get?_insert_self, Catalog.get?_insert_self, Option.map_some, Option.map_some,
        ← abbreviates.vectorOf_eq, vector]
    · rw [Catalog.get?_insert_of_ne _ same, Catalog.get?_insert_of_ne _ same]
      exact abbreviates other
  · rw [kept, expansionsStep]
    split
    · rename_i name body evaluation parsed result
      exact absurd result (noStore _ _ _ parsed)
    · exact abbreviates

/-! ## Whole runs -/

/-- A run keeps variables and expansions together. -/
theorem Abbreviates.run (abbreviates : Abbreviates lexicon vars expansions) (texts : List String) :
    Abbreviates lexicon (varsAfter lexicon vars texts)
      (expansionsAfter lexicon vars expansions texts) := by
  induction texts generalizing vars expansions with
  | nil => exact abbreviates
  | cons text rest ih => exact ih (abbreviates.step text)

/-- Behind any run of lines, the next statement has the vector, or fails with the error, that its
expansion has in a fresh session, and the variables are the names with an expansion, each with the
vector that its expansion has in a fresh session. -/
theorem evaluate_eq_evalStatement_expand (lexicon : Lexicon) (texts : List String) {next : String}
    {s : Statement} (parsed : Statement.ofText next = .ok s) :
    let vars := varsAfter lexicon .empty texts
    let expansions := expansionsAfter lexicon .empty .empty texts
    (·.vector) <$> (evaluate lexicon vars next).result =
        (·.vector) <$> Scope.evalStatement ⟨lexicon, .empty⟩ (s.expand expansions) ∧
      ∀ name, (vars.get? name).map Except.ok =
        (expansions.get? name).map fun e =>
          (·.vector) <$> Scope.evalStatement ⟨lexicon, .empty⟩ (.expression e) := by
  intro vars expansions
  have vectorOf_body (scope : Scope) (s : Statement) :
      (·.vector) <$> scope.evalStatement s = scope.vectorOf s.body := by
    rw [Scope.evalStatement, Scope.vectorOf]
    cases scope.eval s.body <;> rfl
  have abbreviates : Abbreviates lexicon vars expansions :=
    Abbreviates.run (fun _ => rfl) texts
  constructor
  · rw [evaluate_result_of_parsed lexicon vars parsed, vectorOf_body, vectorOf_body,
      abbreviates.vectorOf_eq]
    cases s <;> rfl
  · intro name
    rw [abbreviates name]
    congr 1
    funext e
    exact (vectorOf_body _ (.expression e)).symm

/-- Assigning to a variable does not change what was read from it before. -/
theorem evaluate_eq_evalStatement_expand_of_reassigned :
    let lexicon : Lexicon := .ofList [("cat", [Float32.ofBits 0x3F800000])]
    let vars := varsAfter lexicon .empty ["x = cat", "x = x + cat"]
    let expansions := expansionsAfter lexicon .empty .empty ["x = cat", "x = x + cat"]
    let next : Statement := .expression (.binary "-" (.word "x") (.word "cat"))
    Statement.ofText "x - cat" = .ok next ∧
      ((·.vector) <$> (evaluate lexicon vars "x - cat").result =
          (·.vector) <$> Scope.evalStatement ⟨lexicon, .empty⟩ (next.expand expansions) ∧
        ∀ name, (vars.get? name).map Except.ok =
          (expansions.get? name).map fun e =>
            (·.vector) <$> Scope.evalStatement ⟨lexicon, .empty⟩ (.expression e)) := by
  intro lexicon vars expansions next
  have parsed : Statement.ofText "x - cat" = .ok next := by cbv
  exact ⟨parsed, evaluate_eq_evalStatement_expand lexicon ["x = cat", "x = x + cat"] parsed⟩

end Session

end WordSpace
