import WordSpace.Proofs.Session.Run

/-!
What lengths say of an evaluation.

Whether an expression has a value, the error if it has none, and the length of its vector if it has
one go by its names and the lengths of their vectors alone. `Expr.outcomeBy` finds them without any
numbers: the parts of an expression are looked at in post-order, and the first that is at fault
gives the error. An evaluation comes out in this way (`Session.evaluate_outcomeBy`).
-/

namespace WordSpace

open Expression

/-! ## Lengths of two embeddings -/

/-- The lengths of two embeddings that have a sum: they agree, or one of them is one. -/
def Fit (m n : Nat) : Prop := m = n ∨ m = 1 ∨ n = 1

instance (m n : Nat) : Decidable (Fit m n) := inferInstanceAs (Decidable (_ ∨ _ ∨ _))

/-- The length of a sum: a single number takes the length of the other embedding. -/
def jointLength (m n : Nat) : Nat := if m = 1 then n else m

theorem jointLength_of_eq {m n : Nat} (same : m = n) : jointLength m n = m := by
  subst same
  unfold jointLength
  split <;> rfl

theorem Embedding.align_cases (a b : Embedding) :
    (Fit a.length b.length ∧ ∃ pairs, align a b = .ok pairs ∧
      pairs.length = jointLength a.length b.length) ∨
    (¬Fit a.length b.length ∧ align a b = .error .lengthMismatch) := by
  unfold align
  split
  case h_1 x => exact .inl ⟨.inr (.inl rfl), _, rfl, List.length_map _⟩
  case h_2 y notSingle =>
    refine .inl ⟨.inr (.inr rfl), _, rfl, ?_⟩
    have other : a.length ≠ 1 := by
      intro single
      rcases List.length_eq_one_iff.1 single with ⟨x, rfl⟩
      exact notSingle x rfl
    rw [List.length_map, jointLength, if_neg other]
  case h_3 notLeft notRight =>
    split
    case isTrue same =>
      refine .inl ⟨.inl same, _, rfl, ?_⟩
      rw [jointLength_of_eq same, List.length_zip, same, Nat.min_self]
    case isFalse apart =>
      refine .inr ⟨?_, rfl⟩
      intro fit
      rcases fit with same | single | single
      · exact apart same
      · rcases List.length_eq_one_iff.1 single with ⟨x, rfl⟩
        exact notLeft x rfl
      · rcases List.length_eq_one_iff.1 single with ⟨y, rfl⟩
        exact notRight y rfl

/-- Two embeddings are joined if and only if their lengths fit, whatever the operator. -/
theorem Scope.combine_cases (operator : String) (a b : Embedding) :
    (Fit a.length b.length ∧ ∃ joined, combine operator a b = .ok joined ∧
      joined.length = jointLength a.length b.length) ∨
    (¬Fit a.length b.length ∧ combine operator a b = .error .lengthMismatch) := by
  unfold combine Embedding.add Embedding.subtract
  rcases Embedding.align_cases a b with ⟨fit, pairs, aligned, length⟩ | ⟨apart, failed⟩
  · refine .inl ⟨fit, ?_⟩
    rw [aligned]
    split
    · exact ⟨_, rfl, by rw [List.length_map, length]⟩
    · exact ⟨_, rfl, by rw [List.length_map, length]⟩
  · refine .inr ⟨apart, ?_⟩
    rw [failed]
    split <;> rfl

/-! ## Lengths of expressions -/

namespace Expression.Expr

/-- The parts of an expression, each operand before its operator and the left before the right. -/
def postorder : Expr → List Expr
  | .word name => [.word name]
  | .binary operator left right =>
    left.postorder ++ right.postorder ++ [.binary operator left right]

variable (lengthOf : String → Option Nat)

/-- The length that the vector of an expression has if there is nothing wrong in it. -/
def lengthBy : Expr → Nat
  | .word name => (lengthOf name).getD 0
  | .binary _ left right => jointLength left.lengthBy right.lengthBy

/-- What is wrong with a part of an expression if nothing is wrong with its own parts: a name
without a vector, or operands whose lengths do not fit. -/
def fault? : Expr → Option EvalError
  | .word name =>
    if (lengthOf name).isSome then none
    else if name.contains '_' then some (.input (.undefinedVariable name))
    else some (.input (.unknownWord name))
  | .binary _ left right =>
    if Fit (left.lengthBy lengthOf) (right.lengthBy lengthOf) then none else some .lengthMismatch

/-- The error of the first part that is at fault, or else the length of the vector. -/
def outcomeBy (e : Expr) : Except EvalError Nat :=
  match e.postorder.findSome? (fault? lengthOf) with
  | some error => .error error
  | none => .ok (e.lengthBy lengthOf)

/-- An operator is looked at behind its operands, the left one first. -/
theorem outcomeBy_binary (operator : String) (left right : Expr) :
    (Expr.binary operator left right).outcomeBy lengthOf = (do
      let m ← left.outcomeBy lengthOf
      let n ← right.outcomeBy lengthOf
      if Fit m n then .ok (jointLength m n) else .error .lengthMismatch) := by
  unfold outcomeBy
  rw [postorder, List.findSome?_append, List.findSome?_append]
  cases left.postorder.findSome? (fault? lengthOf) with
  | some error => rfl
  | none =>
    cases right.postorder.findSome? (fault? lengthOf) with
    | some error => rfl
    | none =>
      rw [Option.none_or, Option.none_or, List.findSome?_singleton, fault?]
      by_cases fit : Fit (left.lengthBy lengthOf) (right.lengthBy lengthOf)
      · rw [if_pos fit]
        exact (if_pos fit).symm
      · rw [if_neg fit]
        exact (if_neg fit).symm

end Expression.Expr

namespace Scope

/-- The length of the vector that a name stands for. -/
def lengthOf (scope : Scope) (name : String) : Option Nat :=
  ((scope.vars.get? name).or (scope.lexicon.get? name)).map List.length

theorem eval_word_outcomeBy (scope : Scope) (name : String) :
    (·.vector.length) <$> scope.eval (.word name) = (Expr.word name).outcomeBy scope.lengthOf := by
  unfold Expr.outcomeBy
  rw [eval, resolve, Expr.postorder, List.findSome?_singleton, Expr.fault?, Expr.lengthBy, lengthOf]
  cases scope.vars.get? name with
  | some v => rfl
  | none =>
    cases scope.lexicon.get? name with
    | some v => rfl
    | none =>
      by_cases underscore : name.contains '_' = true
      · rw [if_pos underscore, if_pos underscore]
        rfl
      · rw [if_neg underscore, if_neg underscore]
        rfl

/-- An expression comes out as its names and their lengths say. -/
theorem eval_outcomeBy (scope : Scope) (e : Expr) :
    (·.vector.length) <$> scope.eval e = e.outcomeBy scope.lengthOf := by
  induction e with
  | word name => exact scope.eval_word_outcomeBy name
  | binary operator left right ihLeft ihRight =>
    rw [Expr.outcomeBy_binary, ← ihLeft, ← ihRight, eval]
    cases scope.eval left with
    | error error => rfl
    | ok a =>
      cases scope.eval right with
      | error error => rfl
      | ok b =>
        change _ = if Fit a.vector.length b.vector.length then _ else _
        rcases combine_cases operator a.vector b.vector with
          ⟨fit, joined, combined, length⟩ | ⟨apart, failed⟩
        · rw [if_pos fit, ← length, ← Embedding.length_normalize joined]
          simp [bind, Except.bind, combined, Except.mapError, pure, Except.pure]
        · rw [if_neg apart]
          simp [bind, Except.bind, failed, Except.mapError, EvalError.ofMismatch]

end Scope

namespace Session

variable {lexicon : Lexicon} {vars : Variables}

/-- A statement has the error of the first part that is at fault, or else a vector of the length
that its parts give it; other numbers in the same lengths make no difference to either. -/
theorem evaluate_outcomeBy {text : String} {s : Statement}
    (parsed : Statement.ofText text = .ok s) :
    let lengthOf := Scope.lengthOf ⟨lexicon, vars⟩
    (·.vector.length) <$> (evaluate lexicon vars text).result = s.body.outcomeBy lengthOf ∧
      ∀ lexicon' vars', Scope.lengthOf ⟨lexicon', vars'⟩ = lengthOf →
        (·.vector.length) <$> (evaluate lexicon' vars' text).result =
          (·.vector.length) <$> (evaluate lexicon vars text).result := by
  intro lengthOf
  have outcome (lexicon : Lexicon) (vars : Variables) :
      (·.vector.length) <$> (evaluate lexicon vars text).result =
        s.body.outcomeBy (Scope.lengthOf ⟨lexicon, vars⟩) := by
    rw [evaluate_result_of_parsed lexicon vars parsed, Scope.evalStatement,
      ← Scope.eval_outcomeBy]
    cases Scope.eval ⟨lexicon, vars⟩ s.body <;> rfl
  refine ⟨outcome lexicon vars, ?_⟩
  intro lexicon' vars' same
  rw [outcome, outcome, same]

/-- In `b + c - nope` the lengths are at fault before the name is. -/
theorem evaluate_outcomeBy_lengths_first :
    let number := Float32.ofBits 0x3F800000
    let lexicon : Lexicon := .ofList [("b", [number, number]), ("c", [number, number, number])]
    Statement.ofText "b + c - nope" =
        .ok (.expression (.binary "-" (.binary "+" (.word "b") (.word "c")) (.word "nope"))) ∧
      (·.vector.length) <$> (evaluate lexicon .empty "b + c - nope").result =
        .error .lengthMismatch := by
  intro number lexicon
  have parsed : Statement.ofText "b + c - nope" =
      .ok (.expression (.binary "-" (.binary "+" (.word "b") (.word "c")) (.word "nope"))) := by cbv
  exact ⟨parsed, (evaluate_outcomeBy parsed).1.trans (by decide)⟩

end Session

end WordSpace
