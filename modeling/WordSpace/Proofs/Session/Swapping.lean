import WordSpace.Proofs.Precision.NaN
import WordSpace.Proofs.Precision.Places
import WordSpace.Proofs.Session.UsedWords

/-!
Operands of plus signs change places.

A sum of two numbers is the same both ways round (`Precision.add_comm`), and so is one of two
embeddings (`Embedding.add_comm`). So expressions that differ by exchanged operands of plus signs
only (`Expr.Swaps`) have the same vector or none at all (`Scope.toOption_vectorOf_of_swaps`), and
the same words. Two lines of input that differ in this way come out alike, except that they may fail
with different errors (`Session.evaluate_of_swaps`).
-/

namespace WordSpace

open Expression

/-! ## Sums -/

namespace Precision

theorem add_comm (x y : Float32) : x + y = y + x :=
  congrArg (fun sum => Float32.ofModel (.pack sum))
    (unpacked_add_comm .binary32 x.toModel.unpack y.toModel.unpack)

end Precision

namespace Embedding

/-- Two embeddings are paired in the same way from either side. -/
theorem align_swap (a b : Embedding) : align b a = (·.map Prod.swap) <$> align a b := by
  by_cases same : a.length = b.length
  · rw [align_of_length_eq same, align_of_length_eq same.symm, ← List.zip_swap]
    rfl
  · match a, b with
    | [], [] | [_], [_] => exact absurd rfl same
    | [], [_] | [_], [] | [], _ :: _ :: _ | _ :: _ :: _, [] => rfl
    | [x], y :: y' :: b | y :: y' :: b, [x] => simp [align, Functor.map, Except.map]
    | x :: x' :: a, y :: y' :: b =>
      have forth : align (x :: x' :: a) (y :: y' :: b) = .error .lengthMismatch := if_neg same
      have back : align (y :: y' :: b) (x :: x' :: a) = .error .lengthMismatch :=
        if_neg (Ne.symm same)
      rw [forth, back]
      rfl

theorem add_comm (a b : Embedding) : add a b = add b a := by
  rw [add, add, align_swap b a]
  cases align b a with
  | error error => rfl
  | ok pairs =>
    change Except.ok ((pairs.map Prod.swap).map fun p => p.1 + p.2) =
      Except.ok (pairs.map fun p => p.1 + p.2)
    rw [List.map_map]
    congr 2
    funext p
    exact Precision.add_comm p.2 p.1

end Embedding

/-! ## Expressions -/

namespace Expression

/-- Two expressions are the same up to the places of the operands of plus signs, at any depth. -/
inductive Expr.Swaps : Expr → Expr → Prop where
  | word (name : String) : Swaps (.word name) (.word name)
  | binary (operator : String) {left right left' right' : Expr} (swapsLeft : Swaps left left')
    (swapsRight : Swaps right right') :
    Swaps (.binary operator left right) (.binary operator left' right')
  | plus {left right left' right' : Expr} (swapsLeft : Swaps left left')
    (swapsRight : Swaps right right') :
    Swaps (.binary "+" left right) (.binary "+" right' left')

/-- Two statements are expressions, or assignments to one name, that are the same up to the places
of the operands of plus signs. -/
inductive Statement.Swaps : Statement → Statement → Prop where
  | expression {body body' : Expr} (swaps : body.Swaps body') :
    Swaps (.expression body) (.expression body')
  | assignment (name : String) {body body' : Expr} (swaps : body.Swaps body') :
    Swaps (.assignment name body) (.assignment name body')

theorem Expr.Swaps.words_perm {e e' : Expr} (swaps : e.Swaps e') : e.words.Perm e'.words := by
  induction swaps with
  | word name => exact .refl _
  | binary operator _ _ ihLeft ihRight => exact ihLeft.append ihRight
  | plus _ _ ihLeft ihRight => exact (ihLeft.append ihRight).trans List.perm_append_comm

theorem Statement.Swaps.body {s s' : Statement} (swaps : s.Swaps s') : s.body.Swaps s'.body := by
  cases swaps with
  | expression swaps => exact swaps
  | assignment _ swaps => exact swaps

theorem Statement.Swaps.target? {s s' : Statement} (swaps : s.Swaps s') :
    s.target? = s'.target? := by
  cases swaps <;> rfl

end Expression

namespace Scope

variable {e e' : Expr}

/-- An operator has the vector that is made of those of its operands, if both have one. -/
theorem toOption_vectorOf_binary (scope : Scope) (operator : String) (left right : Expr) :
    (scope.vectorOf (.binary operator left right)).toOption =
      (scope.vectorOf left).toOption.bind fun a => (scope.vectorOf right).toOption.bind fun b =>
        (combine operator a b).toOption.map Embedding.normalize := by
  rw [vectorOf_binary]
  cases scope.vectorOf left with
  | error error => rfl
  | ok a =>
    cases scope.vectorOf right with
    | error error => rfl
    | ok b =>
      change (((combine operator a b).mapError _ >>= _).toOption) =
        (combine operator a b).toOption.map Embedding.normalize
      cases combine operator a b <;> rfl

theorem combine_plus_comm (a b : Embedding) : combine "+" a b = combine "+" b a := by
  rw [combine, combine, if_pos rfl, if_pos rfl, Embedding.add_comm]

/-- The operands of plus signs can change places: the vector stays the same, if there is one. -/
theorem toOption_vectorOf_of_swaps (scope : Scope) (swaps : e.Swaps e') :
    (scope.vectorOf e).toOption = (scope.vectorOf e').toOption := by
  induction swaps with
  | word name => rfl
  | binary operator _ _ ihLeft ihRight =>
    rw [toOption_vectorOf_binary, toOption_vectorOf_binary, ihLeft, ihRight]
  | plus _ _ ihLeft ihRight =>
    rw [toOption_vectorOf_binary, toOption_vectorOf_binary, ihLeft, ihRight, Option.bind_comm]
    simp only [combine_plus_comm]

/-- Expressions that differ by exchanged operands of plus signs have values of one vector and of the
same words, or no values at all. -/
theorem eval_of_swaps (scope : Scope) (swaps : e.Swaps e') :
    (∃ error error', scope.eval e = .error error ∧ scope.eval e' = .error error') ∨
      ∃ vector used used', scope.eval e = .ok ⟨vector, used⟩ ∧ scope.eval e' = .ok ⟨vector, used'⟩ ∧
        used.Perm used' := by
  have vectors := toOption_vectorOf_of_swaps scope swaps
  unfold vectorOf at vectors
  cases found : scope.eval e with
  | error error =>
    cases found' : scope.eval e' with
    | error error' => exact .inl ⟨error, error', rfl, rfl⟩
    | ok value' =>
      rw [found, found'] at vectors
      cases vectors
  | ok value =>
    cases found' : scope.eval e' with
    | error error' =>
      rw [found, found'] at vectors
      cases vectors
    | ok value' =>
      rw [found, found'] at vectors
      have same : value.vector = value'.vector := Option.some.inj vectors
      obtain ⟨distinct, used, -⟩ := used_of_eval found
      obtain ⟨distinct', used', -⟩ := used_of_eval found'
      refine .inr ⟨value.vector, value.used, value'.used, rfl, by rw [same], ?_⟩
      rw [List.perm_ext_iff_of_nodup distinct distinct']
      intro word
      rw [used, used', swaps.words_perm.mem_iff]

end Scope

/-! ## Lines of input -/

namespace Session

/-- Two lines of input come out alike: both fail, perhaps with different errors, or both have the
same vector, of the same words, and store it under the same name. -/
inductive Alike : Except EvalError Evaluation → Except EvalError Evaluation → Prop where
  | failed (error error' : EvalError) : Alike (.error error) (.error error')
  | same (vector : Embedding) (assignment : Option String) {used used' : List String}
    (words : used.Perm used') :
    Alike (.ok ⟨vector, used, assignment⟩) (.ok ⟨vector, used', assignment⟩)

/-- Lines that come out alike leave the same variables behind. -/
theorem Alike.store_eq {result result' : Except EvalError Evaluation}
    (alike : Alike result result') (vars : Variables) : store vars result = store vars result' := by
  cases alike with
  | failed => rfl
  | same _ assignment _ => cases assignment <;> rfl

/-- The operands of plus signs can change places, at any depth and however often: whatever the
variables are, the two lines come out alike, and leave the same variables behind. -/
theorem evaluate_of_swaps (lexicon : Lexicon) (vars : Variables) {text text' : String}
    {s s' : Statement} (parsed : Statement.ofText text = .ok s)
    (parsed' : Statement.ofText text' = .ok s') (swaps : s.Swaps s') :
    let step := evaluate lexicon vars text
    let step' := evaluate lexicon vars text'
    Alike step.result step'.result ∧ step.vars = step'.vars := by
  intro step step'
  have alike : Alike step.result step'.result := by
    unfold step step'
    rw [evaluate_result_of_parsed lexicon vars parsed,
      evaluate_result_of_parsed lexicon vars parsed', Scope.evalStatement, Scope.evalStatement]
    obtain ⟨error, error', failed, failed'⟩ | ⟨vector, used, used', found, found', words⟩ :=
      Scope.eval_of_swaps ⟨lexicon, vars⟩ swaps.body
    · rw [failed, failed']
      exact .failed error error'
    · rw [found, found', ← swaps.target?]
      exact .same vector s.target? words
  exact ⟨alike, alike.store_eq vars⟩

/-- Two plus signs are turned round, one of them below a minus sign; the words come in another
order. -/
theorem evaluate_of_swaps_nested :
    let one := Float32.ofBits 0x3F800000
    let lexicon : Lexicon := .ofList
      [("cat", [one, Float32.ofBits 0]), ("dog", [Float32.ofBits 0, one]), ("emu", [one, one])]
    let step := evaluate lexicon .empty "x = dog + cat - emu + cat"
    let step' := evaluate lexicon .empty "x = cat + (cat + dog - emu)"
    ((·.used) <$> step.result = .ok ["dog", "cat", "emu"] ∧
        (·.used) <$> step'.result = .ok ["cat", "dog", "emu"]) ∧
      Alike step.result step'.result ∧ step.vars = step'.vars := by
  intro one lexicon step step'
  have parsed : Statement.ofText "x = dog + cat - emu + cat" = .ok (.assignment "x"
      (.binary "+" (.binary "-" (.binary "+" (.word "dog") (.word "cat")) (.word "emu"))
        (.word "cat"))) := by cbv
  have parsed' : Statement.ofText "x = cat + (cat + dog - emu)" = .ok (.assignment "x"
      (.binary "+" (.word "cat")
        (.binary "-" (.binary "+" (.word "cat") (.word "dog")) (.word "emu")))) := by cbv
  have inner : Expr.Swaps (.binary "+" (.word "dog") (.word "cat"))
      (.binary "+" (.word "cat") (.word "dog")) := .plus (.word "dog") (.word "cat")
  have swaps := Statement.Swaps.assignment "x"
    (.plus (.binary "-" inner (.word "emu")) (.word "cat"))
  have succeeds : (·.used) <$> step.result = .ok ["dog", "cat", "emu"] := by decide +kernel
  have succeeds' : (·.used) <$> step'.result = .ok ["cat", "dog", "emu"] := by decide +kernel
  exact ⟨⟨succeeds, succeeds'⟩, evaluate_of_swaps lexicon .empty parsed parsed' swaps⟩

end Session

end WordSpace
