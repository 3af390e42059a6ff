import WordSpace.Proofs.Outcomes
import WordSpace.Proofs.Precision.NaN
import WordSpace.Proofs.Session.Uniform

/-!
NaN in expressions.

NaN comes into an expression by a name whose embedding has it, or by an expression of finite
numbers that is subtracted from itself (`Scope.BringsNaN`). It never leaves: every operator above
such a part has a vector of nothing but NaN (`Scope.isNaN_of_part`), and where the vector of a
search has NaN in it, no word is nearer than another (`Lexicon.nearest_of_isNaN`). Both hold of
every line of a session, whose variables carry NaN from one line to the next
(`Session.evaluate_of_bringsNaN`).
-/

namespace WordSpace

open Expression

/-! ## Searches -/

namespace Lexicon

variable {lexicon : Lexicon} {query : Embedding} {count : Int}

theorem mayPrecede_of_isNaN {x y : Float32} (nan : y.isNaN = true) : mayPrecede x y = true := by
  rw [mayPrecede, Precision.rank?_eq_none_iff.2 nan]

/-- Matches without a similarity stay in their order. -/
theorem ranked_of_isNaN {found : List Match} (nan : ∀ m ∈ found, m.similarity.isNaN = true) :
    ranked found = found := by
  apply List.mergeSort_of_pairwise
  apply List.pairwise_of_forall_mem_list
  exact fun _ _ m member => mayPrecede_of_isNaN (nan m member)

/-- The matches `found` are the first words that are not excluded, in the order of the lexicon, none
of which has a similarity. -/
structure IsUnranked (lexicon : Lexicon) (count : Int) (excluded : List String)
    (found : List Match) : Prop where
  words : found.map Match.word = (lexicon.words.filter (!excluded.contains ·)).take count.toNat
  similarity : ∀ m ∈ found, m.similarity.isNaN = true

/-- A query with NaN in it ranks no word before another. -/
theorem nearest_of_isNaN (uniform : lexicon.Uniform query.length)
    (nan : ∃ x ∈ query, x.isNaN = true) (short : count < 10 ^ Decimal.maxDigits)
    (excluded : List String) :
    ∃ found, lexicon.nearest query count excluded = .ok found ∧
      IsUnranked lexicon count excluded found := by
  have void : ∀ m ∈ candidates excluded (scored lexicon query.normalize),
      m.similarity.isNaN = true := by
    intro m member
    obtain ⟨entry, listed, rfl⟩ := List.mem_map.1 (List.mem_of_mem_filter member)
    have fits : query.normalize.length = entry.2.length := by
      rw [Embedding.length_normalize, uniform entry listed]
    have filled : entry.2 ≠ [] := by
      obtain ⟨x, within, -⟩ := nan
      rw [← List.length_pos_iff, uniform entry listed]
      exact List.length_pos_of_mem within
    exact Embedding.isNaN_inner_of_forall fits filled
      (.inl (Embedding.isNaN_of_mem_normalize nan))
  refine ⟨_, nearest_of_uniform uniform short excluded, ?_⟩
  rw [ranking, ranked_of_isNaN void]
  constructor
  case words => rw [List.map_take, map_word_candidates, map_word_scored]
  case similarity => exact fun m member => void m (List.mem_of_mem_take member)

end Lexicon

/-! ## Expressions -/

namespace Scope

variable {scope : Scope} {length : Nat}

/-- A part of an expression brings NaN into it: a name whose embedding has NaN in it, or an
expression of finite numbers that is subtracted from itself. -/
inductive BringsNaN (scope : Scope) : Expr → Prop where
  | name {name : String} {v : Embedding} (found : scope.vectorOf (.word name) = .ok v)
    (nan : ∃ x ∈ v, x.isNaN = true) : BringsNaN scope (.word name)
  | difference {e : Expr} {v : Embedding} (found : scope.vectorOf e = .ok v)
    (finite : ∀ x ∈ v, x.isFinite = true) : BringsNaN scope (.binary "-" e e)

/-- An operator has nothing but NaN as soon as one operand has NaN in it. -/
theorem isNaN_of_operand {operator : String} {a b joined : Embedding}
    (same : a.length = b.length) (combined : combine operator a b = .ok joined)
    (nan : (∃ x ∈ a, x.isNaN = true) ∨ ∃ y ∈ b, y.isNaN = true) :
    ∀ z ∈ joined.normalize, z.isNaN = true := by
  apply Embedding.isNaN_of_mem_normalize
  unfold combine at combined
  split at combined
  case isTrue =>
    rw [Embedding.add, Embedding.align_of_length_eq same] at combined
    cases combined
    exact Embedding.exists_isNaN_of_zip (fun _ _ => Precision.isNaN_add) same nan
  case isFalse =>
    rw [Embedding.subtract, Embedding.align_of_length_eq same] at combined
    cases combined
    exact Embedding.exists_isNaN_of_zip (fun _ _ => Precision.isNaN_sub) same nan

/-- The difference of finite numbers with themselves has nothing but NaN. -/
theorem isNaN_of_difference {a joined : Embedding} (finite : ∀ x ∈ a, x.isFinite = true)
    (combined : combine "-" a a = .ok joined) : ∀ z ∈ joined.normalize, z.isNaN = true := by
  rw [combine, if_neg (by decide), Embedding.subtract_self finite] at combined
  cases combined
  exact Embedding.isNaN_of_mem_normalize_zeros

/-- An expression that NaN is brought into has NaN in its vector. If it is brought in below an
operator, or by a difference, there is nothing else. -/
theorem isNaN_of_part {e part : Expr} {value : Value} (words : scope.lexicon.Uniform length)
    (vars : scope.vars.Uniform length) (positive : 0 < length) (found : scope.eval e = .ok value)
    (within : part ∈ e.postorder) (brings : scope.BringsNaN part) :
    (∃ x ∈ value.vector, x.isNaN = true) ∧
      ((e ≠ part ∨ ∃ d, part = .binary "-" d d) → ∀ x ∈ value.vector, x.isNaN = true) := by
  induction e generalizing value with
  | word name =>
    cases List.mem_singleton.1 within
    cases brings with
    | name named nan =>
      obtain ⟨_, same, rfl⟩ := vectorOf_eq_ok_iff.1 named
      cases same.symm.trans found
      refine ⟨nan, ?_⟩
      rintro (other | ⟨d, difference⟩)
      · exact absurd rfl other
      · cases difference
  | binary operator left right ihLeft ihRight =>
    have filled := length_of_uniform words vars found
    obtain ⟨a, b, joined, foundLeft, foundRight, combined, rfl⟩ := eval_binary_eq_ok_iff.1 found
    have same : a.vector.length = b.vector.length :=
      (length_of_uniform words vars foundLeft).trans
        (length_of_uniform words vars foundRight).symm
    have all : ∀ z ∈ joined.normalize, z.isNaN = true := by
      rw [Expr.postorder, List.mem_append, List.mem_append, List.mem_singleton] at within
      rcases within with (within | within) | rfl
      · exact isNaN_of_operand same combined (.inl (ihLeft foundLeft within).1)
      · exact isNaN_of_operand same combined (.inr (ihRight foundRight within).1)
      · cases brings with
        | difference named finite =>
          obtain ⟨_, value, rfl⟩ := vectorOf_eq_ok_iff.1 named
          cases value.symm.trans foundLeft
          cases value.symm.trans foundRight
          exact isNaN_of_difference finite combined
    obtain ⟨x, member⟩ := List.exists_mem_of_length_pos (positive.trans_eq filled.symm)
    exact ⟨⟨x, member, all x member⟩, fun _ => all⟩

end Scope

/-! ## Lines of input -/

namespace Session

variable {lexicon : Lexicon} {length : Nat}

/-- Behind any lines of a session over a lexicon of one length, which is not zero, a line that NaN
is brought into finds the first words that are not excluded, in their order and without a
similarity. If it is brought in below an operator, or by a difference, the vector has nothing but
NaN. -/
theorem evaluate_of_bringsNaN (words : lexicon.Uniform length) (positive : 0 < length)
    (texts : List String) {text : String} {s : Statement} {evaluation : Evaluation} {part : Expr}
    (parsed : Statement.ofText text = .ok s)
    (ok : (evaluate lexicon (varsAfter lexicon .empty texts) text).result = .ok evaluation)
    (within : part ∈ s.body.postorder)
    (brings : Scope.BringsNaN ⟨lexicon, varsAfter lexicon .empty texts⟩ part) :
    (∀ (count : Int) (excluded : List String), count < 10 ^ Decimal.maxDigits →
      ∃ found, lexicon.nearest evaluation.vector count excluded = .ok found ∧
        Lexicon.IsUnranked lexicon count excluded found) ∧
    ((s.body ≠ part ∨ ∃ d, part = .binary "-" d d) →
      ∀ x ∈ evaluation.vector, x.isNaN = true) := by
  have vars : (varsAfter lexicon .empty texts).Uniform length :=
    uniform_varsAfter words Catalog.uniform_empty texts
  have fits : evaluation.vector.length = length := length_of_uniform words vars ok
  rw [evaluate_result_of_parsed lexicon _ parsed] at ok
  obtain ⟨value, found, rfl⟩ := exists_of_map_eq_ok ok
  obtain ⟨tainted, all⟩ := Scope.isNaN_of_part words vars positive found within brings
  refine ⟨fun count excluded short => ?_, all⟩
  exact Lexicon.nearest_of_isNaN (fits ▸ words) tainted short excluded

/-- The first line stores `cat - cat`, and the second one adds it to a word. -/
theorem evaluate_of_bringsNaN_stored :
    let one := Float32.ofBits 0x3F800000
    let lexicon : Lexicon := .ofList
      [("cat", [one, Float32.ofBits 0]), ("dog", [Float32.ofBits 0, one])]
    let vars := varsAfter lexicon .empty ["void = cat - cat"]
    ∃ evaluation, (evaluate lexicon vars "dog + void").result = .ok evaluation ∧
      (∀ (count : Int) (excluded : List String), count < 10 ^ Decimal.maxDigits →
        ∃ found, lexicon.nearest evaluation.vector count excluded = .ok found ∧
          Lexicon.IsUnranked lexicon count excluded found) ∧
      ∀ x ∈ evaluation.vector, x.isNaN = true := by
  intro one lexicon vars
  have words : lexicon.Uniform 2 := by decide
  have parsed : Statement.ofText "dog + void" =
      .ok (.expression (.binary "+" (.word "dog") (.word "void"))) := by cbv
  have void : vars.get? "void" = some [Float32.ofBits 0x7FC00000, Float32.ofBits 0x7FC00000] := by
    decide +kernel
  have ok : (evaluate lexicon vars "dog + void").result =
      .ok ⟨[Float32.ofBits 0x7FC00000, Float32.ofBits 0x7FC00000], ["dog"], none⟩ := by
    decide +kernel
  have brings : Scope.BringsNaN ⟨lexicon, vars⟩ (.word "void") :=
    .name (Scope.vectorOf_word_of_var void) (by decide)
  obtain ⟨unranked, all⟩ := evaluate_of_bringsNaN words (by decide) ["void = cat - cat"] parsed ok
    (by decide) brings
  exact ⟨_, ok, unranked, all (.inl (by decide))⟩

end Session

end WordSpace
