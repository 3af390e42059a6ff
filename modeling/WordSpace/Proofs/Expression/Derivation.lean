import WordSpace.Expression.Cursor
import WordSpace.Proofs.Expression.Grammar
import WordSpace.Proofs.Expression.ReadState

/-!
Reading and deriving: what the reader gives is what the grammar derives.

One way, each phrase of the grammar takes the reader from where an operand has to come to where one
has been read (`Grammar.Chain.after?`). The other way, `ReadState.Completes` says in the words
of the grammar which tokens are missing in a state, and each step of the reader keeps to it
(`ReadState.completes_of_next?`). Both together make reading a statement the same as deriving it,
and leave one derivation to each list of tokens (`Cursor.whole_eq_ok_iff_sentence`).
-/

namespace WordSpace.Expression

open Grammar

namespace ReadState

variable {state next stop : ReadState} {token : Token} {tokens used rest : List Token} {e : Expr}

theorem after?_append (state : ReadState) (used rest : List Token) :
    state.after? (used ++ rest) = (state.after? used).bind (·.after? rest) := by
  induction used generalizing state with
  | nil => rfl
  | cons token used ih =>
    simp only [List.cons_append, after?, Option.bind_assoc]
    congr 1
    funext next
    exact ih next

/-! ## From phrases to readings -/

theorem next?_identifier (kind : token.kind = .identifier) (enclosing : List (Option Pending))
    (pending : Option Pending) :
    (operand enclosing pending).next? token =
      some (operator enclosing (Pending.join pending (.word token.text))) := by
  simp [next?, kind]

theorem next?_leftParen (kind : token.kind = .leftParen) (enclosing : List (Option Pending))
    (pending : Option Pending) :
    (operand enclosing pending).next? token = some (operand (pending :: enclosing) none) := by
  simp [next?, kind]

theorem next?_isOperator (kind : token.kind.isOperator = true) (enclosing : List (Option Pending))
    (left : Expr) :
    (operator enclosing left).next? token = some (operand enclosing (some ⟨left, token.text⟩)) := by
  simp [next?, kind]

theorem next?_rightParen (kind : token.kind = .rightParen) (pending : Option Pending)
    (outer : List (Option Pending)) (left : Expr) :
    (operator (pending :: outer) left).next? token =
      some (operator outer (Pending.join pending left)) := by
  simp [next?, kind, Kind.isOperator]

theorem next?_equals (kind : token.kind = .equals) (state : ReadState) :
    state.next? token = none := by
  rcases state with ⟨enclosing, pending⟩ | ⟨_ | ⟨waiting, outer⟩, left⟩ <;>
    simp [next?, kind, Kind.isOperator]

end ReadState

open ReadState

mutual

theorem Grammar.Primary.after? {tokens : List Token} {right : Expr} :
    Primary tokens right → ∀ enclosing pending,
      (operand enclosing pending).after? tokens =
        some (operator enclosing (Pending.join pending right))
  | .word kind, enclosing, pending => by
    rw [ReadState.after?, next?_identifier kind]
    rfl
  | .group opening body closing, enclosing, pending => by
    rw [List.cons_append, ReadState.after?, next?_leftParen opening, Option.bind_some,
      after?_append, Grammar.Chain.after? body, Option.bind_some, ReadState.after?,
      next?_rightParen closing]
    rfl

theorem Grammar.Joins.after? {tokens : List Token} {joins : List (String × Expr)} :
    Joins tokens joins → ∀ enclosing left,
      (operator enclosing left).after? tokens = some (operator enclosing (foldLeft left joins))
  | .nil, enclosing, left => rfl
  | .cons kind right joins, enclosing, left => by
    rw [List.cons_append, ReadState.after?, next?_isOperator (isOperator_iff.2 kind),
      Option.bind_some, after?_append, Grammar.Primary.after? right, Option.bind_some,
      Grammar.Joins.after? joins]
    rfl

theorem Grammar.Chain.after? {tokens : List Token} {e : Expr} :
    Grammar.Chain tokens e → ∀ enclosing,
      (operand enclosing none).after? tokens = some (operator enclosing e)
  | .operands first joins, enclosing => by
    rw [after?_append, Grammar.Primary.after? first, Option.bind_some,
      Grammar.Joins.after? joins]
    rfl

end

/-! ## From readings to phrases -/

/-- The tokens that lead from behind the operand `left` to the end of the whole expression `e`: what
is joined to it, and the same outside of each open parenthesis. -/
def Grammar.Closes : List (Option Pending) → Expr → List Token → Expr → Prop
  | [], left, tokens, e => ∃ joins, Joins tokens joins ∧ e = foldLeft left joins
  | pending :: outer, left, tokens, e =>
    ∃ inside closing outside joins, tokens = inside ++ closing :: outside ∧ Joins inside joins ∧
      closing.kind = .rightParen ∧
      Closes outer (Pending.join pending (foldLeft left joins)) outside e

theorem Grammar.Closes.join {enclosing : List (Option Pending)} {left right e : Expr}
    {operator : Token} {first rest : List Token}
    (kind : operator.kind = .plus ∨ operator.kind = .minus) (operand : Primary first right)
    (closes : Closes enclosing (.binary operator.text left right) rest e) :
    Closes enclosing left (operator :: first ++ rest) e := by
  cases enclosing with
  | nil =>
    obtain ⟨joins, derived, rfl⟩ := closes
    exact ⟨_, .cons kind operand derived, rfl⟩
  | cons pending outer =>
    obtain ⟨inside, closing, outside, joins, rfl, derived, last, closes⟩ := closes
    exact ⟨_, closing, outside, _, by simp, .cons kind operand derived, last, closes⟩

namespace ReadState

variable {state next stop : ReadState} {token : Token} {tokens used rest : List Token} {e : Expr}

/-- The tokens that lead from a state to the end of the whole expression `e`. -/
def Completes : ReadState → List Token → Expr → Prop
  | operator enclosing left, tokens, e => Closes enclosing left tokens e
  | operand enclosing pending, tokens, e =>
    ∃ first rest right, tokens = first ++ rest ∧ Primary first right ∧
      Closes enclosing (Pending.join pending right) rest e

/-- What completes the state behind a token completes, with that token, the state before it. -/
theorem completes_of_next? (step : state.next? token = some next)
    (completes : next.Completes tokens e) : state.Completes (token :: tokens) e := by
  rcases state with ⟨enclosing, pending⟩ | ⟨enclosing, left⟩
  · simp only [next?] at step
    split at step
    case h_1 kind =>
      cases step
      exact ⟨[token], tokens, _, rfl, .word kind, completes⟩
    case h_2 kind =>
      cases step
      -- The operand is the whole group, up to the parenthesis that closes the new level.
      obtain ⟨first, rest, right, rfl, operand, closes⟩ := completes
      obtain ⟨inside, closing, outside, joins, rfl, derived, last, closes⟩ := closes
      exact ⟨token :: (first ++ inside) ++ [closing], outside, _, by simp,
        .group kind (.operands operand derived) last, closes⟩
    case h_3 => cases step
  · simp only [next?] at step
    split at step
    case isTrue kind =>
      cases step
      obtain ⟨first, rest, right, rfl, operand, closes⟩ := completes
      exact closes.join (isOperator_iff.1 kind) operand
    case isFalse =>
      rcases enclosing with _ | ⟨pending, outer⟩
      · cases step
      · simp only at step
        split at step
        case isTrue kind =>
          cases step
          exact ⟨[], token, tokens, [], rfl, .nil, kind, completes⟩
        case isFalse => cases step

theorem completes_of_after? (run : state.after? used = some stop)
    (complete : stop.complete? = some e) : state.Completes used e := by
  induction used generalizing state with
  | nil =>
    cases run
    rcases stop with ⟨enclosing, pending⟩ | ⟨_ | ⟨waiting, outer⟩, left⟩
    · cases complete
    · cases complete
      exact ⟨[], .nil, rfl⟩
    · cases complete
  | cons token used ih =>
    obtain ⟨next, step, run⟩ := Option.bind_eq_some_iff.1 run
    exact completes_of_next? step (ih run)

theorem read_eq_done (done : state.read tokens = .done e rest) :
    ∃ used stop, tokens = used ++ rest ∧ state.after? used = some stop ∧
      stop.complete? = some e := by
  obtain ⟨used, left, stop, rfl, run, stuck⟩ := exists_stop state tokens
  rw [read_append run] at done
  cases left with
  | nil =>
    rw [read_nil] at done
    split at done
    · rename_i complete
      cases done
      exact ⟨used, stop, rfl, run, complete⟩
    · cases done
  | cons token more =>
    rw [read_of_next?_eq_none (stuck token more rfl)] at done
    split at done
    · rename_i complete
      cases done
      exact ⟨used, stop, rfl, run, complete⟩
    · cases done

end ReadState

/-! ## Expressions and statements -/

/-- The reader takes up all the tokens of an expression, and no other tokens. -/
theorem readExpression_eq_done_iff {tokens : List Token} {e : Expr} :
    readExpression tokens = .done e [] ↔ Grammar.Chain tokens e := by
  constructor
  · intro done
    change ReadState.initial.read tokens = .done e [] at done
    obtain ⟨used, stop, rfl, run, complete⟩ := read_eq_done done
    obtain ⟨first, rest, right, rfl, operand, joins, derived, rfl⟩ :=
      completes_of_after? run complete
    rw [List.append_nil]
    exact .operands operand derived
  · intro derived
    exact read_of_after? (derived.after? [])

theorem assignment?_eq_some_iff {tokens rest : List Token} {name : String} :
    assignment? tokens = some (name, rest) ↔
      ∃ first second, tokens = first :: second :: rest ∧ first.kind = .identifier ∧
        second.kind = .equals ∧ first.text = name := by
  rcases tokens with _ | ⟨first, _ | ⟨second, rest⟩⟩ <;> simp [assignment?]
  grind

theorem Grammar.Chain.assignment?_eq_none {tokens : List Token} {e : Expr}
    (derived : Grammar.Chain tokens e) : assignment? tokens = none := by
  cases begins : assignment? tokens with
  | none => rfl
  | some assignment =>
    obtain ⟨first, second, rfl, identifier, equals, -⟩ := assignment?_eq_some_iff.1 begins
    have run := derived.after? []
    rw [ReadState.after?, next?_identifier identifier, Option.bind_some, ReadState.after?,
      next?_equals equals] at run
    cases run

theorem Reading.map_eq_done_iff {α β : Type} {f : α → β} {reading : Reading α} {b : β}
    {rest : List Token} :
    reading.map f = .done b rest ↔ ∃ a, reading = .done a rest ∧ f a = b := by
  cases reading <;> simp [Reading.map]
  grind

/-- The reader takes up all the tokens of a sentence, and no other tokens. -/
theorem readStatement_eq_done_iff {tokens : List Token} {s : Statement} :
    readStatement tokens = .done s [] ↔ Sentence tokens s := by
  constructor
  · intro done
    rw [readStatement] at done
    split at done
    · cases done
    · split at done
      · rename_i name rest begins
        obtain ⟨first, second, rfl, identifier, equals, rfl⟩ := assignment?_eq_some_iff.1 begins
        obtain ⟨e, body, rfl⟩ := Reading.map_eq_done_iff.1 done
        exact .assignment identifier equals (readExpression_eq_done_iff.1 body)
      · obtain ⟨e, body, rfl⟩ := Reading.map_eq_done_iff.1 done
        exact .expression (readExpression_eq_done_iff.1 body)
  · intro derived
    cases derived with
    | assignment identifier equals derived =>
      have done := readExpression_eq_done_iff.2 derived
      simp [readStatement, assignment?, identifier, equals, done, Reading.map]
    | expression derived =>
      have done := readExpression_eq_done_iff.2 derived
      have nonempty : tokens.isEmpty = false := by
        cases derived with
        | operands operand _ =>
          obtain ⟨token, rest, rfl, -⟩ := operand.exists_cons
          rfl
      simp [readStatement, nonempty, derived.assignment?_eq_none, done, Reading.map]

theorem readWhole_result_eq_ok_iff {tokens : List Token} {s : Statement} :
    (readWhole tokens).result = .ok s ↔ Sentence tokens s := by
  rw [← readStatement_eq_done_iff, readWhole]
  split
  · rename_i reading
    simp [reading, Reading.result]
  · rename_i unfinished
    cases found : readStatement tokens with
    | done value rest =>
      cases rest with
      | nil => simp [Reading.result]
      | cons token rest => exact absurd found (unfinished _ _ _)
    | failed error rest => simp [Reading.result]

/-- From each place in a list of tokens, a whole statement is read if and only if the tokens behind
the place are a sentence of the grammar, and it is the only statement that the grammar derives from
them. -/
theorem Cursor.whole_eq_ok_iff_sentence (c : Cursor) (s : Statement) :
    (c.whole.1 = .ok s ↔ Sentence c.remaining s) ∧
      (Sentence c.remaining s → ∀ other, Sentence c.remaining other → other = s) := by
  refine ⟨readWhole_result_eq_ok_iff, fun derived other also => ?_⟩
  have read := readWhole_result_eq_ok_iff.2 derived
  have readAlso := readWhole_result_eq_ok_iff.2 also
  exact Except.ok.inj (readAlso.symm.trans read)

end WordSpace.Expression
