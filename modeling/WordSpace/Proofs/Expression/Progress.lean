import WordSpace.Proofs.Expression.Derivation

/-!
How far a reading goes.

A reading takes tokens from the front and from nowhere else. For a value it takes at least one, and
where it fails it stops before the token that it blames, or has none left (`Reading.Orderly`, with
one lemma for each reader). A cursor that reads comes to stand before the tokens that are left
(`Cursor.before`), so its places can be told by the tokens behind them.
-/

namespace WordSpace.Expression

variable {α β : Type} {tokens rest : List Token} {token : Token} {reading : Reading α}

/-! ## What may come of a reading -/

/-- What may come of reading tokens: a value for some tokens from the front, a failure with the
token that is blamed in front of the rest, or a failure for want of tokens. -/
inductive Reading.Orderly {α : Type} : List Token → Reading α → Prop
  | done {taken rest : List Token} {value : α} (progress : taken ≠ []) :
    Orderly (taken ++ rest) (.done value rest)
  | blamed {taken rest : List Token} {token : Token} {expected : Option Kind} :
    Orderly (taken ++ token :: rest) (.failed (.unexpectedToken token expected) (token :: rest))
  | ended {tokens : List Token} {error : ParseError}
    (missing : error = .emptyInput ∨ error = .unexpectedEnd) :
    Orderly tokens (.failed error [])

namespace Reading.Orderly

theorem rest_suffix (orderly : Orderly tokens reading) : reading.rest <:+ tokens := by
  cases orderly with
  | done | blamed => exact List.suffix_append _ _
  | ended => exact List.nil_suffix

theorem length_lt {value : α} (orderly : Orderly tokens (.done value rest)) :
    rest.length < tokens.length := by
  cases orderly with
  | done progress =>
    have positive := List.length_pos_iff.2 progress
    rw [List.length_append]
    omega

/-- Tokens in front of those that are read may be taken as well. -/
theorem append (front : List Token) (orderly : Orderly tokens reading) :
    Orderly (front ++ tokens) reading := by
  cases orderly with
  | done progress =>
    rw [← List.append_assoc]
    exact .done (List.append_ne_nil_of_right_ne_nil _ progress)
  | blamed =>
    rw [← List.append_assoc]
    exact .blamed
  | ended missing => exact .ended missing

theorem map (f : α → β) (orderly : Orderly tokens reading) : Orderly tokens (reading.map f) := by
  cases orderly with
  | done progress => exact .done progress
  | blamed => exact .blamed
  | ended missing => exact .ended missing

end Reading.Orderly

open Reading

/-! ## The readers -/

theorem orderly_readExpression (tokens : List Token) : Orderly tokens (readExpression tokens) := by
  obtain ⟨used, rest, stop, rfl, run, stuck⟩ := ReadState.initial.exists_stop tokens
  have reading : readExpression (used ++ rest) = stop.read rest := ReadState.read_append run rest
  -- An expression cannot end where it begins.
  have progress {e : Expr} (complete : stop.complete? = some e) : used ≠ [] := by
    rintro rfl
    cases run
    cases complete
  rw [reading]
  cases rest with
  | nil =>
    rw [ReadState.read_nil]
    split
    case h_1 complete => exact .done (progress complete)
    case h_2 => exact .ended (.inr rfl)
  | cons token more =>
    rw [ReadState.read_of_next?_eq_none (stuck token more rfl)]
    split
    case h_1 complete => exact .done (progress complete)
    case h_2 => exact .blamed

theorem orderly_readToken (kind : Kind) (tokens : List Token) :
    Orderly tokens (readToken kind tokens) := by
  cases tokens with
  | nil => exact .ended (.inr rfl)
  | cons token rest =>
    rw [readToken]
    split
    case isTrue => exact .done (List.cons_ne_nil token [])
    case isFalse => exact @Orderly.blamed _ [] rest token _

theorem orderly_readPrimary (tokens : List Token) : Orderly tokens (readPrimary tokens) := by
  cases tokens with
  | nil => exact .ended (.inr rfl)
  | cons token rest =>
    rw [readPrimary]
    split
    case h_1 => exact .done (List.cons_ne_nil token [])
    case h_2 =>
      have inside := orderly_readExpression rest
      cases read : readExpression rest with
      | done inner after =>
        rw [read] at inside
        obtain ⟨taken, rfl⟩ := inside.rest_suffix
        exact ((orderly_readToken .rightParen after).map _).append (token :: taken)
      | failed error after =>
        rw [read] at inside
        exact inside.append [token]
    case h_3 => exact @Orderly.blamed _ [] rest token _

theorem orderly_readStatement (tokens : List Token) : Orderly tokens (readStatement tokens) := by
  rw [readStatement]
  split
  case isTrue => exact .ended (.inl rfl)
  case isFalse =>
    split
    case h_1 name rest begins =>
      obtain ⟨first, second, rfl, -⟩ := assignment?_eq_some_iff.1 begins
      exact ((orderly_readExpression rest).map _).append [first, second]
    case h_2 => exact (orderly_readExpression tokens).map _

theorem orderly_readWhole (tokens : List Token) : Orderly tokens (readWhole tokens) := by
  have statement := orderly_readStatement tokens
  rw [readWhole]
  split
  case h_1 s token rest read =>
    rw [read] at statement
    obtain ⟨taken, rfl⟩ := statement.rest_suffix
    exact .blamed
  case h_2 => exact statement

/-! ## Places of a cursor -/

namespace Cursor

variable {c : Cursor}

/-- The place that has the last tokens `rest` of the list behind it. -/
def before (c : Cursor) (rest : List Token) : Cursor :=
  ⟨c.tokens, c.tokens.length - rest.length, Nat.sub_le _ _⟩

theorem read_eq (c : Cursor) (reader : List Token → Reading α) :
    c.read reader = ((reader c.remaining).result, c.before (reader c.remaining).rest) := rfl

theorem remaining_suffix (c : Cursor) : c.remaining <:+ c.tokens := List.drop_suffix _ _

theorem position_eq (c : Cursor) : c.position = c.tokens.length - c.remaining.length := by
  have within := c.position_le
  rw [remaining, List.length_drop]
  omega

theorem before_eq_self (ahead : c.remaining = rest) : c.before rest = c := by
  have place := c.position_eq
  rw [ahead] at place
  rcases c with ⟨tokens, position, within⟩
  simp only [before, mk.injEq, true_and]
  exact place.symm

theorem remaining_before (suffix : rest <:+ c.remaining) : (c.before rest).remaining = rest :=
  (List.suffix_iff_eq_drop.1 (suffix.trans c.remaining_suffix)).symm

theorem remaining_before_of_cons (ahead : c.remaining = token :: rest) :
    (c.before rest).remaining = rest :=
  remaining_before (ahead ▸ List.suffix_cons token rest)

/-- What is taken makes up for what is no longer left. -/
theorem position_before_add (suffix : rest <:+ c.remaining) :
    (c.before rest).position + rest.length = c.position + c.remaining.length := by
  have whole := c.remaining_suffix.length_le
  have part := suffix.length_le
  have place := c.position_eq
  simp only [before]
  omega

theorem position_before_of_cons (ahead : c.remaining = token :: rest) :
    (c.before rest).position = c.position + 1 := by
  have place := position_before_add (ahead ▸ List.suffix_cons token rest)
  rw [ahead, List.length_cons] at place
  omega

theorem position_of_remaining_eq_nil (atEnd : c.remaining = []) :
    c.position = c.tokens.length := by
  rw [c.position_eq, atEnd, List.length_nil, Nat.sub_zero]

theorem getElem?_position (c : Cursor) : c.tokens[c.position]? = c.remaining[0]? := by
  rw [remaining, List.getElem?_drop, Nat.add_zero]

theorem getElem?_position_of_cons (ahead : c.remaining = token :: rest) :
    c.tokens[c.position]? = some token := by
  rw [getElem?_position, ahead, List.getElem?_cons_zero]

/-! ## Single tokens -/

theorem consume_of_cons (ahead : c.remaining = token :: rest) :
    c.consume = (.ok token, c.before rest) := by
  have within : c.position < c.tokens.length := by
    have length := congrArg List.length ahead
    rw [remaining, List.length_drop, List.length_cons] at length
    omega
  have cut := List.drop_eq_getElem_cons within
  obtain ⟨rfl, rfl⟩ := List.cons.inj (cut.symm.trans ahead)
  rw [consume, dif_pos within]
  simp only [before, List.length_drop, Prod.mk.injEq, mk.injEq, true_and]
  omega

theorem consume_of_remaining_eq_nil (atEnd : c.remaining = []) :
    c.consume = (.error .outOfRange, c) := by
  have stuck : ¬c.position < c.tokens.length := Nat.not_lt.2 (List.drop_eq_nil_iff.1 atEnd)
  rw [consume, dif_neg stuck]

/-- From the cursor on, looking ahead sees the tokens behind it. -/
theorem peek_natCast (c : Cursor) (offset : Nat) : c.peek offset = .ok c.remaining[offset]? := by
  have place : (c.position + offset : Int).toNat = c.position + offset := by omega
  rw [peek, if_pos (by omega), place, remaining, List.getElem?_drop]

end Cursor

end WordSpace.Expression
