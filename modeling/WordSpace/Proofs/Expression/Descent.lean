import WordSpace.Proofs.Expression.Routine

/-!
Readings by recursive descent.

The reader of expressions goes over the tokens once and keeps what is open. Here the same phrases
are read as the grammar is written: a `Descent` has a routine for each phrase, and `Descent.body`
says what each of them does by looking ahead, by taking tokens and by calling the others. Inside of
a parenthesis the reader reads what it reads outside (`ReadState.read_below`), so an operand is a
phrase of its own (`readOperand_eq`), and the readings of a cursor obey these equations. No other
family of routines does, since each call has fewer tokens before it (`Descent.body_eq_iff`).
-/

namespace WordSpace.Expression

/-! ## Inside of parentheses -/

namespace ReadState

variable {state next stop : ReadState} {token : Token} {used : List Token}

/-- A state inside of more open parentheses. -/
def below (outer : List (Option Pending)) : ReadState → ReadState
  | operand enclosing pending => operand (enclosing ++ outer) pending
  | operator enclosing left => operator (enclosing ++ outer) left

/-- A token that may come may come inside of more parentheses, too. -/
theorem next?_below (outer : List (Option Pending)) (step : state.next? token = some next) :
    (state.below outer).next? token = some (next.below outer) := by
  rcases state with ⟨enclosing, pending⟩ | ⟨_ | ⟨waiting, enclosing⟩, left⟩ <;>
    rcases token with ⟨_ | _ | _ | _ | _ | _, text⟩ <;> cases step <;> rfl

theorem after?_below (outer : List (Option Pending)) (run : state.after? used = some stop) :
    (state.below outer).after? used = some (stop.below outer) := by
  induction used generalizing state with
  | nil =>
    cases run
    rfl
  | cons token used ih =>
    obtain ⟨next, step, run⟩ := Option.bind_eq_some_iff.1 run
    rw [after?, next?_below outer step, Option.bind_some, ih run]

/-- Inside of a parenthesis the same is read as outside, up to the parenthesis that closes it. -/
theorem read_below (state : ReadState) (pending : Option Pending)
    (outer : List (Option Pending)) (tokens : List Token) :
    (state.below (pending :: outer)).read tokens =
      (state.read tokens).bind fun inside rest =>
        (readToken .rightParen rest).bind fun _ =>
          readOperator outer (Pending.join pending inside) := by
  obtain ⟨used, rest, stop, rfl, run, stuck⟩ := state.exists_stop tokens
  rw [read_append run, read_append (after?_below _ run)]
  cases rest with
  | nil => rcases stop with ⟨enclosing, pending⟩ | ⟨_ | ⟨waiting, enclosing⟩, left⟩ <;> rfl
  | cons token more =>
    -- Behind a whole expression the token closes the parenthesis, or is blamed since it does not.
    replace stuck := stuck token more rfl
    rcases stop with ⟨enclosing, pending⟩ | ⟨_ | ⟨waiting, enclosing⟩, left⟩ <;>
      rcases token with ⟨_ | _ | _ | _ | _ | _, text⟩ <;> cases stuck <;> rfl

end ReadState

/-! ## One phrase at a time -/

section Phrases

variable {token : Token} {rest : List Token}

theorem readPrimary_word (identifier : token.kind = .identifier) :
    readPrimary (token :: rest) = .done (.word token.text) rest := by
  simp only [readPrimary, identifier]

theorem readPrimary_group (opening : token.kind = .leftParen) :
    readPrimary (token :: rest) =
      (readExpression rest).bind fun inside after =>
        (readToken .rightParen after).bind fun _ => .done inside := by
  simp only [readPrimary, opening]
  cases readExpression rest with
  | failed error after => rfl
  | done inside after =>
    simp only [Reading.bind]
    cases readToken .rightParen after <;> rfl

theorem readPrimary_other (identifier : token.kind ≠ .identifier)
    (opening : token.kind ≠ .leftParen) :
    readPrimary (token :: rest) = .failed (.unexpectedToken token none) (token :: rest) := by
  rw [readPrimary]
  split
  case h_1 kind => exact absurd kind identifier
  case h_2 kind => exact absurd kind opening
  case h_3 => rfl

/-- An operand is read as a phrase of its own, whatever waits for it. -/
theorem readOperand_eq (enclosing : List (Option Pending)) (pending : Option Pending)
    (tokens : List Token) :
    readOperand enclosing pending tokens =
      (readPrimary tokens).bind fun e => readOperator enclosing (Pending.join pending e) := by
  cases tokens with
  | nil => rfl
  | cons token rest =>
    rw [readOperand]
    split
    case h_1 identifier =>
      rw [readPrimary_word identifier]
      rfl
    case h_2 opening =>
      simp only [readPrimary_group opening, Reading.bind_assoc, Reading.done_bind]
      exact ReadState.initial.read_below pending enclosing rest
    case h_3 identifier opening =>
      rw [readPrimary_other identifier opening]
      rfl

theorem readExpression_eq (tokens : List Token) :
    readExpression tokens = (readPrimary tokens).bind (readOperator []) :=
  readOperand_eq [] none tokens

theorem readOperator_join (kind : token.kind.isOperator = true) (left : Expr) :
    readOperator [] left (token :: rest) =
      (readPrimary rest).bind fun right => readOperator [] (.binary token.text left right) := by
  rw [readOperator, if_pos kind]
  exact readOperand_eq [] (some ⟨left, token.text⟩) rest

theorem readOperator_of_not_isOperator (kind : ¬token.kind.isOperator = true) (left : Expr) :
    readOperator [] left (token :: rest) = .done left (token :: rest) := by
  rw [readOperator, if_neg kind]

theorem readStatement_assignment {first second : Token} (identifier : first.kind = .identifier)
    (equals : second.kind = .equals) :
    readStatement (first :: second :: rest) =
      (readExpression rest).bind fun e => .done (.assignment first.text e) := by
  have begins : assignment? (first :: second :: rest) = some (first.text, rest) :=
    assignment?_eq_some_iff.2 ⟨first, second, rfl, identifier, equals, rfl⟩
  simp only [readStatement, begins, List.isEmpty_cons, Bool.false_eq_true, if_false]
  cases readExpression rest <;> rfl

theorem readStatement_expression {first : Token}
    (plain : ¬(first.kind = .identifier ∧ ((first :: rest)[1]?).map Token.kind = some .equals)) :
    readStatement (first :: rest) =
      (readExpression (first :: rest)).bind fun e => .done (.expression e) := by
  have begins : assignment? (first :: rest) = none := by
    refine Option.eq_none_iff_forall_ne_some.2 fun assignment begins => plain ?_
    obtain ⟨_, second, tokens, identifier, equals, -⟩ := assignment?_eq_some_iff.1 begins
    cases tokens
    exact ⟨identifier, congrArg some equals⟩
  simp only [readStatement, begins, List.isEmpty_cons, Bool.false_eq_true, if_false]
  cases readExpression (first :: rest) <;> rfl

theorem readWhole_eq (tokens : List Token) :
    readWhole tokens =
      (readStatement tokens).bind fun s rest =>
        match rest with
        | [] => .done s []
        | token :: more => .failed (.unexpectedToken token none) (token :: more) := by
  rw [readWhole]
  rcases readStatement tokens with ⟨s, _ | ⟨token, more⟩⟩ | ⟨error, rest⟩ <;> rfl

end Phrases

/-! ## Descent -/

/-- A routine for a token of a kind and one for each phrase. -/
@[ext]
structure Descent where
  expect (kind : Kind) : Routine Token
  primary : Routine Expr
  expression : Routine Expr
  /-- Goes on behind an operand. -/
  operators (left : Expr) : Routine Expr
  statement : Routine Statement
  whole : Routine Statement

namespace Descent

open Routine

/-- What is done for each phrase: tokens are looked at and taken, and other phrases are called. -/
def body (calls : Descent) : Descent where
  expect kind := do
    match ← peek 0 with
    | none => throw (.parse .unexpectedEnd)
    | some token =>
      if token.kind = kind then consume
      else throw (.parse (.unexpectedToken token (some kind)))
  primary := do
    match ← peek 0 with
    | none => throw (.parse .unexpectedEnd)
    | some token =>
      if token.kind = .leftParen then
        let _ ← consume
        let inside ← calls.expression
        let _ ← calls.expect .rightParen
        return inside
      else if token.kind = .identifier then
        let _ ← consume
        return .word token.text
      else throw (.parse (.unexpectedToken token none))
  expression := do
    let left ← calls.primary
    calls.operators left
  operators left := do
    match ← peek 0 with
    | none => return left
    | some token =>
      if token.kind.isOperator then
        let operator ← consume
        let right ← calls.primary
        calls.operators (.binary operator.text left right)
      else return left
  statement := do
    match ← peek 0 with
    | none => throw (.parse .emptyInput)
    | some first =>
      let second ← peek 1
      if first.kind = .identifier ∧ second.map Token.kind = some .equals then
        let name ← consume
        let _ ← consume
        return .assignment name.text (← calls.expression)
      else
        return .expression (← calls.expression)
  whole := do
    let s ← calls.statement
    match ← peek 0 with
    | none => return s
    | some token => throw (.parse (.unexpectedToken token none))

/-- The readings of a cursor. -/
def readings : Descent where
  expect kind := ofCursor (·.expect kind)
  primary := ofCursor (·.primary)
  expression := ofCursor (·.expression)
  operators left := ofCursor (·.read (readOperator [] left))
  statement := ofCursor (·.statement)
  whole := ofCursor (·.whole)

/-! ## The readings descend -/

theorem body_expect (calls : Descent) (kind : Kind) :
    calls.body.expect kind = readings.expect kind := by
  funext c
  refine .trans ?_ (read_apply rfl (readToken kind)).symm
  refine peek_bind (fun atEnd => throw_apply atEnd _) fun token rest ahead => ?_
  rw [readToken]
  dsimp only
  split
  case isTrue => exact consume_apply ahead
  case isFalse => exact throw_apply ahead _

theorem body_primary : readings.body.primary = readings.primary := by
  funext c
  refine .trans ?_ (read_apply rfl readPrimary).symm
  refine peek_bind (fun atEnd => throw_apply atEnd _) fun token rest ahead => ?_
  dsimp only
  by_cases opening : token.kind = .leftParen
  · rw [if_pos opening, readPrimary_group opening]
    refine consume_bind ahead fun d behind => ?_
    refine read_bind behind (orderly_readExpression rest) fun inside after d behind => ?_
    refine read_bind behind (orderly_readToken .rightParen after) fun _ _ d behind => ?_
    exact pure_apply behind inside
  · rw [if_neg opening]
    by_cases identifier : token.kind = .identifier
    · rw [if_pos identifier, readPrimary_word identifier]
      exact consume_bind ahead fun d behind => pure_apply behind _
    · rw [if_neg identifier, readPrimary_other identifier opening]
      exact throw_apply ahead _

theorem body_expression : readings.body.expression = readings.expression := by
  funext c
  refine .trans ?_ (read_apply rfl readExpression).symm
  rw [readExpression_eq]
  exact read_bind rfl (orderly_readPrimary _) fun left rest d behind => read_apply behind _

theorem body_operators (left : Expr) :
    readings.body.operators left = readings.operators left := by
  funext c
  refine .trans ?_ (read_apply rfl (readOperator [] left)).symm
  refine peek_bind (fun atEnd => pure_apply atEnd _) fun token rest ahead => ?_
  dsimp only
  by_cases kind : token.kind.isOperator = true
  · rw [if_pos kind, readOperator_join kind]
    refine consume_bind ahead fun d behind => ?_
    refine read_bind behind (orderly_readPrimary rest) fun right after d behind => ?_
    exact read_apply behind _
  · rw [if_neg kind, readOperator_of_not_isOperator kind]
    exact pure_apply ahead left

theorem body_statement : readings.body.statement = readings.statement := by
  funext c
  refine .trans ?_ (read_apply rfl readStatement).symm
  refine peek_bind (fun atEnd => throw_apply atEnd _) fun first rest ahead => ?_
  refine (bind_of_ok (peek_one_apply c)).trans ?_
  rw [ahead]
  by_cases begins :
    first.kind = .identifier ∧ ((first :: rest)[1]?).map Token.kind = some .equals
  · rw [if_pos begins]
    obtain ⟨identifier, equals⟩ := begins
    cases rest with
    | nil => cases equals
    | cons second rest =>
      rw [readStatement_assignment identifier (Option.some.inj equals)]
      refine consume_bind ahead fun d behind => consume_bind behind fun d behind => ?_
      refine read_bind behind (orderly_readExpression rest) fun e after d behind => ?_
      exact pure_apply behind _
  · rw [if_neg begins, readStatement_expression begins]
    refine read_bind ahead (orderly_readExpression _) fun e after d behind => ?_
    exact pure_apply behind _

theorem body_whole : readings.body.whole = readings.whole := by
  funext c
  refine .trans ?_ (read_apply rfl readWhole).symm
  rw [readWhole_eq]
  refine read_bind rfl (orderly_readStatement _) fun s rest d behind => ?_
  refine (bind_of_ok (peek_zero_apply d)).trans ?_
  rw [behind]
  cases rest with
  | nil => exact pure_apply behind s
  | cons token rest => exact throw_apply behind _

theorem body_readings : readings.body = readings :=
  Descent.ext (funext (body_expect _)) body_primary body_expression (funext body_operators)
    body_statement body_whole

/-! ## No other descent -/

/-- Whether two families do the same for the phrases of an expression from a cursor on. -/
structure Agree (calls others : Descent) (c : Cursor) : Prop where
  primary : calls.primary c = others.primary c
  expression : calls.expression c = others.expression c
  operators (left : Expr) : calls.operators left c = others.operators left c

variable {calls : Descent}

section Smaller

variable {c : Cursor} (fixed : calls.body = calls)
  (smaller : ∀ d : Cursor, d.remaining.length < c.remaining.length → Agree calls readings d)

include fixed

theorem expect_eq : calls.expect = readings.expect := by
  rw [← fixed]
  exact funext (body_expect calls)

include smaller

theorem primary_eq : calls.primary c = readings.primary c := by
  have bodies : calls.body.primary c = readings.body.primary c := by
    refine peek_bind_congr rfl fun token rest ahead => ?_
    dsimp only
    by_cases opening : token.kind = .leftParen
    · rw [if_pos opening, if_pos opening, expect_eq fixed]
      exact consume_bind_congr ahead fun d less =>
        bind_congr (smaller d less).expression fun _ _ _ => rfl
    · rw [if_neg opening, if_neg opening]
  rwa [fixed, body_readings] at bodies

theorem operators_eq (left : Expr) : calls.operators left c = readings.operators left c := by
  have bodies : calls.body.operators left c = readings.body.operators left c := by
    refine peek_bind_congr rfl fun token rest ahead => ?_
    dsimp only
    by_cases kind : token.kind.isOperator = true
    · rw [if_pos kind, if_pos kind]
      refine consume_bind_congr ahead fun d less => ?_
      refine bind_congr (smaller d less).primary fun right e read => ?_
      have behind := length_remaining_lt (orderly_readPrimary _) read
      exact (smaller e (Nat.lt_trans behind less)).operators _
    · rw [if_neg kind, if_neg kind]
  rwa [fixed, body_readings] at bodies

theorem expression_eq : calls.expression c = readings.expression c := by
  have bodies : calls.body.expression c = readings.body.expression c := by
    refine bind_congr (primary_eq fixed smaller) fun left d read => ?_
    exact (smaller d (length_remaining_lt (orderly_readPrimary _) read)).operators left
  rwa [fixed, body_readings] at bodies

end Smaller

/-- Each call is made with fewer tokens behind the cursor, or is the first operand of an expression,
so the equations settle what every phrase comes to. -/
theorem agree_readings (fixed : calls.body = calls) (c : Cursor) : Agree calls readings c :=
  have smaller (d : Cursor) (_ : d.remaining.length < c.remaining.length) :=
    agree_readings fixed d
  ⟨primary_eq fixed smaller, expression_eq fixed smaller, operators_eq fixed smaller⟩
termination_by c.remaining.length

/-- The readings of a cursor are what the recursive descent comes to, and nothing else is. -/
theorem body_eq_iff : calls.body = calls ↔ calls = readings := by
  constructor
  · intro fixed
    have expression : calls.expression = readings.expression :=
      funext fun c => (agree_readings fixed c).expression
    have statement : calls.statement = readings.statement := by
      have bodies : calls.body.statement = readings.body.statement := by
        simp only [body, expression]
      rwa [fixed, body_readings] at bodies
    have whole : calls.whole = readings.whole := by
      have bodies : calls.body.whole = readings.body.whole := by
        simp only [body, statement]
      rwa [fixed, body_readings] at bodies
    exact Descent.ext (expect_eq fixed) (funext fun c => (agree_readings fixed c).primary)
      expression (funext fun left => funext fun c => (agree_readings fixed c).operators left)
      statement whole
  · intro same
    rw [same, body_readings]

end Descent

end WordSpace.Expression
