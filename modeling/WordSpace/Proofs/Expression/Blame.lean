import Mathlib.Order.Bounds.Defs
import WordSpace.Proofs.Expression.Derivation

/-!
What is blamed for tokens that are no sentence.

Tokens begin a sentence if more tokens make a sentence of them. The reader goes on as long as they
do: each of its states can be completed (`ReadState.exists_completion`), and a token that has no
step cannot be part of any sentence that begins like this (`not_begins_of_stuck`). So the first
token with which the tokens begin no sentence is the one to blame, and if there is none, their end
is (`Cursor.whole_start_blames`). A closing parenthesis is expected where one is open and an operand
stands last; that is read off the state as well (`ReadState.Tracks`).
-/

namespace WordSpace.Expression

open Grammar ReadState

namespace Grammar

/-- Whether tokens are a whole statement. -/
def IsSentence (tokens : List Token) : Prop := ∃ s, Sentence tokens s

/-- Whether tokens are a statement or the front part of one. -/
def Begins (tokens : List Token) : Prop := ∃ more, IsSentence (tokens ++ more)

/-- The number of opening parentheses that are still open behind some tokens. -/
def unclosed (tokens : List Token) : Nat :=
  tokens.foldl (fun count token =>
    match token.kind with
    | .leftParen => count + 1
    | .rightParen => count - 1
    | _ => count) 0

/-- Whether the last token is one that an operand may end with. -/
def endsOperand (tokens : List Token) : Bool :=
  tokens.getLast?.any fun last => last.kind == .identifier || last.kind == .rightParen

/-- The error and the place with which tokens fail that are no sentence. If they are the front part
of one, it is their end; else it is the token with which they cease to be that. -/
def Blames (tokens : List Token) (error : ParseError) (position : Nat) : Prop :=
  ((∃ more, more ≠ [] ∧ IsSentence (tokens ++ more)) ∧ position = tokens.length ∧
    error = (if tokens = [] then .emptyInput else .unexpectedEnd) ∧
    (error.message = "Empty input" ↔ tokens = [])) ∨
  ((¬∃ more, more ≠ [] ∧ IsSentence (tokens ++ more)) ∧
    IsLeast {i | ¬Begins (tokens.take (i + 1))} position ∧
    ∃ token, tokens[position]? = some token ∧
      error = .unexpectedToken token
        (if 0 < unclosed (tokens.take position) ∧ endsOperand (tokens.take position) then
          some .rightParen
        else none))

theorem isSentence_iff {tokens : List Token} :
    IsSentence tokens ↔ (readWhole tokens).result.isOk = true := by
  cases result : (readWhole tokens).result with
  | ok s =>
    simp only [Except.isOk, Except.toBool, iff_true]
    exact ⟨s, readWhole_result_eq_ok_iff.1 result⟩
  | error error =>
    simp only [Except.isOk, Except.toBool, Bool.false_eq_true, iff_false]
    rintro ⟨s, derived⟩
    rw [readWhole_result_eq_ok_iff.2 derived] at result
    cases result

instance : DecidablePred IsSentence := fun _ => decidable_of_iff _ isSentence_iff.symm

theorem Begins.of_append {front rest : List Token} (begins : Begins (front ++ rest)) :
    Begins front := by
  obtain ⟨more, sentence⟩ := begins
  exact ⟨rest ++ more, by rwa [← List.append_assoc]⟩

end Grammar

/-! ## What can still come -/

namespace ReadState

variable {state next stop : ReadState} {token : Token} {consumed used : List Token}

theorem exists_closing (enclosing : List (Option Pending)) (left : Expr) :
    ∃ more e, (operator enclosing left).after? more = some (operator [] e) := by
  induction enclosing generalizing left with
  | nil => exact ⟨[], left, rfl⟩
  | cons pending outer ih =>
    obtain ⟨more, e, run⟩ := ih (Pending.join pending left)
    refine ⟨⟨.rightParen, ")"⟩ :: more, e, ?_⟩
    rw [after?, next?_rightParen rfl, Option.bind_some, run]

/-- Each state can be led to where the expression may end. -/
theorem exists_completion (state : ReadState) :
    ∃ more e, state.after? more = some (operator [] e) := by
  rcases state with ⟨enclosing, pending⟩ | ⟨enclosing, left⟩
  · obtain ⟨more, e, run⟩ := exists_closing enclosing (Pending.join pending (.word "x"))
    refine ⟨⟨.identifier, "x"⟩ :: more, e, ?_⟩
    rw [after?, next?_identifier rfl, Option.bind_some, run]
  · exact exists_closing enclosing left

/-- Whether the reader stands behind an operand. -/
def isBehindOperand : ReadState → Bool
  | operand _ _ => false
  | operator _ _ => true

/-- What a state knows of the tokens before it: how many parentheses are open, and whether an
operand stands last. -/
structure Tracks (state : ReadState) (consumed : List Token) : Prop where
  unclosed_eq : unclosed consumed = state.enclosing.length
  endsOperand_eq : endsOperand consumed = state.isBehindOperand

theorem Tracks.of_next? (tracks : Tracks state consumed) (step : state.next? token = some next) :
    Tracks next (consumed ++ [token]) := by
  have count : unclosed (consumed ++ [token]) =
      match token.kind with
      | .leftParen => unclosed consumed + 1
      | .rightParen => unclosed consumed - 1
      | _ => unclosed consumed := by
    simp [unclosed]
  have last : endsOperand (consumed ++ [token]) =
      (token.kind == .identifier || token.kind == .rightParen) := by
    simp [endsOperand]
  constructor
  · rw [count, tracks.unclosed_eq]
    rcases state with ⟨enclosing, pending⟩ | ⟨_ | ⟨waiting, outer⟩, left⟩ <;>
      rcases token with ⟨_ | _ | _ | _ | _ | _, text⟩ <;> cases step <;> rfl
  · rw [last]
    rcases state with ⟨enclosing, pending⟩ | ⟨_ | ⟨waiting, outer⟩, left⟩ <;>
      rcases token with ⟨_ | _ | _ | _ | _ | _, text⟩ <;> cases step <;> rfl

theorem Tracks.of_after? (tracks : Tracks state consumed) (run : state.after? used = some stop) :
    Tracks stop (consumed ++ used) := by
  induction used generalizing state consumed with
  | nil =>
    cases run
    rwa [List.append_nil]
  | cons token used ih =>
    obtain ⟨next, step, run⟩ := Option.bind_eq_some_iff.1 run
    rw [List.append_cons]
    exact ih (tracks.of_next? step) run

theorem Tracks.expected?_eq (tracks : Tracks state consumed) :
    state.expected? =
      if 0 < unclosed consumed ∧ endsOperand consumed then some .rightParen else none := by
  rw [tracks.unclosed_eq, tracks.endsOperand_eq]
  rcases state with ⟨enclosing, pending⟩ | ⟨_ | ⟨waiting, outer⟩, left⟩ <;>
    simp [expected?, isBehindOperand, ReadState.enclosing]

end ReadState

/-! ## The head of a statement -/

/-- What stands before the expression of a statement: nothing, or a name and an equals sign. -/
inductive Grammar.Head : List Token → Prop
  | plain : Head []
  | named {name equals : Token} :
    name.kind = .identifier → equals.kind = .equals → Head [name, equals]

section Heads

variable {front body used rest : List Token} {token : Token} {stop : ReadState}

theorem Grammar.Head.isSentence {e : Expr} (head : Head front)
    (derived : Grammar.Chain body e) : IsSentence (front ++ body) := by
  cases head with
  | plain => exact ⟨_, .expression derived⟩
  | named name equals => exact ⟨_, .assignment name equals derived⟩

theorem Grammar.Head.tracks (head : Head front) : Tracks .initial front := by
  cases head with
  | plain => exact ⟨rfl, rfl⟩
  | named name equals =>
    constructor
    · simp [unclosed, name, equals, ReadState.enclosing, ReadState.initial]
    · simp [endsOperand, equals, isBehindOperand, ReadState.initial]

/-- All tokens have a head, which is that of an assignment if they begin one. -/
theorem exists_head (tokens : List Token) :
    ∃ front body, tokens = front ++ body ∧ Head front ∧
      (front = [] → assignment? body = none) := by
  cases begins : assignment? tokens with
  | none => exact ⟨[], tokens, rfl, .plain, fun _ => begins⟩
  | some assignment =>
    obtain ⟨first, second, rfl, identifier, equals, -⟩ := assignment?_eq_some_iff.1 begins
    exact ⟨[first, second], assignment.2, rfl, .named identifier equals, by simp⟩

theorem Grammar.Head.readStatement (head : Head front)
    (plain : front = [] → assignment? body = none) (nonempty : front ++ body ≠ []) :
    ∃ f, Expression.readStatement (front ++ body) = (readExpression body).map f := by
  cases head with
  | plain =>
    refine ⟨.expression, ?_⟩
    simp only [List.nil_append] at nonempty ⊢
    simp [Expression.readStatement, nonempty, plain]
  | @named first second name equals =>
    refine ⟨.assignment first.text, ?_⟩
    simp [Expression.readStatement, assignment?, name, equals]

/-- Tokens that the reader takes begin a sentence. -/
theorem Grammar.Head.begins (head : Head front) (run : ReadState.initial.after? used = some stop) :
    Begins (front ++ used) := by
  obtain ⟨more, e, completion⟩ := stop.exists_completion
  have whole : ReadState.initial.after? (used ++ more) = some (operator [] e) := by
    rw [after?_append, run, Option.bind_some, completion]
  refine ⟨more, ?_⟩
  rw [List.append_assoc]
  exact head.isSentence (readExpression_eq_done_iff.1 (read_of_after? whole))

theorem not_expression_of_stuck (run : ReadState.initial.after? used = some stop)
    (stuck : stop.next? token = none) (more : List Token) (e : Expr) :
    ¬Grammar.Chain (used ++ token :: more) e := by
  intro derived
  have whole := derived.after? []
  change ReadState.initial.after? (used ++ token :: more) = _ at whole
  rw [after?_append, run, Option.bind_some, after?, stuck] at whole
  cases whole

/-- No sentence goes on with a token that has no step. -/
theorem not_begins_of_stuck (head : Head front)
    (plain : front = [] → assignment? (used ++ token :: rest) = none)
    (run : ReadState.initial.after? used = some stop) (stuck : stop.next? token = none) :
    ¬Begins (front ++ used ++ [token]) := by
  rintro ⟨more, s, derived⟩
  have shape : front ++ used ++ [token] ++ more = front ++ (used ++ token :: more) := by simp
  rw [shape] at derived
  cases head with
  | named name equals =>
    cases derived with
    | assignment _ _ derived => exact not_expression_of_stuck run stuck more _ derived
    | expression derived =>
      have begins := derived.assignment?_eq_none
      simp [assignment?, name, equals] at begins
  | plain =>
    rw [List.nil_append] at derived
    generalize whole : used ++ token :: more = tokens at derived
    cases derived with
    | expression derived => exact not_expression_of_stuck run stuck more _ (whole ▸ derived)
    | assignment name equals derived =>
      -- An assignment that the tokens up to `token` do not show begins at `token` or before it.
      rcases used with _ | ⟨first, _ | ⟨second, used⟩⟩
      · cases run
        cases whole
        rw [ReadState.initial, next?_identifier name] at stuck
        cases stuck
      · cases whole
        have begins := plain rfl
        simp [assignment?, name, equals] at begins
      · cases whole
        rw [after?, ReadState.initial, next?_identifier name, Option.bind_some, after?,
          next?_equals equals] at run
        cases run

theorem Grammar.Head.readWhole_of_stuck (head : Head front)
    (plain : front = [] → assignment? (used ++ token :: rest) = none)
    (run : ReadState.initial.after? used = some stop) (stuck : stop.next? token = none) :
    readWhole (front ++ (used ++ token :: rest)) =
      .failed (.unexpectedToken token stop.expected?) (token :: rest) := by
  obtain ⟨f, statement⟩ := head.readStatement plain (by simp)
  have reading : readExpression (used ++ token :: rest) = stop.read (token :: rest) :=
    read_append run _
  rw [readWhole, statement, reading, read_of_next?_eq_none stuck]
  rcases stop with ⟨enclosing, pending⟩ | ⟨_ | ⟨waiting, outer⟩, left⟩ <;> rfl

theorem Grammar.Head.readWhole_of_incomplete (head : Head front)
    (plain : front = [] → assignment? used = none)
    (run : ReadState.initial.after? used = some stop) (incomplete : stop.complete? = none)
    (nonempty : front ++ used ≠ []) :
    readWhole (front ++ used) = .failed .unexpectedEnd [] := by
  obtain ⟨f, statement⟩ := head.readStatement plain nonempty
  have reading : readExpression used = _ := read_of_after? run
  rw [readWhole, statement, reading, incomplete]
  rfl

end Heads

/-! ## The first token that is wrong -/

/-- Tokens that the reader takes up to their end fail there, if the expression may not end. -/
theorem Grammar.Head.blames_of_incomplete {front used : List Token} {stop : ReadState}
    (head : Head front) (plain : front = [] → assignment? used = none)
    (run : ReadState.initial.after? used = some stop) (wrong : ¬IsSentence (front ++ used)) :
    ∃ error, (readWhole (front ++ used)).result = .error error ∧
      Blames (front ++ used) error
        ((front ++ used).length - (readWhole (front ++ used)).rest.length) := by
  obtain ⟨more, sentence⟩ := head.begins run
  have proper : ∃ more, more ≠ [] ∧ IsSentence (front ++ used ++ more) := by
    refine ⟨more, ?_, sentence⟩
    rintro rfl
    exact wrong (by rwa [List.append_nil] at sentence)
  by_cases empty : front ++ used = []
  · have failed : readWhole (front ++ used) = .failed .emptyInput [] := by
      rw [empty]
      rfl
    rw [failed]
    exact ⟨.emptyInput, rfl, .inl ⟨proper, Nat.sub_zero _, by rw [if_pos empty],
      iff_of_true rfl empty⟩⟩
  · have incomplete : stop.complete? = none := by
      cases complete : stop.complete? with
      | none => rfl
      | some e =>
        have reading : readExpression used = _ := read_of_after? run
        rw [complete] at reading
        exact absurd (head.isSentence (readExpression_eq_done_iff.1 reading)) wrong
    rw [head.readWhole_of_incomplete plain run incomplete empty]
    have other : ParseError.unexpectedEnd.message ≠ "Empty input" := by decide
    exact ⟨.unexpectedEnd, rfl, .inl ⟨proper, Nat.sub_zero _, by rw [if_neg empty],
      iff_of_false other empty⟩⟩

/-- A token that has no step fails, and no token before it does. -/
theorem Grammar.Head.blames_of_stuck {front used rest : List Token} {token : Token}
    {stop : ReadState} (head : Head front)
    (plain : front = [] → assignment? (used ++ token :: rest) = none)
    (run : ReadState.initial.after? used = some stop) (stuck : stop.next? token = none) :
    ∃ error, (readWhole (front ++ (used ++ token :: rest))).result = .error error ∧
      Blames (front ++ (used ++ token :: rest)) error
        ((front ++ (used ++ token :: rest)).length -
          (readWhole (front ++ (used ++ token :: rest))).rest.length) := by
  have excluded := not_begins_of_stuck head plain run stuck
  have expected := (head.tracks.of_after? run).expected?_eq
  rw [head.readWhole_of_stuck plain run stuck]
  have shape : front ++ (used ++ token :: rest) = front ++ used ++ token :: rest := by simp
  have place : (front ++ used ++ token :: rest).length - (token :: rest).length =
      (front ++ used).length := by
    simp only [List.length_append]
    omega
  have before : (front ++ used ++ token :: rest).take (front ++ used).length = front ++ used :=
    List.take_left
  have upTo : (front ++ used ++ token :: rest).take ((front ++ used).length + 1) =
      front ++ used ++ [token] := by
    rw [List.append_cons]
    exact List.take_left' List.length_append
  rw [shape, Reading.rest, place]
  refine ⟨_, rfl, .inr ⟨?_, ⟨?_, ?_⟩, token, ?_, ?_⟩⟩
  · rintro ⟨more, -, sentence⟩
    rw [List.append_cons (front ++ used)] at sentence
    exact excluded (Begins.of_append ⟨more, sentence⟩)
  · change ¬Begins _
    rwa [upTo]
  · intro i notBegins
    refine Nat.le_of_not_lt fun early => ?_
    have part : (front ++ used ++ token :: rest).take (i + 1) = (front ++ used).take (i + 1) :=
      List.take_append_of_le_length (by omega)
    have begins := head.begins run
    rw [← List.take_append_drop (i + 1) (front ++ used)] at begins
    exact notBegins (part ▸ begins.of_append)
  · simp
  · rw [before, expected]

/-- Tokens that are no sentence fail, and what is blamed is the first token with which they are not
the front part of any sentence, or their end if they are the front part of one. -/
theorem Cursor.whole_start_blames {tokens : List Token} (wrong : ¬IsSentence tokens) :
    ∃ error, (Cursor.start tokens).whole.1 = .error error ∧
      Blames tokens error (Cursor.start tokens).whole.2.position := by
  change ∃ error, (readWhole tokens).result = .error error ∧
    Blames tokens error (tokens.length - (readWhole tokens).rest.length)
  obtain ⟨front, body, rfl, head, plain⟩ := exists_head tokens
  obtain ⟨used, rest, stop, rfl, run, stuck⟩ := exists_stop .initial body
  cases rest with
  | nil =>
    rw [List.append_nil] at wrong plain ⊢
    exact head.blames_of_incomplete plain run wrong
  | cons token more => exact head.blames_of_stuck plain run (stuck token more rfl)

/-- In `x = ( a b` the last token is blamed, which should have closed the parenthesis. -/
theorem Cursor.whole_start_blames_unclosed :
    let tokens : List Token :=
      [⟨.identifier, "x"⟩, ⟨.equals, "="⟩, ⟨.leftParen, "("⟩, ⟨.identifier, "a"⟩,
        ⟨.identifier, "b"⟩]
    ¬IsSentence tokens ∧ ∃ error, (Cursor.start tokens).whole.1 = .error error ∧
      Blames tokens error (Cursor.start tokens).whole.2.position := by
  intro tokens
  have wrong : ¬IsSentence tokens := by decide
  exact ⟨wrong, Cursor.whole_start_blames wrong⟩

end WordSpace.Expression
