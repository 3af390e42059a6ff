import WordSpace.Proofs.Expression.Descent

/-!
Steps of a cursor, in any order.

From one cursor tokens can be looked at, taken and read as one likes, and a step that fails can be
followed by any other. `Cursor.Step.Outcome` says what each step may come to, with one constructor
for each way, and `Cursor.Step.Safe` what it keeps to besides: it stays in the same tokens, never
goes back, and depends on nothing but the tokens behind the cursor. Every step is safe from every
place (`Cursor.Step.safe`), so a cursor is safe behind any steps (`Cursor.safe_after`).
-/

namespace WordSpace.Expression.Cursor

/-! ## Steps -/

/-- What can be done with a cursor. -/
inductive Step where
  | peek (offset : Int)
  | consume
  | expect (kind : Kind)
  | primary
  | expression
  | statement
  | whole

namespace Step

/-- What a step gives. -/
def Value : Step → Type
  | peek _ => Option Token
  | consume | expect _ => Token
  | primary | expression => Expr
  | statement | whole => Statement

/-- What a step does with the cursor. -/
def routine : (step : Step) → Routine step.Value
  | peek offset => Routine.peek offset
  | consume => Routine.consume
  | expect kind => Descent.readings.expect kind
  | primary => Descent.readings.primary
  | expression => Descent.readings.expression
  | statement => Descent.readings.statement
  | whole => Descent.readings.whole

/-- Whether a step reads a phrase. -/
inductive Reads : Step → Prop
  | primary : Reads .primary
  | expression : Reads .expression
  | statement : Reads .statement
  | whole : Reads .whole

end Step

/-- Does a step, and gives what comes of it and the cursor behind it. -/
def perform (c : Cursor) (step : Step) : Except Fault step.Value × Cursor := step.routine c

/-- The cursor behind several steps, whatever came of them. -/
def after (c : Cursor) (steps : List Step) : Cursor :=
  steps.foldl (fun c step => (c.perform step).2) c

/-! ## What may come of a step -/

/-- What a step from a cursor may come to, and where it leaves the cursor. -/
inductive Step.Outcome (c : Cursor) : (step : Step) → Except Fault step.Value → Cursor → Prop
  | looked {offset : Int} {seen : Except Fault (Option Token)} : Outcome c (.peek offset) seen c
  | taken {token : Token} {next : Cursor} (there : c.tokens[c.position]? = some token)
    (place : next.position = c.position + 1) : Outcome c .consume (.ok token) next
  | outOfRange (atEnd : c.position = c.tokens.length) : Outcome c .consume (.error .outOfRange) c
  | met {token : Token} {next : Cursor} (there : c.tokens[c.position]? = some token)
    (place : next.position = c.position + 1) : Outcome c (.expect token.kind) (.ok token) next
  | unmet {kind : Kind} {token : Token} (there : c.tokens[c.position]? = some token)
    (other : token.kind ≠ kind) :
    Outcome c (.expect kind) (.error (.parse (.unexpectedToken token (some kind)))) c
  | missing {kind : Kind} (atEnd : c.position = c.tokens.length) :
    Outcome c (.expect kind) (.error (.parse .unexpectedEnd)) c
  | read {step : Step} {value : step.Value} {next : Cursor} (reads : step.Reads)
    (further : c.position < next.position) : Outcome c step (.ok value) next
  | blamed {step : Step} {token : Token} {expected : Option Kind} {next : Cursor}
    (reads : step.Reads) (there : c.tokens[next.position]? = some token) :
    Outcome c step (.error (.parse (.unexpectedToken token expected))) next
  | ended {step : Step} {error : ParseError} {next : Cursor} (reads : step.Reads)
    (missing : error = .emptyInput ∨ error = .unexpectedEnd)
    (atEnd : next.position = c.tokens.length) : Outcome c step (.error (.parse error)) next

/-- What a step from a cursor keeps to. -/
structure Step.Safe (step : Step) (c : Cursor) : Prop where
  outcome : step.Outcome c (c.perform step).1 (c.perform step).2
  tokens_eq : (c.perform step).2.tokens = c.tokens
  position_le : c.position ≤ (c.perform step).2.position
  /-- All but looking ahead is the same from each place with the same tokens behind it. -/
  of_remaining_eq (other : ∀ offset, step ≠ .peek offset) (d : Cursor)
    (same : d.remaining = c.remaining) :
    (d.perform step).1 = (c.perform step).1 ∧
      (d.perform step).2.remaining = (c.perform step).2.remaining

/-! ## Every step is safe -/

namespace Step

variable {c : Cursor} {step : Step} {rest : List Token}

/-- A step that goes by the tokens behind the cursor alone, and leaves a last part of them, is safe
if its outcome is. -/
theorem safe_of_remaining (result : Except Fault step.Value) (suffix : rest <:+ c.remaining)
    (performed : ∀ d : Cursor, d.remaining = c.remaining → d.perform step = (result, d.before rest))
    (outcome : step.Outcome c result (c.before rest)) : step.Safe c := by
  have here := performed c rfl
  constructor
  case outcome => rwa [here]
  case tokens_eq =>
    rw [here]
    rfl
  case position_le =>
    have place := position_before_add suffix
    have part := suffix.length_le
    rw [here]
    dsimp only
    omega
  case of_remaining_eq =>
    intro _ d same
    rw [here, performed d same]
    refine ⟨rfl, ?_⟩
    rw [remaining_before suffix, remaining_before (same.symm ▸ suffix)]

/-- A step of one reader is safe if its outcome is. -/
theorem safe_of_reader (reader : List Token → Reading step.Value)
    (performed : step.routine = Routine.ofCursor (·.read reader))
    (suffix : (reader c.remaining).rest <:+ c.remaining)
    (outcome : step.Outcome c ((reader c.remaining).result.mapError .parse)
      (c.before (reader c.remaining).rest)) : step.Safe c := by
  refine safe_of_remaining _ suffix (fun d same => ?_) outcome
  rw [← same]
  exact congrFun performed d

/-- A step that reads a phrase comes to a value further on, or to an error at the token that is
blamed or at the end. -/
theorem Reads.safe (reads : step.Reads) (reader : List Token → Reading step.Value)
    (performed : step.routine = Routine.ofCursor (·.read reader))
    (orderly : (reader c.remaining).Orderly c.remaining) : step.Safe c := by
  have suffix := orderly.rest_suffix
  refine safe_of_reader reader performed suffix ?_
  cases reading : reader c.remaining with
  | done value rest =>
    rw [reading] at orderly suffix
    have place := position_before_add suffix
    have less := orderly.length_lt
    have further : c.position < (c.before rest).position := by
      rw [Reading.rest] at place
      omega
    exact .read reads further
  | failed error rest =>
    rw [reading] at orderly suffix
    generalize c.remaining = tokens at orderly
    cases orderly with
    | blamed => exact .blamed reads (getElem?_position_of_cons (remaining_before suffix))
    | ended missing => exact .ended reads missing rfl

theorem safe_peek (c : Cursor) (offset : Int) : (peek offset).Safe c :=
  ⟨.looked, rfl, Nat.le_refl _, fun other => absurd rfl (other offset)⟩

theorem safe_consume (c : Cursor) : consume.Safe c := by
  cases ahead : c.remaining with
  | nil =>
    refine safe_of_remaining (.error .outOfRange) List.nil_suffix (fun d same => ?_) ?_
    · rw [before_eq_self (same.trans ahead)]
      exact Routine.consume_apply_of_nil (same.trans ahead)
    · rw [before_eq_self ahead]
      exact .outOfRange (position_of_remaining_eq_nil ahead)
  | cons token rest =>
    refine safe_of_remaining (.ok token) (ahead ▸ List.suffix_cons token rest)
      (fun d same => Routine.consume_apply (same.trans ahead)) ?_
    exact .taken (getElem?_position_of_cons ahead) (position_before_of_cons ahead)

theorem safe_expect (c : Cursor) (kind : Kind) : (expect kind).Safe c := by
  refine safe_of_reader (readToken kind) rfl (orderly_readToken kind _).rest_suffix ?_
  cases ahead : c.remaining with
  | nil =>
    change Outcome c _ _ (c.before [])
    rw [before_eq_self ahead]
    exact .missing (position_of_remaining_eq_nil ahead)
  | cons token rest =>
    have there := getElem?_position_of_cons ahead
    rw [readToken]
    split
    case isTrue same =>
      subst same
      exact .met there (position_before_of_cons ahead)
    case isFalse other =>
      change Outcome c _ _ (c.before (token :: rest))
      rw [before_eq_self ahead]
      exact .unmet there other

theorem safe (step : Step) (c : Cursor) : step.Safe c := by
  cases step with
  | peek offset => exact safe_peek c offset
  | consume => exact safe_consume c
  | expect kind => exact safe_expect c kind
  | primary => exact Reads.primary.safe readPrimary rfl (orderly_readPrimary _)
  | expression => exact Reads.expression.safe readExpression rfl (orderly_readExpression _)
  | statement => exact Reads.statement.safe readStatement rfl (orderly_readStatement _)
  | whole => exact Reads.whole.safe readWhole rfl (orderly_readWhole _)

end Step

/-! ## Runs -/

theorem tokens_after (c : Cursor) (steps : List Step) : (c.after steps).tokens = c.tokens := by
  induction steps generalizing c with
  | nil => rfl
  | cons step steps ih => exact (ih _).trans (step.safe c).tokens_eq

theorem position_le_position_after (c : Cursor) (steps : List Step) :
    c.position ≤ (c.after steps).position := by
  induction steps generalizing c with
  | nil => exact Nat.le_refl _
  | cons step steps ih => exact Nat.le_trans (step.safe c).position_le (ih _)

/-- Behind any steps from the start of some tokens, whatever came of them, a cursor is in these
tokens, does not go back by any more steps, and each next step is safe. The readings are the one
recursive descent that looks at tokens and takes them one at a time, so they never take a token that
is not there. -/
theorem safe_after (tokens : List Token) (steps : List Step) :
    let c := (start tokens).after steps
    c.tokens = tokens ∧ c.position ≤ tokens.length ∧
      (∀ more, c.position ≤ (c.after more).position) ∧ (∀ step : Step, step.Safe c) ∧
      ∀ calls : Descent, calls.body = calls ↔ calls = .readings := by
  intro c
  have same : c.tokens = tokens := tokens_after (start tokens) steps
  refine ⟨same, ?_, c.position_le_position_after, fun step => step.safe c,
    fun _ => Descent.body_eq_iff⟩
  rw [← same]
  exact c.position_le

/-- Reading `( a b` fails before `b`, which can then be taken. -/
example :
    let c := start [⟨.leftParen, "("⟩, ⟨.identifier, "a"⟩, ⟨.identifier, "b"⟩]
    (c.after [.expression]).position = 2 ∧
      ((c.after [.expression]).perform .consume).1 = .ok ⟨.identifier, "b"⟩ := ⟨rfl, rfl⟩

end WordSpace.Expression.Cursor
