import WordSpace.Expression.Reading

/-!
The states of the reader of expressions, and the step that one token makes.

`readOperand` and `readOperator` take turns, with what is open and what waits as their arguments. A
`ReadState` is such a turn with its arguments, `ReadState.next?` the turn behind one more token, and
`ReadState.after?` the turn behind several. A reading stops where a token has no step, or at the end
(`ReadState.exists_stop`); what it gives there depends on the state alone (`read_of_next?_eq_none`).
-/

namespace WordSpace.Expression

/-- What the reader waits for: an operand, or what may come behind one. -/
inductive ReadState where
  | operand (enclosing : List (Option Pending)) (pending : Option Pending)
  | operator (enclosing : List (Option Pending)) (left : Expr)

namespace ReadState

/-- Where the reading of an expression begins. -/
def initial : ReadState := operand [] none

/-- What waits outside of each open parenthesis. -/
def enclosing : ReadState → List (Option Pending)
  | operand enclosing _ => enclosing
  | operator enclosing _ => enclosing

/-- Reads on from a state. -/
def read : ReadState → List Token → Reading Expr
  | operand enclosing pending => readOperand enclosing pending
  | operator enclosing left => readOperator enclosing left

/-- The state behind a token, if the token may come. -/
def next? : ReadState → Token → Option ReadState
  | operand enclosing pending, token =>
    match token.kind with
    | .identifier => some (operator enclosing (Pending.join pending (.word token.text)))
    | .leftParen => some (operand (pending :: enclosing) none)
    | _ => none
  | operator enclosing left, token =>
    if token.kind.isOperator then some (operand enclosing (some ⟨left, token.text⟩))
    else match enclosing with
      | [] => none
      | pending :: outer =>
        if token.kind = .rightParen then some (operator outer (Pending.join pending left)) else none

/-- The state behind several tokens, if they may come one after the other. -/
def after? (state : ReadState) : List Token → Option ReadState
  | [] => some state
  | token :: rest => (state.next? token).bind (·.after? rest)

/-- The expression that has been read, where it may end. -/
def complete? : ReadState → Option Expr
  | operator [] left => some left
  | _ => none

/-- The only kind of token that could come, apart from operators, where there is one. -/
def expected? : ReadState → Option Kind
  | operator (_ :: _) _ => some .rightParen
  | _ => none

/-! ## One token -/

theorem read_nil (state : ReadState) :
    state.read [] =
      match state.complete? with
      | some e => .done e []
      | none => .failed .unexpectedEnd [] := by
  rcases state with ⟨enclosing, pending⟩ | ⟨_ | ⟨waiting, outer⟩, left⟩ <;> rfl

/-- A token that may come is taken. -/
theorem read_of_next?_eq_some {state next : ReadState} {token : Token}
    (step : state.next? token = some next) (rest : List Token) :
    state.read (token :: rest) = next.read rest := by
  rcases state with ⟨enclosing, pending⟩ | ⟨enclosing, left⟩
  · simp only [next?] at step
    simp only [read, readOperand]
    split at step
    · cases step
      simp [*]
    · cases step
      simp [*]
    · cases step
  · simp only [next?] at step
    simp only [read, readOperator]
    split at step
    · cases step
      simp [*]
    · rename_i noOperator
      rw [if_neg noOperator]
      rcases enclosing with _ | ⟨waiting, outer⟩
      · cases step
      · simp only at step ⊢
        split at step
        · rename_i closing
          cases step
          rw [if_pos closing]
        · cases step

/-- A token that may not come is left, and so is all behind it. -/
theorem read_of_next?_eq_none {state : ReadState} {token : Token}
    (stuck : state.next? token = none) (rest : List Token) :
    state.read (token :: rest) =
      match state.complete? with
      | some e => .done e (token :: rest)
      | none => .failed (.unexpectedToken token state.expected?) (token :: rest) := by
  rcases state with ⟨enclosing, pending⟩ | ⟨enclosing, left⟩
  · simp only [next?] at stuck
    simp only [read, readOperand, complete?, expected?]
    split at stuck <;> simp_all
  · simp only [next?] at stuck
    split at stuck
    · cases stuck
    · rcases enclosing with _ | ⟨waiting, outer⟩
      · simp_all [read, readOperator, complete?]
      · simp_all [read, readOperator, complete?, expected?]

/-! ## Several tokens -/

/-- Tokens that may come are taken. -/
theorem read_append {state stop : ReadState} {used : List Token}
    (run : state.after? used = some stop) (rest : List Token) :
    state.read (used ++ rest) = stop.read rest := by
  induction used generalizing state with
  | nil =>
    cases run
    rfl
  | cons token used ih =>
    obtain ⟨next, step, run⟩ := Option.bind_eq_some_iff.1 run
    rw [List.cons_append, read_of_next?_eq_some step, ih run]

/-- Tokens that may come up to the end make up an expression, if it may end behind them. -/
theorem read_of_after? {state stop : ReadState} {used : List Token}
    (run : state.after? used = some stop) :
    state.read used =
      match stop.complete? with
      | some e => .done e []
      | none => .failed .unexpectedEnd [] := by
  have reading := read_append run []
  rwa [List.append_nil, read_nil] at reading

/-- Each reading takes tokens as long as they may come. -/
theorem exists_stop (state : ReadState) (tokens : List Token) :
    ∃ used rest stop, tokens = used ++ rest ∧ state.after? used = some stop ∧
      ∀ token more, rest = token :: more → stop.next? token = none := by
  induction tokens generalizing state with
  | nil => exact ⟨[], [], state, rfl, rfl, by simp⟩
  | cons token tokens ih =>
    cases step : state.next? token with
    | none =>
      refine ⟨[], token :: tokens, state, rfl, rfl, ?_⟩
      rintro _ _ ⟨⟩
      exact step
    | some next =>
      obtain ⟨used, rest, stop, rfl, run, stuck⟩ := ih next
      exact ⟨token :: used, rest, stop, rfl, by rw [after?, step]; exact run, stuck⟩

end ReadState

end WordSpace.Expression
