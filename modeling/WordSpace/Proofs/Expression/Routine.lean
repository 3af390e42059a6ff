import WordSpace.Proofs.Expression.Progress

/-!
Routines: what is done with a cursor, one thing after the other.

A routine gives a value or a fault and moves the cursor. It may look ahead and take tokens, either
of which can be out of range, and it may read phrases. What a routine comes to from a cursor is
compared with what a reading of the tokens behind it gives (`Routine.settled`): a reading, and what
is read on from there, come to both readings together (`Routine.read_bind`).
-/

namespace WordSpace.Expression

variable {α β : Type}

/-- Reads on behind a value. -/
def Reading.bind (reading : Reading α) (next : α → List Token → Reading β) : Reading β :=
  match reading with
  | done value rest => next value rest
  | failed error rest => failed error rest

namespace Reading

@[simp] theorem done_bind (value : α) (rest : List Token) (next : α → List Token → Reading β) :
    (done value rest).bind next = next value rest := rfl

theorem bind_assoc {γ : Type} (reading : Reading α) (next : α → List Token → Reading β)
    (last : β → List Token → Reading γ) :
    (reading.bind next).bind last =
      reading.bind fun value rest => (next value rest).bind last := by
  cases reading <;> rfl

end Reading

/-- What can go wrong with a cursor. -/
inductive Fault where
  /-- There is no token at the place asked for. -/
  | outOfRange
  /-- The tokens are not what is to be read. -/
  | parse (error : ParseError)
  deriving DecidableEq, Repr

/-- Something that is done with a cursor: it gives a value or a fault, and the cursor behind it. -/
abbrev Routine (α : Type) : Type := ExceptT Fault (StateM Cursor) α

namespace Routine

/-- Looks at a token near the cursor. -/
def peek (offset : Int) : Routine (Option Token) := fun c =>
  ((c.peek offset).mapError fun _ => .outOfRange, c)

/-- Takes the next token. -/
def consume : Routine Token := fun c =>
  let (result, next) := c.consume
  (result.mapError fun _ => .outOfRange, next)

/-- Has the cursor read something. -/
def ofCursor (step : Cursor → Except ParseError α × Cursor) : Routine α := fun c =>
  let (result, next) := step c
  (result.mapError .parse, next)

/-- What a reading from a cursor comes to. -/
def settled (c : Cursor) : Reading α → Except Fault α × Cursor
  | .done value rest => (.ok value, c.before rest)
  | .failed error rest => (.error (.parse error), c.before rest)

variable {c d : Cursor} {tokens rest : List Token} {token : Token}

theorem settled_before (c : Cursor) (rest : List Token) (reading : Reading α) :
    settled (c.before rest) reading = settled c reading := by
  cases reading <;> rfl

/-! ## Single steps -/

theorem pure_apply (ahead : c.remaining = rest) (value : α) :
    (pure value : Routine α) c = settled c (.done value rest) := by
  rw [settled, Cursor.before_eq_self ahead]
  rfl

theorem throw_apply (ahead : c.remaining = rest) (error : ParseError) :
    (throw (.parse error) : Routine α) c = settled c (.failed error rest) := by
  rw [settled, Cursor.before_eq_self ahead]
  rfl

theorem peek_zero_apply (c : Cursor) : peek 0 c = (.ok c.remaining[0]?, c) := by
  have seen : c.peek 0 = .ok c.remaining[0]? := c.peek_natCast 0
  rw [peek, seen]
  rfl

theorem peek_one_apply (c : Cursor) : peek 1 c = (.ok c.remaining[1]?, c) := by
  have seen : c.peek 1 = .ok c.remaining[1]? := c.peek_natCast 1
  rw [peek, seen]
  rfl

theorem consume_apply (ahead : c.remaining = token :: rest) :
    consume c = (.ok token, c.before rest) := by
  rw [consume, Cursor.consume_of_cons ahead]
  rfl

theorem consume_apply_of_nil (atEnd : c.remaining = []) :
    consume c = (.error .outOfRange, c) := by
  rw [consume, Cursor.consume_of_remaining_eq_nil atEnd]
  rfl

theorem read_apply (ahead : c.remaining = tokens) (reader : List Token → Reading α) :
    ofCursor (·.read reader) c = settled c (reader tokens) := by
  rw [ofCursor, Cursor.read_eq, ahead]
  cases reader tokens <;> rfl

/-- A reading that gives a value takes the cursor past a token. -/
theorem length_remaining_lt {reader : List Token → Reading α} {value : α}
    (orderly : (reader c.remaining).Orderly c.remaining)
    (read : ofCursor (·.read reader) c = (.ok value, d)) :
    d.remaining.length < c.remaining.length := by
  rw [read_apply rfl] at read
  cases reading : reader c.remaining with
  | failed error rest =>
    rw [reading] at read
    cases read
  | done value rest =>
    rw [reading] at read orderly
    cases read
    have suffix : rest <:+ c.remaining := orderly.rest_suffix
    rw [Cursor.remaining_before suffix]
    exact orderly.length_lt

/-! ## One step after the other -/

theorem bind_apply (x : Routine α) (f : α → Routine β) (c : Cursor) :
    (x >>= f) c =
      match x c with
      | (.ok value, next) => f value next
      | (.error fault, next) => (.error fault, next) := by
  change (match x c with | (a, s) => (ExceptT.bindCont f a : StateM Cursor _) s) = _
  rcases x c with ⟨_ | _, _⟩ <;> rfl

theorem bind_of_ok {x : Routine α} {f : α → Routine β} {value : α} (ok : x c = (.ok value, d)) :
    (x >>= f) c = f value d := by
  rw [bind_apply, ok]

/-- A routine that reads on from a reading comes to both readings together. -/
theorem read_bind {reader : List Token → Reading α} {f : α → Routine β}
    {next : α → List Token → Reading β} (ahead : c.remaining = tokens)
    (orderly : (reader tokens).Orderly tokens)
    (goesOn : ∀ value rest (d : Cursor), d.remaining = rest →
      f value d = settled d (next value rest)) :
    (ofCursor (·.read reader) >>= f) c = settled c ((reader tokens).bind next) := by
  subst ahead
  have suffix := orderly.rest_suffix
  rw [bind_apply, read_apply rfl]
  cases reading : reader c.remaining with
  | failed error rest => rfl
  | done value rest =>
    rw [reading] at suffix
    exact (goesOn value rest _ (Cursor.remaining_before suffix)).trans (settled_before c rest _)

theorem consume_bind {reading : Reading α} {f : Token → Routine α}
    (ahead : c.remaining = token :: rest)
    (goesOn : ∀ d : Cursor, d.remaining = rest → f token d = settled d reading) :
    (consume >>= f) c = settled c reading := by
  rw [bind_of_ok (consume_apply ahead), goesOn _ (Cursor.remaining_before_of_cons ahead),
    settled_before]

/-- A routine that looks ahead first reads what it reads in either case. -/
theorem peek_bind {reader : List Token → Reading α} {f : Option Token → Routine α}
    (atEnd : c.remaining = [] → f none c = settled c (reader []))
    (seen : ∀ token rest, c.remaining = token :: rest →
      f (some token) c = settled c (reader (token :: rest))) :
    (peek 0 >>= f) c = settled c (reader c.remaining) := by
  rw [bind_of_ok (peek_zero_apply c)]
  cases ahead : c.remaining with
  | nil => exact atEnd ahead
  | cons token rest => exact seen token rest ahead

/-! ## Routines that come to the same -/

/-- Two routines come to the same if they do so up to a value, and from each value on. -/
theorem bind_congr {x y : Routine α} {f g : α → Routine β} (first : x c = y c)
    (goesOn : ∀ value d, y c = (.ok value, d) → f value d = g value d) :
    (x >>= f) c = (y >>= g) c := by
  rw [bind_apply, bind_apply, first]
  rcases result : y c with ⟨fault | value, d⟩
  · rfl
  · exact goesOn value d result

theorem peek_bind_congr {f g : Option Token → Routine α} (atEnd : f none c = g none c)
    (seen : ∀ token rest, c.remaining = token :: rest → f (some token) c = g (some token) c) :
    (peek 0 >>= f) c = (peek 0 >>= g) c := by
  rw [bind_of_ok (peek_zero_apply c), bind_of_ok (peek_zero_apply c)]
  cases ahead : c.remaining with
  | nil => exact atEnd
  | cons token rest => exact seen token rest ahead

theorem consume_bind_congr {f g : Token → Routine α} (ahead : c.remaining = token :: rest)
    (goesOn : ∀ d : Cursor, d.remaining.length < c.remaining.length → f token d = g token d) :
    (consume >>= f) c = (consume >>= g) c := by
  rw [bind_of_ok (consume_apply ahead), bind_of_ok (consume_apply ahead)]
  refine goesOn _ ?_
  rw [Cursor.remaining_before_of_cons ahead, ahead]
  exact Nat.lt_succ_self _

end Routine

end WordSpace.Expression
