import WordSpace.Proofs.Expression.Layout
import WordSpace.Proofs.Session.Run

/-!
The value of a text, operand by operand.

A text of operands with signs between them has the value that comes of joining the values of the
operands from the left, and normalizing after each sign (`Session.evaluate_operands`). The value of
an identifier is taken as it is, and that of an expression in parentheses is the value of the
expression (`Session.OperandValue`).
-/

namespace WordSpace

open Expression Text

/-! ## Texts of operands -/

namespace Expression

/-- The two signs that stand between operands. -/
inductive Sign where
  | plus
  | minus
  deriving DecidableEq, Repr

namespace Sign

/-- The sign as it is written. -/
def char : Sign → Char
  | plus => '+'
  | minus => '-'

/-- What the sign makes of two embeddings. -/
def join : Sign → Embedding → Embedding → Except LengthMismatch Embedding
  | plus => Embedding.add
  | minus => Embedding.subtract

theorem ofSign?_char (sign : Sign) :
    ∃ kind, Kind.ofSign? sign.char = some kind ∧ (kind = .plus ∨ kind = .minus) := by
  cases sign with
  | plus => exact ⟨.plus, rfl, .inl rfl⟩
  | minus => exact ⟨.minus, rfl, .inr rfl⟩

theorem combine_char (sign : Sign) : Scope.combine sign.char.toString = sign.join := by
  cases sign <;> rfl

end Sign

/-- The name that an identifier stands for. -/
def nameOf (spelling : List Char) : String := String.ofList (spelling.map Char.toLower)

/-- The text is an identifier or an expression in parentheses, with any blanks around it. -/
inductive IsOperand : List Char → Prop
  | identifier {before spelling behind : List Char} :
    (∀ c ∈ before, isBlank c = true) → isIdentifier spelling = true →
    (∀ c ∈ behind, isBlank c = true) → IsOperand (before ++ (spelling ++ behind))
  | group {before inside behind : List Char} {e : Expr} :
    (∀ c ∈ before, isBlank c = true) →
    Statement.ofText (String.ofList inside) = .ok (.expression e) →
    (∀ c ∈ behind, isBlank c = true) → IsOperand (before ++ ('(' :: inside ++ ')' :: behind))

/-- The text of operands with signs between them. -/
def chainText (first : List Char) (joins : List (Sign × List Char)) : List Char :=
  first ++ joins.flatMap fun join => join.1.char :: join.2

/-- What may stand before an expression: nothing, or an identifier to assign to and the equals sign,
with any blanks. -/
inductive IsHead : List Char → Option String → Prop
  | plain : IsHead [] none
  | target {before spelling behind : List Char} :
    (∀ c ∈ before, isBlank c = true) → isIdentifier spelling = true →
    (∀ c ∈ behind, isBlank c = true) →
    IsHead (before ++ (spelling ++ behind) ++ ['=']) (some (nameOf spelling))

end Expression

/-! ## Values of operands -/

namespace Session

/-- The value of an operand: that of the variable, or else of the word, that an identifier stands
for, as it is, and the value of the expression that stands in parentheses. -/
inductive OperandValue (lexicon : Lexicon) (vars : Variables) : List Char → Value → Prop
  | var {before spelling behind : List Char} {v : Embedding} :
    (∀ c ∈ before, isBlank c = true) → isIdentifier spelling = true →
    (∀ c ∈ behind, isBlank c = true) → vars.get? (nameOf spelling) = some v →
    OperandValue lexicon vars (before ++ (spelling ++ behind)) ⟨v, []⟩
  | word {before spelling behind : List Char} {v : Embedding} :
    (∀ c ∈ before, isBlank c = true) → isIdentifier spelling = true →
    (∀ c ∈ behind, isBlank c = true) → vars.get? (nameOf spelling) = none →
    lexicon.get? (nameOf spelling) = some v →
    OperandValue lexicon vars (before ++ (spelling ++ behind)) ⟨v, [nameOf spelling]⟩
  | group {before inside behind : List Char} {value : Value} :
    (∀ c ∈ before, isBlank c = true) →
    (evaluate lexicon vars (String.ofList inside)).result = .ok ⟨value.vector, value.used, none⟩ →
    (∀ c ∈ behind, isBlank c = true) →
    OperandValue lexicon vars (before ++ ('(' :: inside ++ ')' :: behind)) value

/-! ## From texts to trees -/

theorem laid_identifier {before spelling behind : List Char}
    (blanksBefore : ∀ c ∈ before, isBlank c = true) (identifier : isIdentifier spelling = true)
    (blanksBehind : ∀ c ∈ behind, isBlank c = true) :
    Token.Laid [.ofName spelling] (before ++ (spelling ++ behind)) := by
  rcases isIdentifier_iff.1 identifier with ⟨c, tail, rfl, starts, continues⟩
  have alone : Token.Laid [.ofName (c :: tail)] (c :: (tail ++ [])) :=
    .name starts continues (by simp) .nil
  rw [List.append_nil] at alone
  exact (alone.append_blanks blanksBehind).blanks blanksBefore

theorem laid_group {before inside behind : List Char} {tokens : List Token}
    (blanksBefore : ∀ c ∈ before, isBlank c = true) (laid : Token.Laid tokens inside)
    (blanksBehind : ∀ c ∈ behind, isBlank c = true) :
    Token.Laid (⟨.leftParen, "("⟩ :: tokens ++ [⟨.rightParen, ")"⟩])
      (before ++ ('(' :: inside ++ ')' :: behind)) := by
  have rest : Token.Laid [] (behind ++ []) := .blanks blanksBehind .nil
  rw [List.append_nil] at rest
  have closing : Kind.ofSign? ')' = some .rightParen := rfl
  have opening : Kind.ofSign? '(' = some .leftParen := rfl
  exact .blanks blanksBefore (.sign opening (laid.append_sign closing rest))

/-- An operand is read as an expression that has the value of the operand. -/
theorem exists_primary {text : List Char} (operand : IsOperand text) :
    ∃ tokens e, Token.Laid tokens text ∧ Grammar.Primary tokens e ∧
      ∀ lexicon vars value, Scope.eval ⟨lexicon, vars⟩ e = .ok value →
        OperandValue lexicon vars text value := by
  cases operand with
  | @identifier before spelling behind blanksBefore identifier blanksBehind =>
    refine ⟨_, _, laid_identifier blanksBefore identifier blanksBehind, .word rfl, ?_⟩
    intro lexicon vars value found
    change Scope.resolve ⟨lexicon, vars⟩ (nameOf spelling) = .ok value at found
    rw [Scope.resolve] at found
    split at found
    case h_1 v var =>
      cases found
      exact .var blanksBefore identifier blanksBehind var
    case h_2 noVar =>
      split at found
      case h_1 v word =>
        cases found
        exact .word blanksBefore identifier blanksBehind noVar word
      case h_2 => cases found
  | @group before inside behind e blanksBefore parsed blanksBehind =>
    rcases Statement.ofText_eq_ok_iff.1 parsed with ⟨tokens, laid, sentence⟩
    rw [String.toList_ofList] at laid
    cases sentence with
    | expression derived =>
      refine ⟨_, e, laid_group blanksBefore laid blanksBehind, .group rfl derived rfl, ?_⟩
      intro lexicon vars value found
      refine .group blanksBefore ?_ blanksBehind
      rw [evaluate_result_of_parsed lexicon vars parsed, Scope.evalStatement, Statement.body, found]
      rfl

variable {lexicon : Lexicon} {vars : Variables}

/-- Operands that are joined to a text are read as expressions that have the values of the
operands. -/
theorem exists_joins {before : List Token} {text : List Char} (laid : Token.Laid before text)
    (joins : List (Sign × List Char)) (operands : ∀ join ∈ joins, IsOperand join.2) :
    ∃ tokens exprs, Token.Laid (before ++ tokens)
        (text ++ joins.flatMap fun join => join.1.char :: join.2) ∧
      Grammar.Joins tokens exprs ∧
      List.Forall₂ (fun join expr => expr.1 = join.1.char.toString ∧
        ∀ lexicon vars value, Scope.eval ⟨lexicon, vars⟩ expr.2 = .ok value →
          OperandValue lexicon vars join.2 value) joins exprs := by
  induction joins generalizing before text with
  | nil => exact ⟨[], [], by simpa using laid, .nil, .nil⟩
  | cons join joins ih =>
    rcases List.forall_mem_cons.1 operands with ⟨operand, operands⟩
    rcases exists_primary operand with ⟨first, e, laidFirst, primary, value⟩
    rcases join.1.ofSign?_char with ⟨kind, sign, operator⟩
    rcases ih (laid.append_sign sign laidFirst) operands with
      ⟨tokens, exprs, laidAll, derived, values⟩
    have joined : Grammar.Joins (⟨kind, join.1.char.toString⟩ :: first ++ tokens)
        ((join.1.char.toString, e) :: exprs) := .cons operator primary derived
    refine ⟨_, _, ?_, joined, .cons ⟨rfl, value⟩ values⟩
    simpa using laidAll

/-! ## The fold -/

/-- Joins values to a vector from the left, and normalizes after each sign. -/
def joinAll (first : Embedding) (entries : List (Sign × Value)) :
    Except LengthMismatch Embedding :=
  entries.foldlM (fun total entry => (·.normalize) <$> entry.1.join total entry.2.vector) first

theorem joinAll_cons {first joined : Embedding} {sign : Sign} {value : Value}
    (fits : sign.join first value.vector = .ok joined) (entries : List (Sign × Value)) :
    joinAll first ((sign, value) :: entries) = joinAll joined.normalize entries := by
  rw [joinAll, List.foldlM_cons, fits]
  rfl

/-- The value of a chain comes of the values of its operands, joined from the left. -/
theorem eval_foldLeft {scope : Scope} {Holds : List Char → Value → Prop}
    {joins : List (Sign × List Char)} {exprs : List (String × Expr)}
    (holds : List.Forall₂ (fun join expr => expr.1 = join.1.char.toString ∧
      ∀ value, scope.eval expr.2 = .ok value → Holds join.2 value) joins exprs)
    {first : Expr} {total : Value} (found : scope.eval (Grammar.foldLeft first exprs) = .ok total) :
    ∃ value entries, scope.eval first = .ok value ∧
      List.Forall₂ (fun join entry => entry.1 = join.1 ∧ Holds join.2 entry.2) joins entries ∧
      joinAll value.vector entries = .ok total.vector ∧
      ∀ word, word ∈ total.used ↔ word ∈ value.used ∨ ∃ entry ∈ entries, word ∈ entry.2.used := by
  induction holds generalizing first with
  | nil => exact ⟨total, [], found, .nil, rfl, by simp⟩
  | @cons join expr joins exprs head _ ih =>
    rcases ih found with ⟨value, entries, both, values, joined, used⟩
    rcases Scope.eval_binary_eq_ok_iff.1 both with ⟨a, b, combined, left, right, fits, rfl⟩
    rw [head.1, Sign.combine_char] at fits
    refine ⟨a, (join.1, b) :: entries, left, .cons ⟨rfl, head.2 b right⟩ values, ?_, ?_⟩
    · rw [joinAll_cons fits, joined]
    · intro word
      rw [used, mem_unite, List.exists_mem_cons_iff, or_assoc]

/-- A chain behind a head is read as a statement with the target of the head. -/
theorem ofText_of_head {front text : List Char} {target : Option String} {tokens : List Token}
    {e : Expr} (head : IsHead front target) (laid : Token.Laid tokens text)
    (derived : Grammar.Chain tokens e) :
    ∃ s, Statement.ofText (String.ofList (front ++ text)) = .ok s ∧ s.target? = target ∧
      s.body = e := by
  cases head with
  | plain =>
    refine ⟨.expression e, Statement.ofText_eq_ok_iff.2 ⟨tokens, ?_, .expression derived⟩, rfl, rfl⟩
    rwa [String.toList_ofList]
  | @target before spelling behind blanksBefore identifier blanksBehind =>
    have equals : Kind.ofSign? '=' = some .equals := rfl
    have whole :=
      (laid_identifier blanksBefore identifier blanksBehind).append_sign equals laid
    have sentence : Grammar.Sentence (Token.ofName spelling :: ⟨.equals, "="⟩ :: tokens)
        (.assignment (nameOf spelling) e) := .assignment rfl rfl derived
    refine ⟨_, Statement.ofText_eq_ok_iff.2 ⟨_, ?_, sentence⟩, rfl, rfl⟩
    rw [String.toList_ofList, List.append_assoc, List.singleton_append]
    exact whole

/-- The vector of an evaluation comes of joining the values of the operands from the left, and the
words it is made from are those that they are made from. -/
def IsFold (lexicon : Lexicon) (vars : Variables) (first : List Char)
    (joins : List (Sign × List Char)) (evaluation : Evaluation) : Prop :=
  ∃ value entries, OperandValue lexicon vars first value ∧
    List.Forall₂ (fun join entry => entry.1 = join.1 ∧
      OperandValue lexicon vars join.2 entry.2) joins entries ∧
    joinAll value.vector entries = .ok evaluation.vector ∧
    ∀ word, word ∈ evaluation.used ↔
      word ∈ value.used ∨ ∃ entry ∈ entries, word ∈ entry.2.used

/-- A text of operands that has a value has the fold of their values, and an identifier before an
equals sign is given that value. -/
theorem evaluate_operands {front first : List Char} {target : Option String}
    {joins : List (Sign × List Char)} {evaluation : Evaluation} (head : IsHead front target)
    (operand : IsOperand first) (operands : ∀ join ∈ joins, IsOperand join.2)
    (succeeds : (evaluate lexicon vars (String.ofList (front ++ chainText first joins))).result =
      .ok evaluation) :
    IsFold lexicon vars first joins evaluation ∧ evaluation.assignment = target ∧
      (evaluate lexicon vars (String.ofList (front ++ chainText first joins))).vars =
        target.elim vars fun name => vars.insert name evaluation.vector := by
  rcases exists_primary operand with ⟨tokens, e, laid, primary, valueOf⟩
  rcases exists_joins laid joins operands with ⟨more, exprs, laidAll, derived, values⟩
  rcases ofText_of_head head laidAll (.operands primary derived) with ⟨s, parsed, rfl, body⟩
  have kept : (evaluate lexicon vars (String.ofList (front ++ chainText first joins))).vars =
      store vars (evaluate lexicon vars (String.ofList (front ++ chainText first joins))).result :=
    rfl
  rw [kept, succeeds]
  rw [chainText, evaluate_result_of_parsed lexicon vars parsed, Scope.evalStatement, body]
    at succeeds
  rcases exists_of_map_eq_ok succeeds with ⟨total, found, rfl⟩
  rcases eval_foldLeft (values.imp fun join expr holds => ⟨holds.1, holds.2 lexicon vars⟩) found
    with ⟨value, entries, evaluated, fold⟩
  refine ⟨⟨value, entries, valueOf lexicon vars value evaluated, fold⟩, rfl, ?_⟩
  cases s.target? <;> rfl

/-- In `Y = (Cat-dog) + x` the first operand has parentheses, and `x` is a variable. -/
theorem evaluate_operands_grouped :
    let number := fun bits => [Float32.ofBits bits]
    let lexicon : Lexicon := .ofList [("cat", number 0x3F800000), ("dog", number 0x40000000)]
    let vars : Variables := .ofList [("x", number 0x40400000)]
    let front := ['Y', ' ', '=']
    let first := [' ', '(', 'C', 'a', 't', '-', 'd', 'o', 'g', ')', ' ']
    let joins := [(Sign.plus, [' ', 'x'])]
    let evaluation : Evaluation := ⟨number 0x3F800000, ["cat", "dog"], some "y"⟩
    let step := evaluate lexicon vars (String.ofList (front ++ chainText first joins))
    (IsHead front (some "y") ∧ IsOperand first ∧ (∀ join ∈ joins, IsOperand join.2) ∧
      step.result = .ok evaluation) ∧
    IsFold lexicon vars first joins evaluation ∧ evaluation.assignment = some "y" ∧
      step.vars = vars.insert "y" evaluation.vector := by
  intro number lexicon vars front first joins evaluation step
  have space : ∀ c ∈ [' '], isBlank c = true := List.forall_mem_singleton.2 rfl
  have nothing : ∀ c ∈ [], isBlank c = true := List.forall_mem_nil _
  have name : nameOf ['Y'] = "y" := by decide
  have target : isIdentifier ['Y'] = true := rfl
  have head : IsHead front (some (nameOf ['Y'])) := .target nothing target space
  rw [name] at head
  have inside : Statement.ofText (String.ofList ['C', 'a', 't', '-', 'd', 'o', 'g']) =
      .ok (.expression (.binary "-" (.word "cat") (.word "dog"))) := by cbv
  have operand : IsOperand first := .group space inside space
  have var : isIdentifier ['x'] = true := rfl
  have operands : ∀ join ∈ joins, IsOperand join.2 :=
    List.forall_mem_singleton.2 (.identifier space var nothing)
  have succeeds : step.result = .ok evaluation := by decide +kernel
  exact ⟨⟨head, operand, operands, succeeds⟩, evaluate_operands head operand operands succeeds⟩

end Session

end WordSpace
