import WordSpace.Proofs.Expression.Spelling

/-!
Reading back what was printed.

The sentences of the grammar whose tokens come from texts are the printed statements
(`Statement.isPlain_and_prints_iff`). So a text is read as a statement if and only if it shows
tokens that print the statement, and what can be read are the plain statements
(`Statement.ofText_eq_ok_iff_prints`).
-/

namespace WordSpace.Expression

open Grammar

/-! ## Identifiers are apart -/

namespace ReadState

variable {state next stop : ReadState} {token : Token} {tokens : List Token}

theorem next?_operator_identifier (kind : token.kind = .identifier)
    (enclosing : List (Option Pending)) (left : Expr) :
    (operator enclosing left).next? token = none := by
  cases enclosing <;> simp [next?, kind, Kind.isOperator]

/-- The reader takes no identifier behind an identifier. -/
theorem apart_of_after? (run : state.after? tokens = some stop) : Token.Apart tokens := by
  induction tokens generalizing state with
  | nil => exact .nil
  | cons token tokens ih =>
    rcases Option.bind_eq_some_iff.1 run with ⟨next, step, run⟩
    refine List.isChain_cons.2 ⟨?_, ih run⟩
    intro second first both
    rcases both with ⟨name, also⟩
    rcases List.head?_eq_some_iff.1 first with ⟨rest, rfl⟩
    rcases Option.bind_eq_some_iff.1 run with ⟨later, stepAlso, -⟩
    cases state with
    | operand enclosing pending =>
      rw [next?_identifier name] at step
      cases step
      rw [next?_operator_identifier also] at stepAlso
      cases stepAlso
    | operator enclosing left =>
      rw [next?_operator_identifier name] at step
      cases step

end ReadState

theorem Grammar.Sentence.apart {tokens : List Token} {s : Statement}
    (sentence : Grammar.Sentence tokens s) : Token.Apart tokens := by
  cases sentence with
  | expression derived => exact ReadState.apart_of_after? (derived.after? [])
  | @assignment name equals body e _ kind derived =>
    have behind : Token.Apart body := ReadState.apart_of_after? (derived.after? [])
    have noName : equals.kind ≠ .identifier := by simp [kind]
    refine List.isChain_cons.2 ⟨?_, List.isChain_cons.2 ⟨?_, behind⟩⟩
    · intro second first both
      cases first
      exact noName both.2
    · exact fun _ _ both => noName both.1

/-! ## What is derived is printed -/

/-- The tokens print an expression so that it can be a right operand. -/
def Expr.PrintsOperand (e : Expr) (tokens : List Token) : Prop :=
  (∃ name, e = .word name ∧ tokens = [⟨.identifier, name⟩]) ∨
    ∃ inside, tokens = grouped inside ∧ e.Prints inside

theorem Expr.PrintsOperand.prints {e : Expr} {tokens : List Token}
    (operand : e.PrintsOperand tokens) : e.Prints tokens := by
  rcases operand with ⟨name, rfl, rfl⟩ | ⟨inside, rfl, prints⟩
  · exact .word name
  · exact .group prints

theorem Expr.Prints.join {left right : Expr} {before behind : List Token} (operator : String)
    (prints : left.Prints before) (operand : right.PrintsOperand behind) :
    (Expr.binary operator left right).Prints (before ++ .ofOperator operator :: behind) := by
  rcases operand with ⟨name, rfl, rfl⟩ | ⟨inside, rfl, printsRight⟩
  · exact .joinWord operator name prints
  · exact .joinGroup operator prints printsRight

mutual

theorem Grammar.Primary.prints {tokens : List Token} {e : Expr} :
    Primary tokens e → (∀ token ∈ tokens, token.Proper) →
      e.isPlain = true ∧ e.PrintsOperand tokens
  | @Primary.word token kind, proper => by
    have lower := (proper token List.mem_cons_self).isLowerName kind
    refine ⟨lower, .inl ⟨token.text, rfl, ?_⟩⟩
    rw [← kind]
  | @Primary.group opening closing inside e first derived last, proper => by
    have printed := derived.prints fun token member => proper token (by simp [member])
    have opens := (proper opening (by simp)).eq_sign (c := '(') (by rw [first]; rfl)
    have closes := (proper closing (by simp)).eq_sign (c := ')') (by rw [last]; rfl)
    refine ⟨printed.1, .inr ⟨inside, ?_, printed.2⟩⟩
    rw [opens, closes, first, last]
    rfl

theorem Grammar.Joins.prints {tokens : List Token} {joins : List (String × Expr)} :
    Joins tokens joins → (∀ token ∈ tokens, token.Proper) → ∀ left before, left.isPlain = true →
      left.Prints before →
      (foldLeft left joins).isPlain = true ∧ (foldLeft left joins).Prints (before ++ tokens)
  | .nil, _, left, before, plain, prints => by
    rw [List.append_nil]
    exact ⟨plain, prints⟩
  | @Joins.cons operator operand rest right joins kind first derived, proper, left, before, plain,
      prints => by
    have printed := first.prints fun token member => proper token (by simp [member])
    rcases (proper operator (by simp)).eq_ofOperator kind with ⟨sign, isSign⟩
    have plainBoth : (Expr.binary operator.text left right).isPlain = true := by
      simp [Expr.isPlain, isSign, plain, printed.1]
    have both := prints.join operator.text printed.2
    rw [← sign] at both
    have all := derived.prints (fun token member => proper token (by simp [member])) _ _ plainBoth
      both
    rwa [List.append_assoc] at all

theorem Grammar.Chain.prints {tokens : List Token} {e : Expr} :
    Grammar.Chain tokens e → (∀ token ∈ tokens, token.Proper) →
      e.isPlain = true ∧ e.Prints tokens
  | .operands first derived, proper => by
    have printed := first.prints fun token member => proper token (by simp [member])
    exact derived.prints (fun token member => proper token (by simp [member])) _ _ printed.1
      printed.2.prints

end

/-! ## What is printed is derived -/

theorem Token.isOperator_ofOperator (operator : String) :
    (Token.ofOperator operator).kind.isOperator = true := by
  rw [Token.ofOperator]
  split <;> rfl

/-- A right operand that was printed is read and joined to what waits for it. -/
theorem ReadState.after?_grouped {inside : List Token} {e : Expr}
    (read : ∀ enclosing, (operand enclosing none).after? inside = some (operator enclosing e))
    (enclosing : List (Option Pending)) (pending : Option Pending) :
    (operand enclosing pending).after? (grouped inside) =
      some (operator enclosing (Pending.join pending e)) := by
  rw [grouped, List.cons_append, after?, next?_leftParen rfl, Option.bind_some, after?_append,
    read, Option.bind_some, after?, next?_rightParen rfl]
  rfl

theorem Expr.Prints.after? {e : Expr} {tokens : List Token} (prints : e.Prints tokens)
    (enclosing : List (Option Pending)) :
    (ReadState.operand enclosing none).after? tokens = some (.operator enclosing e) := by
  induction prints generalizing enclosing with
  | word name => rfl
  | group _ ih => exact ReadState.after?_grouped ih enclosing none
  | joinWord operator name _ ih =>
    rw [ReadState.after?_append, ih, Option.bind_some, ReadState.after?,
      ReadState.next?_isOperator (Token.isOperator_ofOperator operator)]
    rfl
  | joinGroup operator _ _ ihLeft ihRight =>
    rw [ReadState.after?_append, ihLeft, Option.bind_some, ReadState.after?,
      ReadState.next?_isOperator (Token.isOperator_ofOperator operator), Option.bind_some,
      ReadState.after?_grouped ihRight]
    rfl

theorem Expr.Prints.derived {e : Expr} {tokens : List Token} (prints : e.Prints tokens) :
    Grammar.Chain tokens e :=
  readExpression_eq_done_iff.1 (ReadState.read_of_after? (prints.after? []))

theorem forall_proper_grouped {inside : List Token} (proper : ∀ token ∈ inside, token.Proper) :
    ∀ token ∈ grouped inside, token.Proper := by
  refine List.forall_mem_append.2 ⟨List.forall_mem_cons.2 ⟨.sign (c := '(') rfl, proper⟩, ?_⟩
  exact List.forall_mem_singleton.2 (.sign (c := ')') rfl)

theorem Expr.Prints.proper {e : Expr} {tokens : List Token} (prints : e.Prints tokens)
    (plain : e.isPlain = true) : ∀ token ∈ tokens, token.Proper := by
  induction prints with
  | word name => exact List.forall_mem_singleton.2 (.name plain)
  | group _ ih => exact forall_proper_grouped (ih plain)
  | joinWord operator name _ ih =>
    simp only [Expr.isPlain, Bool.and_eq_true, Bool.or_eq_true, beq_iff_eq] at plain
    rcases plain with ⟨⟨isSign, left⟩, right⟩
    refine List.forall_mem_append.2 ⟨ih left, List.forall_mem_cons.2 ⟨?_, ?_⟩⟩
    · exact Token.proper_ofOperator isSign
    · exact List.forall_mem_singleton.2 (.name right)
  | joinGroup operator _ _ ihLeft ihRight =>
    simp only [Expr.isPlain, Bool.and_eq_true, Bool.or_eq_true, beq_iff_eq] at plain
    rcases plain with ⟨⟨isSign, left⟩, right⟩
    refine List.forall_mem_append.2 ⟨ihLeft left, List.forall_mem_cons.2 ⟨?_, ?_⟩⟩
    · exact Token.proper_ofOperator isSign
    · exact forall_proper_grouped (ihRight right)

/-! ## Both ways -/

/-- Printing gives the sentences of the grammar whose tokens a text can have. -/
theorem Statement.isPlain_and_prints_iff {s : Statement} {tokens : List Token} :
    s.isPlain = true ∧ s.Prints tokens ↔
      (∀ token ∈ tokens, token.Proper) ∧ Grammar.Sentence tokens s := by
  constructor
  · intro printed
    rcases printed with ⟨plain, prints⟩
    cases prints with
    | expression prints => exact ⟨prints.proper plain, .expression prints.derived⟩
    | assignment name prints =>
      rcases Bool.and_eq_true_iff.1 plain with ⟨target, body⟩
      refine ⟨?_, .assignment rfl rfl prints.derived⟩
      refine List.forall_mem_cons.2 ⟨.name target, List.forall_mem_cons.2 ⟨?_, ?_⟩⟩
      · exact .sign (c := '=') rfl
      · exact prints.proper body
  · intro derivable
    rcases derivable with ⟨proper, sentence⟩
    cases sentence with
    | expression derived =>
      rcases derived.prints proper with ⟨plain, prints⟩
      exact ⟨plain, .expression prints⟩
    | @assignment name equals body e identifier sign derived =>
      rcases List.forall_mem_cons.1 proper with ⟨first, others⟩
      rcases List.forall_mem_cons.1 others with ⟨second, others⟩
      rcases derived.prints others with ⟨plain, prints⟩
      have equals_eq := second.eq_sign (c := '=') (by rw [sign]; rfl)
      refine ⟨Bool.and_eq_true_iff.2 ⟨first.isLowerName identifier, plain⟩, ?_⟩
      rw [equals_eq, sign]
      have prints := Statement.Prints.assignment name.text prints
      rwa [← identifier] at prints

/-- A text is read as a statement if and only if the statement is plain and the text shows tokens
that print it, and each plain statement is read from some text. -/
theorem Statement.ofText_eq_ok_iff_prints (s : Statement) :
    ((∃ text, Statement.ofText text = .ok s) ↔ s.isPlain = true) ∧
      ∀ text, Statement.ofText text = .ok s ↔
        s.isPlain = true ∧ ∃ tokens, s.Prints tokens ∧ Token.Spaced tokens text.toList := by
  have readable (text : String) : Statement.ofText text = .ok s ↔
      s.isPlain = true ∧ ∃ tokens, s.Prints tokens ∧ Token.Spaced tokens text.toList := by
    rw [Statement.ofText_eq_ok_iff]
    constructor
    · intro laidOut
      rcases laidOut with ⟨tokens, laid, sentence⟩
      rcases isPlain_and_prints_iff.2 ⟨laid.proper, sentence⟩ with ⟨plain, prints⟩
      exact ⟨plain, tokens, prints, laid.spaced⟩
    · intro shown
      rcases shown with ⟨plain, tokens, prints, spaced⟩
      rcases isPlain_and_prints_iff.1 ⟨plain, prints⟩ with ⟨proper, sentence⟩
      exact ⟨tokens, spaced.laid proper sentence.apart, sentence⟩
  refine ⟨⟨?_, ?_⟩, readable⟩
  · intro readFrom
    rcases readFrom with ⟨text, read⟩
    exact ((readable text).1 read).1
  · intro plain
    rcases s.exists_prints with ⟨tokens, prints⟩
    have proper := (isPlain_and_prints_iff.1 ⟨plain, prints⟩).1
    have spaced := Token.spaced_flatMap proper
    rw [← String.toList_ofList (l := tokens.flatMap (·.text.toList))] at spaced
    exact ⟨_, (readable _).2 ⟨plain, tokens, prints, spaced⟩⟩

end WordSpace.Expression
