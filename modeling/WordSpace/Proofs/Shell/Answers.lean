import WordSpace.Proofs.Lexicon.Misfits
import WordSpace.Proofs.Session.Uniform
import WordSpace.Shell

/-!
Answers of the shell.

A line is one of the reserved commands or input. It ends the shell, is answered or fails
(`Shell.answered`), and only input that there is room for can change the variables
(`Shell.answer_vars`). So the variables behind a run of the shell are those behind some of its lines
of input (`Shell.exists_varsAfter_eq`).

Over a lexicon of one length a line of a run fails in two cases only: there is no room for it
(`Shell.Fits`), or its answer needs a number of nearest words that is too long to be written
(`Shell.Overlong`). All other lines have an answer, and only the two commands to end the shell end
it (`Shell.answer_of_uniform`).
-/

namespace WordSpace.Shell

open Expression (Room)

/-! ## Commands -/

/-- The text that a command is to evaluate, if it is input. -/
def Command.input? : Command → Option String
  | .input text => some text
  | _ => none

theorem Command.ofLine_eq_exit_iff {line : String} :
    ofLine line = .exit ↔ Text.trim line = "exit" ∨ Text.trim line = "quit" := by
  unfold ofLine
  dsimp only
  split
  case isTrue blank => simp [blank]
  case isFalse =>
    split
    case isTrue ends => simp [ends]
    case isFalse noEnd =>
      refine iff_of_false ?_ noEnd
      split
      · simp
      · split <;> simp

/-- All lines are input but blank ones and the reserved commands. -/
theorem Command.ofLine_eq_input_iff {line text : String} :
    ofLine line = .input text ↔
      Text.trim line ∉ ["", "exit", "quit", "help", "vars"] ∧ text = Text.trim line := by
  unfold ofLine
  dsimp only
  split
  case isTrue blank => simp [blank]
  case isFalse filled =>
    split
    case isTrue ends => rcases ends with ends | ends <;> simp [ends]
    case isFalse noEnd =>
      split
      case isTrue help => simp [help]
      case isFalse noHelp =>
        split
        case isTrue list => simp [list]
        case isFalse noList =>
          have unlisted : Text.trim line ∉ ["", "exit", "quit", "help", "vars"] := by
            simp [filled, not_or.1 noEnd, noHelp, noList]
          rw [Command.input.injEq, and_iff_right unlisted]
          exact eq_comm

variable {room : Room} {lexicon : Lexicon} {count : Int} {vars : Variables} {line text : String}
  {length : Nat}

/-! ## Input -/

theorem answerInput_vars :
    (answerInput lexicon count vars text).vars = (Session.evaluate lexicon vars text).vars := by
  unfold answerInput
  dsimp only
  split <;> rfl

/-- Wrong input is answered by its error. -/
theorem answerInput_of_error {error : InputError}
    (failed : (Session.evaluate lexicon vars text).result = .error (.input error)) :
    (answerInput lexicon count vars text).result = .ok ⟨["  Error: " ++ error.message], false⟩ := by
  simp only [answerInput, failed]

/-- An assignment is answered by its target. -/
theorem answerInput_of_assignment {vector : Embedding} {used : List String} {target : String}
    (stored : (Session.evaluate lexicon vars text).result = .ok ⟨vector, used, some target⟩) :
    (answerInput lexicon count vars text).result =
      .ok ⟨["  [stored as '" ++ target ++ "']"], false⟩ := by
  simp only [answerInput, stored]

/-- An expression is answered by the words nearest to it, without those it was made from. -/
theorem answerInput_of_expression {vector : Embedding} {used : List String}
    (evaluated : (Session.evaluate lexicon vars text).result = .ok ⟨vector, used, none⟩) :
    (answerInput lexicon count vars text).result =
      (fun found => ⟨found.map matchLine, false⟩) <$>
        (lexicon.nearest vector count used).mapError .ofSearch := by
  simp only [answerInput, evaluated, Session.search]
  rfl

/-- Input has an answer and does not end the shell, or it fails and leaves the variables as they
are. -/
theorem answerInput_cases (lexicon : Lexicon) (count : Int) (vars : Variables) (text : String) :
    (∃ lines, (answerInput lexicon count vars text).result = .ok ⟨lines, false⟩) ∨
      ∃ failure, (answerInput lexicon count vars text).result = .error failure ∧
        (answerInput lexicon count vars text).vars = vars := by
  have stored : (answerInput lexicon count vars text).vars =
      Session.store vars (Session.evaluate lexicon vars text).result := answerInput_vars
  rw [stored]
  cases evaluated : (Session.evaluate lexicon vars text).result with
  | error error =>
    cases error with
    | input error => exact .inl ⟨_, answerInput_of_error evaluated⟩
    | lengthMismatch => exact .inr ⟨.lengthMismatch, by simp only [answerInput, evaluated], rfl⟩
  | ok evaluation =>
    obtain ⟨vector, used, assignment⟩ := evaluation
    cases assignment with
    | some target => exact .inl ⟨_, answerInput_of_assignment evaluated⟩
    | none =>
      rw [answerInput_of_expression evaluated]
      cases lexicon.nearest vector count used with
      | ok found => exact .inl ⟨_, rfl⟩
      | error failure => exact .inr ⟨.ofSearch failure, rfl, rfl⟩

/-! ## One line -/

/-- There is room for a line: for input, if it does not nest too deep, and for all commands. -/
def Fits (room : Room) (lexicon : Lexicon) (vars : Variables) : Command → Prop
  | .input text => HasRoom room lexicon vars text
  | .nothing | .exit | .help | .listVariables => True

/-- The answer to a line needs the number of nearest words in writing, which is too long for that:
the help text shows it, and a search that looks at the words puts it on record. -/
def Overlong (lexicon : Lexicon) (count : Int) (vars : Variables) : Command → Prop
  | .help => ¬Decimal.IsShort count
  | .input text =>
    10 ^ Decimal.maxDigits ≤ count ∧ lexicon.isEmpty = false ∧
      ∃ vector used, (Session.evaluate lexicon vars text).result = .ok ⟨vector, used, none⟩
  | .nothing | .exit | .listVariables => False

/-- A number that is short is short enough for all answers. -/
theorem not_overlong_of_isShort (short : Decimal.IsShort count) (command : Command) :
    ¬Overlong lexicon count vars command := by
  cases command with
  | input text =>
    rintro ⟨long, -⟩
    exact (Decimal.not_isShort_of_le long).2 short
  | help => exact not_not_intro short
  | nothing | exit | listVariables => exact not_false

/-- Input that there is room for is evaluated. -/
theorem answer_of_fits (command : Command.ofLine line = .input text)
    (fits : HasRoom room lexicon vars text) :
    answer room lexicon count vars line = answerInput lexicon count vars text := by
  rw [answer, command]
  exact if_pos fits

/-- A line that there is no room for fails. -/
theorem answer_of_not_fits (unfit : ¬Fits room lexicon vars (Command.ofLine line)) :
    answer room lexicon count vars line = ⟨.error .stackExhausted, vars, []⟩ := by
  unfold answer
  cases command : Command.ofLine line with
  | input text =>
    rw [command] at unfit
    exact if_neg unfit
  | nothing | exit | help | listVariables =>
    rw [command] at unfit
    exact absurd trivial unfit

/-- Input that there is room for is evaluated, and no other line changes the variables. -/
theorem answer_vars :
    (answer room lexicon count vars line).vars =
      (Command.ofLine line).input?.elim vars fun text =>
        if HasRoom room lexicon vars text then (Session.evaluate lexicon vars text).vars
        else vars := by
  unfold answer
  cases Command.ofLine line with
  | input text =>
    dsimp only [Command.input?, Option.elim_some]
    split
    · exact answerInput_vars
    · rfl
  | nothing | exit | help | listVariables => rfl

/-- What comes of a line: it ends the shell without a word, it is answered and the shell goes on, or
it fails. Only an answer can leave other variables behind. -/
inductive Answered (room : Room) (lexicon : Lexicon) (count : Int) (vars : Variables)
    (line : String) : Step Failure Response → Prop where
  | ends (command : Command.ofLine line = .exit) :
    Answered room lexicon count vars line ⟨.ok ⟨[], true⟩, vars, []⟩
  | goesOn {lines : List String} {behind : Variables} {records : List Record}
    (command : Command.ofLine line ≠ .exit) :
    Answered room lexicon count vars line ⟨.ok ⟨lines, false⟩, behind, records⟩
  | fails {failure : Failure} {records : List Record} :
    Answered room lexicon count vars line ⟨.error failure, vars, records⟩

theorem answered (room : Room) (lexicon : Lexicon) (count : Int) (vars : Variables)
    (line : String) :
    Answered room lexicon count vars line (answer room lexicon count vars line) := by
  cases command : Command.ofLine line with
  | exit =>
    rw [answer, command]
    exact .ends command
  | nothing | listVariables =>
    rw [answer, command]
    exact .goesOn (by simp [command])
  | help =>
    rw [answer, command]
    cases Decimal.Figure.ofInt count with
    | ok figure => exact .goesOn (by simp [command])
    | error tooMany => exact .fails
  | input text =>
    by_cases fits : HasRoom room lexicon vars text
    · have outcome := answerInput_cases lexicon count vars text
      rw [answer_of_fits command fits]
      generalize answerInput lexicon count vars text = step at outcome
      obtain ⟨result, behind, records⟩ := step
      obtain ⟨lines, rfl⟩ | ⟨failure, rfl, rfl⟩ := outcome
      · exact .goesOn (by simp [command])
      · exact .fails
    · rw [answer_of_not_fits (command ▸ fits)]
      exact .fails

/-! ## Lexicons of one length -/

/-- Input has an answer and does not end the shell, unless it asks a search for too many words. -/
theorem answerInput_of_uniform (words : lexicon.Uniform length) (uniform : vars.Uniform length)
    (count : Int) (text : String) :
    ¬Overlong lexicon count vars (.input text) ∧
        (∃ lines, (answerInput lexicon count vars text).result = .ok ⟨lines, false⟩) ∨
      Overlong lexicon count vars (.input text) ∧
        (answerInput lexicon count vars text).result = .error .tooManyDigits := by
  obtain ⟨error, failed⟩ | ⟨⟨vector, used, assignment⟩, succeeded, fits⟩ :=
    (Session.evaluate_of_uniform words uniform text).1
  · refine .inl ⟨?_, _, answerInput_of_error failed⟩
    rintro ⟨-, -, vector, used, evaluated⟩
    cases failed.symm.trans evaluated
  · cases assignment with
    | some target =>
      refine .inl ⟨?_, _, answerInput_of_assignment succeeded⟩
      rintro ⟨-, -, vector, used, evaluated⟩
      cases succeeded.symm.trans evaluated
    | none =>
      subst fits
      have fitting : ¬lexicon.Misfits vector := fun misfits => Lexicon.misfits_iff.1 misfits words
      rw [answerInput_of_expression succeeded]
      cases outcome : lexicon.nearest vector count used with
      | ok found =>
        refine .inl ⟨?_, _, rfl⟩
        rintro ⟨long, filled, -⟩
        have asks : 0 < count := (Decimal.not_isShort_of_le long).1
        have fails : lexicon.nearest vector count used = .error .tooManyDigits :=
          Lexicon.nearest_eq_error_iff.2 ⟨⟨asks, filled⟩, .inr ⟨rfl, fitting, long⟩⟩
        cases outcome.symm.trans fails
      | error failure =>
        obtain ⟨⟨-, filled⟩, ⟨-, misfits⟩ | ⟨rfl, -, long⟩⟩ :=
          Lexicon.nearest_eq_error_iff.1 outcome
        · exact absurd misfits fitting
        · exact .inr ⟨⟨long, filled, vector, used, succeeded⟩, rfl⟩

/-- What comes of a command over a lexicon of one length: there is no room for it, its answer needs
a number that is too long, or it has an answer, which ends the shell if and only if that is the
command. -/
inductive Settled (room : Room) (lexicon : Lexicon) (count : Int) (vars : Variables)
    (command : Command) : Except Failure Response → Prop where
  | unfit (unfit : ¬Fits room lexicon vars command) :
    Settled room lexicon count vars command (.error .stackExhausted)
  | overlong (fits : Fits room lexicon vars command)
    (overlong : Overlong lexicon count vars command) :
    Settled room lexicon count vars command (.error .tooManyDigits)
  | answered {response : Response} (fits : Fits room lexicon vars command)
    (brief : ¬Overlong lexicon count vars command)
    (ends : response.exit = true ↔ command = .exit) :
    Settled room lexicon count vars command (.ok response)

theorem settled_of_uniform (words : lexicon.Uniform length) (uniform : vars.Uniform length)
    (room : Room) (count : Int) (line : String) :
    Settled room lexicon count vars (Command.ofLine line)
      (answer room lexicon count vars line).result := by
  generalize command : Command.ofLine line = c
  by_cases fits : Fits room lexicon vars c
  case neg =>
    rw [answer_of_not_fits (command ▸ fits)]
    exact .unfit fits
  case pos =>
    cases c with
    | nothing | exit | listVariables =>
      rw [answer, command]
      exact .answered fits not_false (by simp)
    | help =>
      rw [answer, command]
      by_cases short : Decimal.IsShort count
      · rw [Decimal.Figure.ofInt_of_isShort short]
        exact .answered fits (not_overlong_of_isShort short .help) (by simp)
      · rw [Decimal.Figure.ofInt_of_not_isShort short]
        exact .overlong fits short
    | input text =>
      rw [answer_of_fits command fits]
      obtain ⟨brief, lines, answered⟩ | ⟨overlong, failed⟩ :=
        answerInput_of_uniform words uniform count text
      · rw [answered]
        exact .answered fits brief (by simp)
      · rw [failed]
        exact .overlong fits overlong

/-- Each of the three ways is the only one in its case. -/
theorem Settled.result_iff {command : Command} {result : Except Failure Response}
    (settled : Settled room lexicon count vars command result) :
    ((∃ response, result = .ok response) ↔
        Fits room lexicon vars command ∧ ¬Overlong lexicon count vars command) ∧
      (result = .error .stackExhausted ↔ ¬Fits room lexicon vars command) ∧
      (result = .error .tooManyDigits ↔
        Fits room lexicon vars command ∧ Overlong lexicon count vars command) := by
  cases settled with
  | unfit unfit => simp [unfit]
  | overlong fits overlong => simp [fits, overlong]
  | answered fits brief ends => simp [fits, brief]

/-- The commands to end the shell end it, and nothing else does. -/
theorem Settled.exit_iff {command : Command} {result : Except Failure Response}
    (settled : Settled room lexicon count vars command result) :
    (∃ response, result = .ok response ∧ response.exit = true) ↔ command = .exit := by
  cases settled with
  | unfit unfit =>
    refine iff_of_false (fun ⟨_, failed, _⟩ => nomatch failed) ?_
    rintro rfl
    exact unfit trivial
  | overlong fits overlong =>
    refine iff_of_false (fun ⟨_, failed, _⟩ => nomatch failed) ?_
    rintro rfl
    exact overlong
  | answered fits brief ends => simp [ends]

theorem answer_of_exit (command : Command.ofLine line = .exit) :
    answer room lexicon count vars line = ⟨.ok ⟨[], true⟩, vars, []⟩ := by
  rw [answer, command]

/-! ## Several lines -/

/-- The variables behind several lines, answered one after the other. -/
def varsAfter (room : Room) (lexicon : Lexicon) (count : Int) (vars : Variables) :
    List String → Variables
  | [] => vars
  | line :: rest =>
    varsAfter room lexicon count (answer room lexicon count vars line).vars rest

/-- A run of the shell leaves behind what its lines of input do that there is room for. -/
theorem exists_varsAfter_eq (room : Room) (lexicon : Lexicon) (count : Int) (vars : Variables)
    (lines : List String) :
    ∃ texts, texts.Sublist (lines.filterMap fun line => (Command.ofLine line).input?) ∧
      varsAfter room lexicon count vars lines = Session.varsAfter lexicon vars texts := by
  induction lines generalizing vars with
  | nil => exact ⟨[], .slnil, rfl⟩
  | cons line rest ih =>
    rw [varsAfter, answer_vars, List.filterMap_cons]
    cases (Command.ofLine line).input? with
    | none => exact ih vars
    | some text =>
      dsimp only [Option.elim_some]
      split
      case isTrue =>
        obtain ⟨texts, among, behind⟩ := ih (Session.evaluate lexicon vars text).vars
        exact ⟨text :: texts, among.cons_cons text, behind⟩
      case isFalse =>
        obtain ⟨texts, among, behind⟩ := ih vars
        exact ⟨texts, among.cons text, behind⟩

end WordSpace.Shell
