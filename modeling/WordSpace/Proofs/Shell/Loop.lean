import WordSpace.Proofs.Shell.Answers

/-!
The loop of the shell.

Where the shell ends is said without its loop: `Shell.IsEnd` is the first input that is an
interrupt, a command to end the shell or a line without an answer, or the end of the input. A run
prompts for every input as far as that end, shows the answers to the inputs before it, and says
farewell unless it failed (`Shell.run_ends`).
-/

namespace WordSpace.Shell

open Expression (Room)

variable {room : Room} {lexicon : Lexicon} {count : Int} {vars : Variables} {text : String}
  {k : Nat}

/-! ## Several inputs -/

/-- The line that is typed, if it is one. -/
def Typed.line? : Typed → Option String
  | .line text => some text
  | .interrupt => none

/-- The lines among the first inputs. -/
def linesBefore (typed : List Typed) (k : Nat) : List String :=
  (typed.take k).filterMap Typed.line?

/-- The variables behind the first inputs. -/
def varsBefore (room : Room) (lexicon : Lexicon) (count : Int) (vars : Variables)
    (typed : List Typed) (k : Nat) : Variables :=
  varsAfter room lexicon count vars (linesBefore typed k)

@[simp] theorem varsBefore_zero (typed : List Typed) :
    varsBefore room lexicon count vars typed 0 = vars := rfl

@[simp] theorem varsBefore_line (text : String) (rest : List Typed) (k : Nat) :
    varsBefore room lexicon count vars (.line text :: rest) (k + 1) =
      varsBefore room lexicon count (answer room lexicon count vars text).vars rest k := rfl

/-- The results of several lines, answered one after the other. -/
def results (room : Room) (lexicon : Lexicon) (count : Int) (vars : Variables) :
    List String → List (Except Failure Response)
  | [] => []
  | line :: rest =>
    let step := answer room lexicon count vars line
    step.result :: results room lexicon count step.vars rest

/-! ## Ends -/

/-- What ends the shell: an interrupt, a command to end it, or a line without an answer. -/
inductive Ends (room : Room) (lexicon : Lexicon) (count : Int) (vars : Variables) :
    Typed → Prop where
  | interrupt : Ends room lexicon count vars .interrupt
  | command {text : String} (command : Text.trim text = "exit" ∨ Text.trim text = "quit") :
    Ends room lexicon count vars (.line text)
  | failure {text : String} {failure : Failure}
    (failed : (answer room lexicon count vars text).result = .error failure) :
    Ends room lexicon count vars (.line text)

/-- The shell ends at an input: the first one that ends it, or the end of the input. -/
structure IsEnd (room : Room) (lexicon : Lexicon) (count : Int) (vars : Variables)
    (typed : List Typed) (k : Nat) : Prop where
  within : k ≤ typed.length
  ends : ∀ input ∈ typed[k]?,
    Ends room lexicon count (varsBefore room lexicon count vars typed k) input
  first : ∀ j < k, ∀ input ∈ typed[j]?,
    ¬Ends room lexicon count (varsBefore room lexicon count vars typed j) input

variable {typed rest : List Typed}

/-- If the first input ends the shell, or there is none, that is the end. -/
theorem isEnd_iff_eq_zero (ends : ∀ input ∈ typed[0]?, Ends room lexicon count vars input) :
    IsEnd room lexicon count vars typed k ↔ k = 0 := by
  constructor
  case mp =>
    intro isEnd
    by_contra later
    have positive : 0 < k := Nat.pos_of_ne_zero later
    have filled : 0 < typed.length := positive.trans_le isEnd.within
    have first : typed[0]? = some typed[0] := List.getElem?_eq_getElem filled
    exact isEnd.first 0 positive _ first (ends _ first)
  case mpr =>
    rintro rfl
    exact ⟨Nat.zero_le _, ends, fun j early => absurd early (Nat.not_lt_zero j)⟩

/-- Behind a line that does not end the shell, it ends where the rest of the input does. -/
theorem isEnd_cons_iff (goesOn : ¬Ends room lexicon count vars (.line text)) :
    IsEnd room lexicon count vars (.line text :: rest) k ↔
      ∃ i, IsEnd room lexicon count (answer room lexicon count vars text).vars rest i ∧
        k = i + 1 := by
  constructor
  case mp =>
    intro isEnd
    cases k with
    | zero => exact absurd (isEnd.ends _ rfl) goesOn
    | succ i =>
      refine ⟨i, ⟨Nat.le_of_succ_le_succ isEnd.within, ?_, fun j early => ?_⟩, rfl⟩
      · simpa using isEnd.ends
      · simpa using isEnd.first (j + 1) (Nat.succ_lt_succ early)
  case mpr =>
    rintro ⟨i, isEnd, rfl⟩
    refine ⟨Nat.succ_le_succ isEnd.within, ?_, fun j early => ?_⟩
    · simpa using isEnd.ends
    · cases j with
      | zero => simpa using goesOn
      | succ j => simpa using isEnd.first j (Nat.lt_of_succ_lt_succ early)

/-! ## Runs -/

/-- What the shell shows for an input that it answers: the prompt, and the lines of the answer. -/
def Response.turn (response : Response) : List Shown := .prompt :: response.lines.map .line

@[simp] theorem Response.countP_turn (response : Response) :
    response.turn.countP (· == .prompt) = 1 := by
  rw [turn, List.countP_cons_of_pos rfl, List.countP_map]
  simp [Function.comp_def]

@[simp] theorem Response.filterMap_turn (response : Response) :
    response.turn.filterMap Shown.line? = response.lines := by
  rw [turn, List.filterMap_cons_none rfl, List.filterMap_map]
  exact List.filterMap_some

/-- What the shell shows at its end: the prompt, and the farewell unless it failed. -/
def closing (failure : Option Failure) : List Shown :=
  .prompt :: if failure.isNone then [.line farewell] else []

@[simp] theorem countP_closing (failure : Option Failure) :
    (closing failure).countP (· == .prompt) = 1 := by
  cases failure <;> rfl

@[simp] theorem filterMap_closing (failure : Option Failure) :
    (closing failure).filterMap Shown.line? = if failure.isNone then [farewell] else [] := by
  cases failure <;> rfl

/-- A run does what is due if the shell ends at the input `k` and the inputs before it have the
given responses: it answers these inputs one after the other, reads none behind its end, and fails
only if the input at its end has no answer. -/
structure Performs (room : Room) (lexicon : Lexicon) (count : Int) (vars : Variables)
    (typed : List Typed) (k : Nat) (responses : List Response) (run : Transcript) : Prop where
  length : responses.length = k
  answers : results room lexicon count vars (linesBefore typed k) = responses.map .ok
  shown : run.shown = responses.flatMap Response.turn ++ closing run.failure
  unread : run.unread = typed.drop (k + 1)
  failure : ∀ failure, run.failure = some failure ↔ ∃ text, typed[k]? = some (.line text) ∧
    (answer room lexicon count (varsBefore room lexicon count vars typed k) text).result =
      .error failure
  vars : run.vars = varsBefore room lexicon count vars typed k

variable {responses : List Response} {transcript : Transcript}

/-- A run prompts for every input as far as its end. -/
theorem Performs.prompts
    (performs : Performs room lexicon count vars typed k responses transcript) :
    transcript.prompts = k + 1 := by
  rw [Transcript.prompts, performs.shown, List.countP_append, List.countP_flatMap]
  simp [Function.comp_def, performs.length]

/-- A run puts out its answers, and the farewell unless it failed. -/
theorem Performs.output
    (performs : Performs room lexicon count vars typed k responses transcript) :
    transcript.output = responses.flatMap Response.lines ++
      if transcript.failure.isNone then [farewell] else [] := by
  rw [Transcript.output, performs.shown, List.filterMap_append, List.filterMap_flatMap]
  simp

/-- Unless the first input has no answer, a run that ends at once says farewell. -/
theorem performs_ended
    (answered : ∀ text, typed[0]? = some (.line text) →
      ∃ response, (answer room lexicon count vars text).result = .ok response) :
    Performs room lexicon count vars typed 0 [] (.ended (typed.drop 1) vars) := by
  refine ⟨rfl, rfl, rfl, rfl, fun failure => ⟨nofun, ?_⟩, rfl⟩
  rintro ⟨text, first, failed⟩
  obtain ⟨response, answered⟩ := answered text first
  cases answered.symm.trans failed

/-- A run fails at once if the first input is a line without an answer. -/
theorem performs_failed {failure : Failure} (records : List Record)
    (failed : (answer room lexicon count vars text).result = .error failure) :
    Performs room lexicon count vars (.line text :: rest) 0 []
      ⟨[.prompt], rest, some failure, vars, records⟩ := by
  refine ⟨rfl, rfl, rfl, rfl, fun other => ⟨?_, ?_⟩, rfl⟩
  · rintro ⟨⟩
    exact ⟨text, rfl, failed⟩
  · rintro ⟨_, ⟨⟩, answered⟩
    exact congrArg _ (Except.error.inj (failed.symm.trans answered))

/-- A run over the rest of the input becomes one over the whole input by the answer to its first
line. -/
theorem Performs.after {response : Response} (records : List Record)
    (answered : (answer room lexicon count vars text).result = .ok response)
    (performs : Performs room lexicon count (answer room lexicon count vars text).vars rest k
      responses transcript) :
    Performs room lexicon count vars (.line text :: rest) (k + 1) (response :: responses)
      (transcript.after response.lines records) where
  length := congrArg (· + 1) performs.length
  answers := by
    rw [List.map_cons, ← answered, ← performs.answers]
    rfl
  shown := by
    rw [List.flatMap_cons, List.append_assoc, Transcript.shown_after, performs.shown]
    rfl
  unread := by simpa using performs.unread
  failure := by simpa using performs.failure
  vars := by simpa using performs.vars

/-- A line ends the run, or the run goes on behind the answer to it. -/
theorem run_line_cases (room : Room) (lexicon : Lexicon) (count : Int) (vars : Variables)
    (text : String) (rest : List Typed) :
    (Ends room lexicon count vars (.line text) ∧
        Performs room lexicon count vars (.line text :: rest) 0 []
          (run room lexicon count vars (.line text :: rest))) ∨
      ¬Ends room lexicon count vars (.line text) ∧
        ∃ response records, (answer room lexicon count vars text).result = .ok response ∧
          run room lexicon count vars (.line text :: rest) =
            (run room lexicon count (answer room lexicon count vars text).vars rest).after
              response.lines records := by
  have outcome := answered room lexicon count vars text
  rw [run]
  generalize same : answer room lexicon count vars text = step at outcome
  cases outcome with
  | ends command =>
    refine .inl ⟨.command (Command.ofLine_eq_exit_iff.1 command), performs_ended ?_⟩
    rintro _ ⟨⟩
    exact ⟨_, congrArg Step.result same⟩
  | @fails failure records =>
    have failed : (answer room lexicon count vars text).result = .error failure := by rw [same]
    exact .inl ⟨.failure failed, performs_failed records failed⟩
  | @goesOn lines behind records command =>
    refine .inr ⟨?_, ⟨lines, false⟩, records, rfl, rfl⟩
    intro ends
    cases ends with
    | command exits => exact command (Command.ofLine_eq_exit_iff.2 exits)
    | failure failed => simp [same] at failed

/-- A run performs what is due at its end, and there is no other end. -/
theorem exists_performs (room : Room) (lexicon : Lexicon) (count : Int) (vars : Variables)
    (typed : List Typed) :
    ∃ k responses, (∀ j, IsEnd room lexicon count vars typed j ↔ j = k) ∧
      Performs room lexicon count vars typed k responses (run room lexicon count vars typed) := by
  -- An answer leaves other variables to the inputs behind it, so the induction is for all of them.
  induction typed generalizing vars with
  | nil =>
    refine ⟨0, [], fun j => isEnd_iff_eq_zero ?_, performs_ended ?_⟩
    · simp
    · simp
  | cons input rest ih =>
    cases input with
    | interrupt =>
      refine ⟨0, [], fun j => isEnd_iff_eq_zero ?_, performs_ended ?_⟩
      · simpa using Ends.interrupt
      · simp
    | line text =>
      obtain ⟨ends, performs⟩ | ⟨goesOn, response, records, answered, ran⟩ :=
        run_line_cases room lexicon count vars text rest
      · refine ⟨0, [], fun j => isEnd_iff_eq_zero ?_, performs⟩
        simpa using ends
      · obtain ⟨k, responses, isEnd, performs⟩ := ih (answer room lexicon count vars text).vars
        rw [ran]
        refine ⟨k + 1, response :: responses, fun j => ?_, performs.after records answered⟩
        rw [isEnd_cons_iff goesOn]
        simp [isEnd]

/-- Whatever is typed, there is one input at which the shell ends, or the end of the input. A run
prompts for every input up to there and leaves the others unread. It puts out the answers to the
inputs before the end, each given with the variables that the ones before it leave behind, and then
the farewell, unless it fails: it does so exactly if the input at the end is a line without an
answer. The variables behind a run are those behind the inputs before its end. -/
theorem run_ends (room : Room) (lexicon : Lexicon) (count : Int) (vars : Variables)
    (typed : List Typed) :
    let transcript := run room lexicon count vars typed
    ∃ k responses, (∀ j, IsEnd room lexicon count vars typed j ↔ j = k) ∧
      Performs room lexicon count vars typed k responses transcript ∧
      transcript.prompts = k + 1 ∧
      transcript.output = responses.flatMap Response.lines ++
        if transcript.failure.isNone then [farewell] else [] := by
  intro transcript
  obtain ⟨k, responses, isEnd, performs⟩ := exists_performs room lexicon count vars typed
  exact ⟨k, responses, isEnd, performs, performs.prompts, performs.output⟩

end WordSpace.Shell
