import WordSpace.Proofs.Journal
import WordSpace.Proofs.Lexicon.Ranking
import WordSpace.Proofs.Session.Isolation
import WordSpace.Proofs.Session.UsedWords
import WordSpace.Proofs.Shell.Answers

/-!
Journals of sessions: what was done can be read off what was put on record.

A request makes calls, evaluations and searches (`Sessions.Calls`), and each call puts on record
what came of it (`Sessions.Recorded`): an evaluation one record unless lengths did not fit or there
was no room for it, a search one record if there was something to search and it succeeded, and its
figures add up to the size of the lexicon. At every step of a run a journal that goes by the level
of these records gets the lines of the calls of that step, in the order of the calls, and no others
(`Sessions.performAll_accounted`).
-/

namespace WordSpace

open Expression

/-! ## Names of errors -/

/-- The name that an error goes by where it is put on record. -/
inductive InputError.IsNamed : InputError → String → Prop where
  | strayCharacter (stray : StrayCharacter) :
    IsNamed (.parse (.strayCharacter stray)) "UnexpectedCharacter"
  | emptyInput : IsNamed (.parse .emptyInput) "UnexpectedEnd"
  | unexpectedEnd : IsNamed (.parse .unexpectedEnd) "UnexpectedEnd"
  | unexpectedToken (token : Token) (expected : Option Kind) :
    IsNamed (.parse (.unexpectedToken token expected)) "UnexpectedToken"
  | unknownWord (word : String) : IsNamed (.unknownWord word) "UnknownWord"
  | undefinedVariable (name : String) : IsNamed (.undefinedVariable name) "UndefinedVariable"

theorem InputError.isNamed_label (error : InputError) : error.IsNamed error.label := by
  cases error with
  | parse error => cases error <;> constructor
  | unknownWord word => exact .unknownWord word
  | undefinedVariable name => exact .undefinedVariable name

theorem InputError.IsNamed.isPlain {error : InputError} {name : String}
    (named : error.IsNamed name) : IsPlain name := by
  cases named <;> decide

/-! ## Calls -/

namespace Sessions

/-- Something that a session has done for it. -/
inductive Call where
  /-- An evaluation of a text, where some names stand for variables. -/
  | evaluation (vars : Variables) (text : String)
  /-- An evaluation that breaks off, since there is no room for it. -/
  | brokenOff (vars : Variables) (text : String)
  /-- A search of the lexicon. -/
  | search (query : Embedding) (count : Int) (excluded : List String)

/-- The calls that a session makes to meet a request, in their order. -/
inductive Calls (room : Room) (lexicon : Lexicon) (count : Int) (vars : Variables) :
    Request → List Call → Prop where
  | evaluate {text : String} :
    Calls room lexicon count vars (.evaluate text) [.evaluation vars text]
  | evaluateAndSearch {text : String} {asked : Int} {evaluation : Evaluation}
    (evaluated : (Session.evaluate lexicon vars text).result = .ok evaluation) :
    Calls room lexicon count vars (.evaluateAndSearch text asked)
      [.evaluation vars text, .search evaluation.vector asked evaluation.used]
  | evaluateOnly {text : String} {asked : Int} {error : EvalError}
    (failed : (Session.evaluate lexicon vars text).result = .error error) :
    Calls room lexicon count vars (.evaluateAndSearch text asked) [.evaluation vars text]
  | reserved {line : String} (reserved : Text.trim line ∈ ["", "exit", "quit", "help", "vars"]) :
    Calls room lexicon count vars (.answer line) []
  | expression {line : String} {vector : Embedding} {used : List String}
    (input : Text.trim line ∉ ["", "exit", "quit", "help", "vars"])
    (fits : Shell.HasRoom room lexicon vars (Text.trim line))
    (evaluated : (Session.evaluate lexicon vars (Text.trim line)).result =
      .ok ⟨vector, used, none⟩) :
    Calls room lexicon count vars (.answer line)
      [.evaluation vars (Text.trim line), .search vector count used]
  | otherInput {line : String} (input : Text.trim line ∉ ["", "exit", "quit", "help", "vars"])
    (fits : Shell.HasRoom room lexicon vars (Text.trim line))
    (other : ∀ vector used, (Session.evaluate lexicon vars (Text.trim line)).result ≠
      .ok ⟨vector, used, none⟩) :
    Calls room lexicon count vars (.answer line) [.evaluation vars (Text.trim line)]
  | deepInput {line : String} (input : Text.trim line ∉ ["", "exit", "quit", "help", "vars"])
    (unfit : ¬Shell.HasRoom room lexicon vars (Text.trim line)) :
    Calls room lexicon count vars (.answer line) [.brokenOff vars (Text.trim line)]
  | «recall» {name : String} : Calls room lexicon count vars (.recall name) []
  | look {word : String} : Calls room lexicon count vars (.look word) []
  | search {query : Embedding} {asked : Int} {excluded : List String} :
    Calls room lexicon count vars (.search query asked excluded) [.search query asked excluded]

/-- What a call puts on record. -/
inductive Recorded (lexicon : Lexicon) : Call → List Record → Prop where
  | assignment {vars : Variables} {text name : String} {body : Expr} {evaluation : Evaluation}
    {record : Record} (parsed : Statement.ofText text = .ok (.assignment name body))
    (evaluated : (Session.evaluate lexicon vars text).result = .ok evaluation)
    (reads : record.Reads (operationText "evaluate.assignment" "success"
      [("kind", "'assignment'"), ("used_words", toString evaluation.used.toFinset.card)])) :
    Recorded lexicon (.evaluation vars text) [record]
  | expression {vars : Variables} {text : String} {body : Expr} {evaluation : Evaluation}
    {record : Record} (parsed : Statement.ofText text = .ok (.expression body))
    (evaluated : (Session.evaluate lexicon vars text).result = .ok evaluation)
    (reads : record.Reads (operationText "evaluate.expression" "success"
      [("kind", "'expression'"), ("used_words", toString evaluation.used.toFinset.card)])) :
    Recorded lexicon (.evaluation vars text) [record]
  | wrongInput {vars : Variables} {text name : String} {error : InputError} {record : Record}
    (failed : (Session.evaluate lexicon vars text).result = .error (.input error))
    (named : error.IsNamed name)
    (reads : record.Reads (operationText "evaluate.error" "failed"
      [("kind", "'error'"), ("error", "'" ++ name ++ "'")])) :
    Recorded lexicon (.evaluation vars text) [record]
  | mismatch {vars : Variables} {text : String}
    (failed : (Session.evaluate lexicon vars text).result = .error .lengthMismatch) :
    Recorded lexicon (.evaluation vars text) []
  | brokenOff {vars : Variables} {text : String} : Recorded lexicon (.brokenOff vars text) []
  | found {query : Embedding} {count : Int} {excluded : List String} {found : List Lexicon.Match}
    {left : Nat} {record : Record} (asked : 1 ≤ count) (filled : lexicon.isEmpty = false)
    (succeeded : lexicon.nearest query count excluded = .ok found)
    (whole : (lexicon.words.toFinset ∩ excluded.toFinset).card + left = lexicon.size)
    (returned : (found.length : Int) = min count left)
    (reads : record.Reads (operationText "embeddings.nearest" "success"
      [("top_k", toString count),
        ("excluded", toString (lexicon.words.toFinset ∩ excluded.toFinset).card),
        ("returned", toString found.length), ("candidates", toString left)])) :
    Recorded lexicon (.search query count excluded) [record]
  | idle {query : Embedding} {count : Int} {excluded : List String}
    (idle : count < 1 ∨ lexicon.isEmpty = true) :
    Recorded lexicon (.search query count excluded) []
  | failed {query : Embedding} {count : Int} {excluded : List String}
    {failure : Lexicon.SearchError}
    (failed : lexicon.nearest query count excluded = .error failure) :
    Recorded lexicon (.search query count excluded) []

variable {room : Room} {lexicon : Lexicon}

theorem Recorded.level_eq_debug {call : Call} {records : List Record}
    (recorded : Recorded lexicon call records) : ∀ record ∈ records, record.level = .debug := by
  cases recorded with
  | assignment _ _ reads | expression _ _ reads | wrongInput _ _ reads | found _ _ _ _ _ reads =>
    exact List.forall_mem_singleton.2 reads.level
  | mismatch | brokenOff | idle | failed => exact List.forall_mem_nil _

theorem level_eq_debug_of_recorded {calls : List Call} {parts : List (List Record)}
    (recorded : List.Forall₂ (Recorded lexicon) calls parts) :
    ∀ record ∈ parts.flatten, record.level = .debug := by
  induction recorded with
  | nil => exact List.forall_mem_nil _
  | cons first rest ih =>
    rw [List.flatten_cons, List.forall_mem_append]
    exact ⟨first.level_eq_debug, ih⟩

/-- An evaluation puts itself on record. -/
theorem recorded_evaluation (lexicon : Lexicon) (vars : Variables) (text : String) :
    Recorded lexicon (.evaluation vars text) (Session.evaluate lexicon vars text).records := by
  change Recorded lexicon _ (Session.evaluationRecords (Session.evaluate lexicon vars text).result)
  cases result : (Session.evaluate lexicon vars text).result with
  | error error =>
    cases error with
    | input error =>
      have named := error.isNamed_label
      have reads := Record.reads_evaluation "failed" (.text error.label)
        (by decide : IsPlain "error") (by decide : IsPlain "error") (by decide)
      rw [Detail.render, show Text.quoted error.label = _ from named.isPlain] at reads
      exact .wrongInput result named reads
    | lengthMismatch => exact .mismatch result
  | ok evaluation =>
    obtain ⟨s, parsed, evaluated⟩ := Session.evaluate_result_eq_ok_iff.1 result
    obtain ⟨value, found, rfl⟩ := exists_of_map_eq_ok evaluated
    have distinct : value.used.Nodup := (Scope.used_of_eval found).1
    have reads {kind : String} (plain : IsPlain kind) :=
      Record.reads_evaluation "success" (.integer (.size value.used.length)) plain
        (by decide : IsPlain "used_words") (by decide)
    cases s with
    | assignment name body =>
      refine .assignment parsed result ?_
      rw [List.toFinset_card_of_nodup distinct]
      exact reads (by decide : IsPlain "assignment")
    | expression body =>
      refine .expression parsed result ?_
      rw [List.toFinset_card_of_nodup distinct]
      exact reads (by decide : IsPlain "expression")

/-- The words that are excluded from a search and those that are left make up the lexicon. -/
theorem card_excluded_add_length (lexicon : Lexicon) (excluded : List String) :
    (lexicon.words.toFinset ∩ excluded.toFinset).card +
      (lexicon.words.filter (!excluded.contains ·)).length = lexicon.size := by
  have distinct : (lexicon.words.filter (excluded.contains ·)).Nodup := lexicon.nodup_names.filter _
  have out : lexicon.words.toFinset ∩ excluded.toFinset =
      (lexicon.words.filter (excluded.contains ·)).toFinset := by
    ext word
    simp
  rw [out, List.toFinset_card_of_nodup distinct, ← List.length_eq_length_filter_add]
  exact Catalog.length_names lexicon

/-- A search puts itself on record. -/
theorem recorded_search (lexicon : Lexicon) (vars : Variables) (query : Embedding) (count : Int)
    (excluded : List String) :
    Recorded lexicon (.search query count excluded)
      (Session.search lexicon vars query count excluded).records := by
  have outcome := Lexicon.searched lexicon query count excluded
  change Recorded lexicon _ (Session.searchRecords (lexicon.search query count excluded))
  generalize same : lexicon.search query count excluded = result at outcome
  have nearest : lexicon.nearest query count excluded = Lexicon.Findings.found <$> result :=
    congrArg _ same
  cases outcome with
  | idle idle => exact .idle (idle.imp_left (by omega))
  | misfit | long => exact .failed nearest
  | @found found left busy fits short front others =>
    obtain ⟨least, filled⟩ := not_or.1 busy
    have whole := card_excluded_add_length lexicon excluded
    rw [← others] at whole
    have length := (Lexicon.nearest_isRanking nearest).length_eq
    have out : lexicon.size - left = (lexicon.words.toFinset ∩ excluded.toFinset).card := by omega
    have reads := Record.reads_search short (lexicon.size - left) found.length left
    rw [out] at reads ⊢
    exact .found (by omega) (by simpa using filled) nearest whole (by omega) reads

/-! ## Steps -/

/-- The records behind a request are those of its calls. -/
def IsAccount (room : Room) (lexicon : Lexicon) (seat : Seat) (request : Request)
    (records : List Record) : Prop :=
  ∃ calls parts, Calls room lexicon seat.count seat.vars request calls ∧
    List.Forall₂ (Recorded lexicon) calls parts ∧ records = parts.flatten

/-- An evaluation that is followed by a search puts itself on record before the search. -/
theorem recorded_evaluation_search (lexicon : Lexicon) (vars behind : Variables) (text : String)
    (query : Embedding) (count : Int) (excluded : List String) :
    ∃ parts, List.Forall₂ (Recorded lexicon)
        [.evaluation vars text, .search query count excluded] parts ∧
      (Session.evaluate lexicon vars text).records ++
        (Session.search lexicon behind query count excluded).records = parts.flatten := by
  refine ⟨_, .cons (recorded_evaluation lexicon vars text)
    (.cons (recorded_search lexicon behind query count excluded) .nil), ?_⟩
  rw [List.flatten_cons, List.flatten_singleton]

theorem isAccount_evaluateAndSearch (room : Room) (lexicon : Lexicon) (seat : Seat)
    (text : String) (asked : Int) :
    IsAccount room lexicon seat (.evaluateAndSearch text asked)
      (evaluateAndSearch lexicon seat.vars text asked).records := by
  cases result : (Session.evaluate lexicon seat.vars text).result with
  | error error =>
    refine ⟨_, _, .evaluateOnly result, .cons (recorded_evaluation lexicon _ text) .nil, ?_⟩
    rw [List.flatten_singleton]
    simp only [evaluateAndSearch, result]
  | ok evaluation =>
    obtain ⟨parts, recorded, records⟩ := recorded_evaluation_search lexicon seat.vars
      (Session.evaluate lexicon seat.vars text).vars text evaluation.vector asked evaluation.used
    refine ⟨_, parts, .evaluateAndSearch result, recorded, ?_⟩
    simp only [evaluateAndSearch, result, records]

/-- A line that is not evaluated puts nothing on record. -/
theorem records_answer_of_reserved {count : Int} {vars : Variables} {line : String}
    (reserved : Text.trim line ∈ ["", "exit", "quit", "help", "vars"]) :
    (Shell.answer room lexicon count vars line).records = [] := by
  have command (text : String) : Shell.Command.ofLine line ≠ .input text := fun input =>
    (Shell.Command.ofLine_eq_input_iff.1 input).1 reserved
  unfold Shell.answer
  cases named : Shell.Command.ofLine line with
  | input text => exact absurd named (command text)
  | nothing | exit | help | listVariables => rfl

theorem isAccount_answer (room : Room) (lexicon : Lexicon) (seat : Seat) (line : String) :
    IsAccount room lexicon seat (.answer line)
      (Shell.answer room lexicon seat.count seat.vars line).records := by
  by_cases reserved : Text.trim line ∈ ["", "exit", "quit", "help", "vars"]
  · exact ⟨_, [], .reserved reserved, .nil, records_answer_of_reserved reserved⟩
  have command : Shell.Command.ofLine line = .input (Text.trim line) :=
    Shell.Command.ofLine_eq_input_iff.2 ⟨reserved, rfl⟩
  by_cases fits : Shell.HasRoom room lexicon seat.vars (Text.trim line)
  case neg =>
    rw [Shell.answer_of_not_fits (command ▸ fits)]
    exact ⟨_, [[]], .deepInput reserved fits, .cons .brokenOff .nil, rfl⟩
  rw [Shell.answer_of_fits command fits]
  by_cases shown : ∃ vector used,
      (Session.evaluate lexicon seat.vars (Text.trim line)).result = .ok ⟨vector, used, none⟩
  · obtain ⟨vector, used, result⟩ := shown
    obtain ⟨parts, recorded, records⟩ := recorded_evaluation_search lexicon seat.vars
      (Session.evaluate lexicon seat.vars (Text.trim line)).vars (Text.trim line) vector
      seat.count used
    refine ⟨_, parts, .expression reserved fits result, recorded, ?_⟩
    simp only [Shell.answerInput, result, records]
  · simp only [not_exists] at shown
    refine ⟨_, _, .otherInput reserved fits shown,
      .cons (recorded_evaluation lexicon seat.vars (Text.trim line)) .nil, ?_⟩
    rw [List.flatten_singleton, Shell.answerInput]
    dsimp only
    split
    case h_4 vector used result => exact absurd result (shown vector used)
    all_goals rfl

/-- What a request puts on record is what its calls do. -/
theorem isAccount_perform (room : Room) (lexicon : Lexicon) (seat : Seat) (request : Request) :
    IsAccount room lexicon seat request
      (perform room lexicon seat.count seat.vars request).records := by
  cases request with
  | evaluate text =>
    refine ⟨_, _, .evaluate, .cons (recorded_evaluation lexicon seat.vars text) .nil, ?_⟩
    exact List.flatten_singleton.symm
  | evaluateAndSearch text asked => exact isAccount_evaluateAndSearch room lexicon seat text asked
  | answer line => exact isAccount_answer room lexicon seat line
  | «recall» name => exact ⟨_, [], .recall, .nil, rfl⟩
  | look word => exact ⟨_, [], .look, .nil, rfl⟩
  | search query asked excluded =>
    refine ⟨_, _, .search, .cons (recorded_search lexicon seat.vars query asked excluded) .nil, ?_⟩
    exact List.flatten_singleton.symm

theorem IsAccount.level_eq_debug {seat : Seat} {request : Request} {records : List Record}
    (account : IsAccount room lexicon seat request records) :
    ∀ record ∈ records, record.level = .debug := by
  obtain ⟨calls, parts, -, recorded, rfl⟩ := account
  exact level_eq_debug_of_recorded recorded

/-! ## Runs -/

theorem length_performAll (room : Room) (lexicon : Lexicon) (seats : List Seat)
    (requests : List (Nat × Request)) :
    (performAll room lexicon seats requests).2.length = seats.length := by
  induction requests generalizing seats with
  | nil => rfl
  | cons entry rest ih =>
    obtain ⟨which, request⟩ := entry
    rw [performAll_cons, ih]
    exact length_performAt

/-- Each turn of a run is met by the sessions that the requests before it leave behind. -/
theorem getElem?_performAll (room : Room) (lexicon : Lexicon) (seats : List Seat)
    (requests : List (Nat × Request)) (i : Nat) :
    (performAll room lexicon seats requests).1[i]? = requests[i]?.map fun entry =>
      (performAt room lexicon (performAll room lexicon seats (requests.take i)).2
        entry.1 entry.2).1 := by
  induction requests generalizing seats i with
  | nil => rfl
  | cons entry rest ih =>
    obtain ⟨which, request⟩ := entry
    cases i with
    | zero => rfl
    | succ i =>
      rw [performAll_cons, List.take_succ_cons, performAll_cons, List.getElem?_cons_succ,
        List.getElem?_cons_succ, ih]

/-- At every step of a run, whatever the sessions have come to by then, the records of a request are
those of its calls, and a journal of their level writes each of them on a line of its own. -/
theorem performAll_accounted (room : Room) (lexicon : Lexicon) (seats : List Seat)
    (requests : List (Nat × Request)) {i which : Nat} {request : Request} {journal : Journal}
    (there : which < seats.length) (asked : requests[i]? = some (which, request))
    (chosen : journal.level = .debug) :
    ∃ seat turn, (performAll room lexicon seats (requests.take i)).2[which]? = some seat ∧
      (performAll room lexicon seats requests).1[i]? = some (some turn) ∧
      IsAccount room lexicon seat request turn.records ∧
      journal.writeAll turn.records = String.join (turn.records.map fun record =>
        journal.name ++ " - DEBUG - " ++ record.content.render ++ "\n") := by
  have seated := (length_performAll room lexicon seats (requests.take i)).symm ▸ there
  refine ⟨_, _, List.getElem?_eq_getElem seated, ?_, isAccount_perform room lexicon _ request, ?_⟩
  · rw [getElem?_performAll, asked, Option.map_some,
      performAt_of_getElem? (List.getElem?_eq_getElem seated)]
  · exact Journal.writeAll_of_debug chosen (isAccount_perform room lexicon _ request).level_eq_debug

/-- The first line stores a difference, and the second is answered by words nearest to a sum. -/
theorem performAll_accounted_sum :
    let lexicon : Lexicon :=
      .ofList [("cat", [Float32.ofBits 0x3F800000]), ("dog", [Float32.ofBits 0x40000000])]
    let seats := [Seat.fresh 3]
    let requests := [(0, .answer "x = cat - dog"), (0, .answer "x + cat")]
    let journal := (Journal.untouched "word_math").setUp .debug
    0 < seats.length ∧ requests[1]? = some (0, .answer "x + cat") ∧ journal.level = .debug ∧
      ∃ seat turn, (performAll none lexicon seats (requests.take 1)).2[0]? = some seat ∧
        (performAll none lexicon seats requests).1[1]? = some (some turn) ∧
        IsAccount none lexicon seat (.answer "x + cat") turn.records ∧
        journal.writeAll turn.records = String.join (turn.records.map fun record =>
          journal.name ++ " - DEBUG - " ++ record.content.render ++ "\n") := by
  intro lexicon seats requests journal
  exact ⟨by decide, rfl, rfl,
    performAll_accounted none lexicon seats requests (by decide) rfl rfl⟩

end Sessions

end WordSpace
