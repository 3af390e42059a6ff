import WordSpace.Decimal.Fixed
import WordSpace.Session

/-!
The shell: commands and expressions, line by line, until an end.

A line without its surrounding blanks is empty, one of the reserved commands, or input to evaluate.
An expression is answered by the words nearest to it, without the words it was made from. Wrong
input is answered by its error. There is no answer, and the shell ends, where lengths do not fit,
where the number of nearest words is too long to be written, and where a line nests deeper than
there is room for.
-/

namespace WordSpace.Shell

open Expression (Room)

/-- The number of nearest words to show, unless another number is asked for. -/
def defaultCount : Int := 5

/-- The prompt, unless another one is asked for. -/
def defaultPrompt : String := "> "

/-! ## One line -/

/-- The answer to a line: lines to print, and whether the shell ends. -/
structure Response where
  lines : List String
  exit : Bool
  deriving DecidableEq, Repr

/-- The commands of the shell, and all that is not one of them. -/
inductive Command where
  | nothing
  | exit
  | help
  | listVariables
  | input (text : String)
  deriving DecidableEq, Repr

/-- The command of a line. -/
def Command.ofLine (line : String) : Command :=
  let text := Text.trim line
  if text = "" then .nothing
  else if text = "exit" ∨ text = "quit" then .exit
  else if text = "help" then .help
  else if text = "vars" then .listVariables
  else .input text

/-- Why a line has no answer. -/
inductive Failure where
  | lengthMismatch
  | tooManyDigits
  | stackExhausted
  deriving DecidableEq, Repr

/-- A failed search, as a line without an answer. -/
def Failure.ofSearch : Lexicon.SearchError → Failure
  | .lengthMismatch => .lengthMismatch
  | .tooManyDigits => .tooManyDigits

/-- A number that is too long to be written, as a line without an answer. -/
def Failure.ofDigits : Decimal.TooManyDigits → Failure
  | .tooManyDigits => .tooManyDigits

/-- The text of the help command. -/
def helpText (count : Decimal.Figure) : String :=
  "\nword-math - Vector arithmetic on word embeddings\n\nCommands:\n" ++
  "  <expr>           Evaluate expression, show top " ++ count.text ++ " nearest words\n" ++
  "  name = <expr>    Store result in variable\n" ++
  "  vars             List defined variables\n" ++
  "  help             Show this help\n" ++
  "  exit             Quit\n\nExamples:\n" ++
  "  king - man + woman\n  royalty = king - man\n  royalty + cat\n"

/-- The list of variables. -/
def variableLines (vars : Variables) : List String :=
  if vars.isEmpty then ["  No variables defined"]
  else vars.names.map fun name => "  " ++ name ++ "    <vector>"

/-- A text filled up with spaces behind it. -/
def padRight (width : Nat) (text : String) : String :=
  text ++ String.ofList (List.replicate (width - text.length) ' ')

/-- The line for a nearest word: similarities have three places. -/
def matchLine (found : Lexicon.Match) : String :=
  "  " ++ padRight 15 found.word ++ " " ++ Decimal.fixed 3 found.similarity.toModel.unpack

/-- Answers input. -/
def answerInput (lexicon : Lexicon) (count : Int) (vars : Variables) (text : String) :
    Step Failure Response :=
  let evaluated := Session.evaluate lexicon vars text
  match evaluated.result with
  | .error .lengthMismatch => ⟨.error .lengthMismatch, evaluated.vars, evaluated.records⟩
  | .error (.input error) =>
    ⟨.ok ⟨["  Error: " ++ error.message], false⟩, evaluated.vars, evaluated.records⟩
  | .ok ⟨_, _, some name⟩ =>
    ⟨.ok ⟨["  [stored as '" ++ name ++ "']"], false⟩, evaluated.vars, evaluated.records⟩
  | .ok ⟨vector, used, none⟩ =>
    let searched := Session.search lexicon evaluated.vars vector count used
    ⟨(fun found => ⟨found.map matchLine, false⟩) <$> searched.result.mapError .ofSearch,
      searched.vars, evaluated.records ++ searched.records⟩

/-- There is room for an input that is evaluated. -/
def HasRoom (room : Room) (lexicon : Lexicon) (vars : Variables) (text : String) : Prop :=
  ∀ limit ∈ room, Scope.nesting ⟨lexicon, vars⟩ text ≤ limit

instance (room : Room) (lexicon : Lexicon) (vars : Variables) (text : String) :
    Decidable (HasRoom room lexicon vars text) :=
  inferInstanceAs (Decidable (∀ limit ∈ room, _))

/-- Answers a line. -/
def answer (room : Room) (lexicon : Lexicon) (count : Int) (vars : Variables) (line : String) :
    Step Failure Response :=
  match Command.ofLine line with
  | .nothing => ⟨.ok ⟨[], false⟩, vars, []⟩
  | .exit => ⟨.ok ⟨[], true⟩, vars, []⟩
  | .help =>
    ⟨(fun figure => ⟨[helpText figure], false⟩) <$>
      (Decimal.Figure.ofInt count).mapError .ofDigits, vars, []⟩
  | .listVariables => ⟨.ok ⟨variableLines vars, false⟩, vars, []⟩
  | .input text =>
    if HasRoom room lexicon vars text then answerInput lexicon count vars text
    else ⟨.error .stackExhausted, vars, []⟩

/-! ## The loop -/

/-- What is typed at a prompt: a line, or an interrupt. -/
inductive Typed where
  | line (text : String)
  | interrupt
  deriving DecidableEq, Repr

/-- What the shell shows: a prompt, or a line of output. -/
inductive Shown where
  | prompt
  | line (text : String)
  deriving DecidableEq, Repr

/-- The line of output that is shown, if it is one. -/
def Shown.line? : Shown → Option String
  | .prompt => none
  | .line text => some text

/-- The line with which the shell takes its leave. -/
def farewell : String := "\nGoodbye!"

/-- A run of the shell: what it showed, what it left unread, whether it failed, and its variables
and records. -/
structure Transcript where
  shown : List Shown
  unread : List Typed
  failure : Option Failure
  vars : Variables
  records : List Record

namespace Transcript

/-- A run that ends at a prompt with the farewell. -/
def ended (unread : List Typed) (vars : Variables) : Transcript :=
  ⟨[.prompt, .line farewell], unread, none, vars, []⟩

/-- What is left of a run behind its last answer: the farewell. -/
def leave (unread : List Typed) (vars : Variables) : Transcript :=
  ⟨[.line farewell], unread, none, vars, []⟩

/-- Puts a prompt, the answer to it and its records before a run. -/
def after (lines : List String) (records : List Record) (run : Transcript) : Transcript :=
  { run with
    shown := .prompt :: lines.map .line ++ run.shown
    records := records ++ run.records }

section

variable (lines : List String) (records : List Record) (run : Transcript)

@[simp] theorem shown_after :
    (run.after lines records).shown = .prompt :: lines.map .line ++ run.shown := rfl

@[simp] theorem unread_after : (run.after lines records).unread = run.unread := rfl

@[simp] theorem failure_after : (run.after lines records).failure = run.failure := rfl

@[simp] theorem vars_after : (run.after lines records).vars = run.vars := rfl

end

/-- An end without an answer is one at the prompt. -/
@[simp] theorem after_leave (unread : List Typed) (vars : Variables) :
    (leave unread vars).after [] [] = .ended unread vars := rfl

/-- The lines of output. -/
def output (run : Transcript) : List String := run.shown.filterMap Shown.line?

/-- The number of prompts. -/
def prompts (run : Transcript) : Nat := run.shown.countP (· == .prompt)

/-- All that was shown, as one text: each line of output is ended, a prompt is not. -/
def text (prompt : String) (run : Transcript) : String :=
  String.join (run.shown.map fun
    | .prompt => prompt
    | .line text => text ++ "\n")

end Transcript

/-- Runs the shell until an exit command, an interrupt, the end of the input or a failure. -/
def run (room : Room) (lexicon : Lexicon) (count : Int) (vars : Variables) :
    List Typed → Transcript
  | [] => .ended [] vars
  | .interrupt :: rest => .ended rest vars
  | .line text :: rest =>
    let step := answer room lexicon count vars text
    match step.result with
    | .error failure => ⟨[.prompt], rest, some failure, step.vars, step.records⟩
    | .ok response =>
      if response.exit then (Transcript.leave rest step.vars).after response.lines step.records
      else (run room lexicon count step.vars rest).after response.lines step.records

end WordSpace.Shell
