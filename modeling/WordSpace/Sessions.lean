import WordSpace.Shell

/-!
Sessions side by side: several sessions over one lexicon.

Each session has its own variables and its own number of nearest words; the lexicon belongs to all
of them and never changes. A request goes to one session, and only that session's variables can
change by it.
-/

namespace WordSpace.Sessions

open Expression (Room)

/-! ## Requests and replies -/

/-- What can be asked of a session. -/
inductive Request where
  /-- Evaluate a line of input. -/
  | evaluate (text : String)
  /-- Evaluate a line of input, then search for the words nearest to its value. -/
  | evaluateAndSearch (text : String) (count : Int)
  /-- Answer a line as the shell does. -/
  | answer (line : String)
  /-- Give the value of a variable. -/
  | recall (name : String)
  /-- Give the embedding of a word. -/
  | look (word : String)
  /-- Search for the words nearest to a query. -/
  | search (query : Embedding) (count : Int) (excluded : List String)

/-- What a session gives back. -/
inductive Reply where
  | evaluated (result : Except EvalError Evaluation)
  | evaluatedAndFound
    (result : Except EvalError (Evaluation × Except Lexicon.SearchError (List Lexicon.Match)))
  | answered (result : Except Shell.Failure Shell.Response)
  | recalled (value : Option Embedding)
  | looked (value : Option Embedding)
  | found (result : Except Lexicon.SearchError (List Lexicon.Match))

/-- A request that was met: its reply, the variables behind it, and what it put on record. -/
structure Turn where
  reply : Reply
  vars : Variables
  records : List Record

namespace Turn

/-- The turn of a step, with its result as a reply. -/
def ofStep {ε α : Type} (reply : Except ε α → Reply) (step : Step ε α) : Turn :=
  ⟨reply step.result, step.vars, step.records⟩

end Turn

/-- Evaluates a line of input, then searches for the words nearest to its value, without those it
was made from. An assignment stays when the search fails. -/
def evaluateAndSearch (lexicon : Lexicon) (vars : Variables) (text : String) (count : Int) :
    Step EvalError (Evaluation × Except Lexicon.SearchError (List Lexicon.Match)) :=
  let evaluated := Session.evaluate lexicon vars text
  match evaluated.result with
  | .error error => ⟨.error error, evaluated.vars, evaluated.records⟩
  | .ok evaluation =>
    let searched :=
      Session.search lexicon evaluated.vars evaluation.vector count evaluation.used
    ⟨.ok (evaluation, searched.result), searched.vars, evaluated.records ++ searched.records⟩

/-- Meets a request, for a session with some variables and number of nearest words. -/
def perform (room : Room) (lexicon : Lexicon) (count : Int) (vars : Variables) : Request → Turn
  | .evaluate text => .ofStep .evaluated (Session.evaluate lexicon vars text)
  | .evaluateAndSearch text count =>
    .ofStep .evaluatedAndFound (evaluateAndSearch lexicon vars text count)
  | .answer line => .ofStep .answered (Shell.answer room lexicon count vars line)
  | .recall name => ⟨.recalled (vars.get? name), vars, []⟩
  | .look word => ⟨.looked (lexicon.get? word), vars, []⟩
  | .search query count excluded =>
    .ofStep .found (Session.search lexicon vars query count excluded)

/-! ## Many sessions -/

/-- A session: its number of nearest words and its variables. -/
structure Seat where
  count : Int
  vars : Variables

/-- A session at its beginning. -/
def Seat.fresh (count : Int) : Seat := ⟨count, .empty⟩

/-- Meets a request to one of many sessions. There is no turn of a session that is not there. -/
def performAt (room : Room) (lexicon : Lexicon) (seats : List Seat) (which : Nat)
    (request : Request) : Option Turn × List Seat :=
  match seats[which]? with
  | none => (none, seats)
  | some seat =>
    let turn := perform room lexicon seat.count seat.vars request
    (some turn, seats.set which { seat with vars := turn.vars })

/-- Meets requests to many sessions one after the other, and gives their turns. -/
def performAll (room : Room) (lexicon : Lexicon) (seats : List Seat) :
    List (Nat × Request) → List (Option Turn) × List Seat
  | [] => ([], seats)
  | (which, request) :: rest =>
    let (turn, next) := performAt room lexicon seats which request
    let (turns, last) := performAll room lexicon next rest
    (turn :: turns, last)

end WordSpace.Sessions
