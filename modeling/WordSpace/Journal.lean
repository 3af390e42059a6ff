import WordSpace.Catalog
import WordSpace.Decimal.Integer
import WordSpace.Decimal.Shortest
import WordSpace.Text.Quoted

/-!
Journals: what is put on record, how urgent it is, and how a record is written.

A record is a message, or an account of an operation with its status and details. A journal has a
name and a level, and writes the records that are at least as urgent as its level, each on a line
of its own.
-/

namespace WordSpace

/-! ## Levels -/

/-- How urgent a record is, as a number. -/
structure Level where
  rank : Int
  deriving DecidableEq, Repr

namespace Level

/-- The program cannot go on. -/
def critical : Level := ⟨50⟩

/-- Something could not be done. -/
def error : Level := ⟨40⟩

/-- Something is not as it should be. -/
def warning : Level := ⟨30⟩

/-- What was done. -/
def info : Level := ⟨20⟩

/-- What was done, step by step. -/
def debug : Level := ⟨10⟩

/-- The level of a journal that has not chosen one. -/
def unset : Level := ⟨0⟩

/-- The names that a level can be chosen by. -/
def named : List (String × Level) :=
  [("CRITICAL", critical), ("FATAL", critical), ("ERROR", error), ("WARN", warning),
    ("WARNING", warning), ("INFO", info), ("DEBUG", debug), ("NOTSET", unset)]

/-- The level of a name. -/
def ofName? (name : String) : Option Level := named.lookup name

/-- The name of a level; a level without one is named by its number. -/
def name (level : Level) : String :=
  if level = critical then "CRITICAL"
  else if level = error then "ERROR"
  else if level = warning then "WARNING"
  else if level = info then "INFO"
  else if level = debug then "DEBUG"
  else if level = unset then "NOTSET"
  else "Level " ++ toString level.rank

end Level

/-- A level is asked for by a name that none has. -/
structure UnknownLevel where
  name : String
  deriving DecidableEq, Repr

/-- The text shown for a name that no level has. -/
def UnknownLevel.message (unknown : UnknownLevel) : String :=
  "Unknown level: " ++ Text.quoted unknown.name

/-! ## Records -/

/-- A detail of a record. -/
inductive Detail where
  | text (value : String)
  | integer (value : Decimal.Figure)
  | truth (value : Bool)
  | number (value : Float)
  | absent

/-- A detail as it is written. -/
def Detail.render : Detail → String
  | text value => Text.quoted value
  | integer value => value.text
  | truth true => "True"
  | truth false => "False"
  | number value => Decimal.shortest value
  | absent => "None"

/-- The details of a record, as they are written. -/
def renderDetails (details : Catalog Detail) : String :=
  let entries := details.entries.map fun entry => Text.quoted entry.1 ++ ": " ++ entry.2.render
  "\x7b" ++ String.intercalate ", " entries ++ "\x7d"

/-- What a record says. -/
inductive Content where
  | message (text : String)
  | operation (name status : String) (details : Catalog Detail)

/-- What a record says, as it is written. Details are written if there are any. -/
def Content.render : Content → String
  | message text => text
  | operation name status details =>
    "Operation: " ++ name ++ ", Status: " ++ status ++
      if details.isEmpty then "" else ", Details: " ++ renderDetails details

/-- Something put on record. -/
structure Record where
  level : Level
  content : Content

namespace Record

/-- The record of an operation. -/
def operation (name status : String) (details : Catalog Detail) (level : Level) : Record :=
  ⟨level, .operation name status details⟩

/-- The record of a lexicon that was loaded between two times, given in seconds. Its duration is in
milliseconds, to two places. -/
def load (origin : String) (words dimension : Decimal.Figure) (start stop : Float)
    (status : String) : Record :=
  .operation "embeddings.load" status
    (.ofList
      [("source", .text origin), ("word_count", .integer words), ("dimension", .integer dimension),
        ("duration_ms", .number (Decimal.roundPlaces 2 ((stop - start) * 1000)))])
    .info

/-- The record of an evaluation of some kind. Further details may say the kind anew. -/
def evaluation (kind status : String) (details : List (String × Detail)) : Record :=
  .operation ("evaluate." ++ kind) status
    ((Catalog.ofList [("kind", .text kind)]).insertAll details) .debug

/-- The record of a search: the number of words asked for, excluded, found and searched. -/
def search (asked excluded returned candidates : Decimal.Figure) : Record :=
  .operation "embeddings.nearest" "success"
    (.ofList
      [("top_k", .integer asked), ("excluded", .integer excluded), ("returned", .integer returned),
        ("candidates", .integer candidates)])
    .debug

end Record

/-! ## Journals -/

/-- A journal: its name, its level, and how many outlets it writes to. -/
structure Journal where
  name : String
  level : Level
  outlets : Nat

namespace Journal

/-- The name of the journal above all others, which goes by the empty name too. -/
def rootName : String := "root"

/-- Whether a journal is the one above all others. -/
def isRoot (journal : Journal) : Bool := journal.name == rootName

/-- A journal that nobody has set up yet. The root journal has a level from the beginning. -/
def untouched (name : String) : Journal :=
  if name = "" ∨ name = rootName then ⟨rootName, .warning, 0⟩ else ⟨name, .unset, 0⟩

/-- Sets up a journal: gives it a level, and an outlet if it has none. -/
def setUp (journal : Journal) (level : Level) : Journal :=
  { journal with level := level, outlets := max journal.outlets 1 }

/-- Sets up a journal with the level of a name. -/
def setUpNamed (journal : Journal) (name : String) : Except UnknownLevel Journal :=
  match Level.ofName? name with
  | some level => .ok (journal.setUp level)
  | none => .error ⟨name⟩

/-- The level that counts: a journal that has not chosen one goes by that of the root journal. -/
def effectiveLevel (journal : Journal) : Level :=
  if journal.level = .unset ∧ !journal.isRoot then .warning else journal.level

/-- Whether a journal writes records of a level. -/
def admits (journal : Journal) (level : Level) : Bool :=
  0 < level.rank && journal.effectiveLevel.rank ≤ level.rank

/-- The line of a record: the journal, the level and what the record says. -/
def line (journal : Journal) (record : Record) : String :=
  journal.name ++ " - " ++ record.level.name ++ " - " ++ record.content.render ++ "\n"

/-- What a journal writes for a record. -/
def write (journal : Journal) (record : Record) : String :=
  if journal.admits record.level then journal.line record else ""

/-- What a journal writes for several records. -/
def writeAll (journal : Journal) (records : List Record) : String :=
  String.join (records.map journal.write)

end Journal

end WordSpace
