import WordSpace.Catalog
import WordSpace.Decimal.Integer
import WordSpace.Journal
import WordSpace.Path
import WordSpace.Text.Uppercase

/-!
Settings: what the environment says about files, limits and the journal.

Settings are read once. A number of nearest words that is no number is refused then; all else that
is wrong is reported as an issue when asked for, and has a fallback until then.
-/

namespace WordSpace

/-- The variables of an environment. -/
abbrev Environment := Catalog String

/-- What is set, each as it was written, except for the number of nearest words. -/
structure Settings where
  homes : Path.Homes
  dataDirectory : String
  lexiconFile : String
  count : Int
  limitText : Option String
  /-- The name of a level, in upper case. -/
  levelName : String
  debug : Bool

/-- Why settings cannot be read. -/
inductive SettingsError where
  | home (error : Path.HomeUnknown)
  | count (error : Decimal.IntegerError)
  deriving DecidableEq, Repr

/-- The text shown for settings that cannot be read. -/
def SettingsError.message : SettingsError → String
  | home error => error.message
  | count error => error.message

namespace Settings

/-- The name of the file of a lexicon. -/
def lexiconFileName : String := "glove.6B.300d.txt"

/-- The address that a lexicon can be fetched from. -/
def lexiconAddress : String := "https://nlp.stanford.edu/data/glove.6B.zip"

/-- The directory for data that is meant unless another one is set. -/
def defaultDataDirectory (homes : Path.Homes) : Except Path.HomeUnknown String :=
  (fun path => (path.child ".word-math").text) <$> (Path.ofText "~").expand homes

/-- Reads the settings of an environment, on a system with some accounts. A home directory of the
user is needed even where it is not used. -/
def ofEnvironment (accounts : Path.Homes) (environment : Environment) :
    Except SettingsError Settings := do
  let homes := accounts.override (environment.get? "HOME")
  let defaultDirectory ← (defaultDataDirectory homes).mapError .home
  let dataDirectory := (environment.get? "WORD_MATH_DATA_DIR").getD defaultDirectory
  let count ← (Decimal.integer ((environment.get? "WORD_MATH_TOP_K").getD "5")).mapError .count
  return {
    homes := homes
    dataDirectory := dataDirectory
    lexiconFile := (environment.get? "WORD_MATH_EMBEDDINGS").getD
      ((Path.ofText dataDirectory).child lexiconFileName).text
    count := count
    limitText := environment.get? "WORD_MATH_MAX_WORDS"
    levelName := Text.upper ((environment.get? "WORD_MATH_LOG_LEVEL").getD "WARNING")
    debug := ((environment.get? "DEBUG").getD "false").toLower == "true" }

/-! ## Places -/

/-- The directory for data. -/
def dataPath (settings : Settings) : Except Path.HomeUnknown Path :=
  (Path.ofText settings.dataDirectory).expand settings.homes

/-- The file of the lexicon. -/
def lexiconPath (settings : Settings) : Except Path.HomeUnknown Path :=
  (Path.ofText settings.lexiconFile).expand settings.homes

/-- What to do where there is no lexicon at a path. -/
def instructions (path : Path) : String :=
  "\nEmbeddings not found. Please download GloVe embeddings:\n\n" ++
  "1. Download from: " ++ lexiconAddress ++ "\n" ++
  "2. Extract " ++ path.name ++ "\n" ++
  "3. Move to: " ++ path.text ++ "\n\n" ++
  "Or run: curl -L " ++ lexiconAddress ++ " -o /tmp/glove.zip && \\\n" ++
  "         unzip /tmp/glove.zip " ++ path.name ++ " -d " ++ path.parent.text ++ "\n"

/-! ## Limits and levels -/

/-- The most lines to load, if there is a limit: what is empty sets none. -/
def limit (settings : Settings) : Except Decimal.IntegerError (Option Int) :=
  match settings.limitText with
  | none => .ok none
  | some text => if text = "" then .ok none else some <$> Decimal.integer text

/-- The names of the levels that can be set. -/
def levelNames : List String := ["DEBUG", "INFO", "WARNING", "ERROR", "CRITICAL"]

/-- The name of the level of the journal: debugging comes first, and what is no level is a
warning. -/
def journalLevelName (settings : Settings) : String :=
  if settings.debug then "DEBUG"
  else if levelNames.contains settings.levelName then settings.levelName
  else "WARNING"

/-- Sets up a journal with the level of a name, or else with the level that is set. -/
def setUpJournal (settings : Settings) (journal : Journal) (name : Option String) :
    Except UnknownLevel Journal :=
  journal.setUpNamed (name.getD settings.journalLevelName)

/-- The issue with what is written for the limit, if there is one. -/
def limitIssue? (settings : Settings) : Option String :=
  match settings.limitText.filter (· ≠ "") with
  | none => none
  | some text =>
    match Decimal.integer text with
    | .ok n => if n < 1 then some "WORD_MATH_MAX_WORDS must be >= 1" else none
    | .error _ => some ("Invalid WORD_MATH_MAX_WORDS: " ++ text)

/-- The issues with the settings. -/
def issues (settings : Settings) : List String :=
  (if settings.count < 1 then ["WORD_MATH_TOP_K must be >= 1"] else []) ++
  settings.limitIssue?.toList ++
  (if levelNames.contains settings.levelName then []
    else ["Invalid WORD_MATH_LOG_LEVEL: " ++ settings.levelName])

end Settings

end WordSpace
