import WordSpace.Arguments
import WordSpace.FileTree
import WordSpace.Lexicon.Load
import WordSpace.Settings
import WordSpace.Shell

/-!
Launching: from arguments and settings to a run of the shell over a lexicon.

Wrong arguments come first, then issues with the settings. Only then is the directory for data
made, and only if the arguments say nothing about the file. A number of nearest words below one, a
missing file, and a file that cannot be read or is not UTF-8 end the launch without a session; in
all other cases the shell runs on the lines of the input. An option that is given and has no value
makes the launch fail where its value is needed.
-/

namespace WordSpace

open Expression (Room)

namespace Launch

/-- The name of the journal of a launch. -/
def journalName : String := "word_math"

/-! ## What is asked for -/

/-- The directory to make: the one for data, if the arguments say nothing about the file. -/
def directoryToMake? (settings : Settings) (arguments : Arguments) :
    Except Path.HomeUnknown (Option Path) :=
  match arguments.lexicon with
  | .absent => some <$> settings.dataPath
  | _ => .ok none

/-- The file to look for: the one that the arguments name, or else the one that is set. -/
def lexiconPath (settings : Settings) (arguments : Arguments) : Except Path.HomeUnknown Path :=
  match arguments.lexicon with
  | .given path => .ok path
  | _ => settings.lexiconPath

/-- The number of nearest words to show. -/
def count (settings : Settings) (arguments : Arguments) : Except MissingValue Int :=
  match arguments.count with
  | .absent => .ok settings.count
  | .void => .error .count
  | .given n => .ok n

/-- The most lines to load, if there is a limit. A limit in the settings that is no number has been
reported as an issue before it would count. -/
def limit (settings : Settings) (arguments : Arguments) : Except MissingValue (Option Int) :=
  match arguments.limit with
  | .absent => .ok settings.limit.toOption.join
  | .void => .error .limit
  | .given n => .ok (some n)

/-! ## Loading -/

/-- What a launch begins with if nothing stands in its way: the file of the lexicon with what
opening it gives, the number of nearest words for the shell, and the limit for loading. -/
structure Start where
  path : Path
  content : Except MissingValue FileTree.Content
  count : Int
  limit : Except MissingValue (Option Int)

/-- What a launch begins with once its file has been found. The file is not opened if the arguments
give the option for it without a value. -/
def Start.ofContent (settings : Settings) (arguments : Arguments) (count : Int) (path : Path)
    (content : FileTree.Content) : Start where
  path := path
  content := if arguments.lexicon = .void then .error .lexicon else .ok content
  count := count
  limit := Launch.limit settings arguments

/-- Why a file cannot be read. -/
inductive ReadError where
  /-- The system refuses, for some reason. -/
  | system (reason : String)
  | encoding (error : Text.Utf8Error)
  deriving DecidableEq, Repr

/-- The text shown for a file that cannot be read. -/
def ReadError.message : ReadError → String
  | system reason => reason
  | encoding error => error.message

/-- Why there is no lexicon to start with. -/
inductive LoadError where
  | read (error : ReadError)
  | missing (value : MissingValue)
  deriving DecidableEq, Repr

/-- The lexicon that a launch begins with. A limit without a value is missed at the first line to
load. -/
def load (start : Start) : Except LoadError Lexicon := do
  match ← start.content.mapError .missing with
  | .unreadable reason => .error (.read (.system reason))
  | .bytes bytes =>
    let source ← (Lexicon.Source.ofBytes bytes).mapError (.read ∘ .encoding)
    match start.limit with
    | .ok limit => (Lexicon.ofSource limit source).mapError (.read ∘ .encoding)
    | .error value =>
      if source.hasLine then .error (.missing value)
      else (Lexicon.ofSource none source).mapError (.read ∘ .encoding)

/-! ## What is shown -/

/-- The lines for issues with the settings. -/
def issueText (issues : List String) : String :=
  String.join (issues.map fun issue => "ERROR: " ++ issue ++ "\n")

/-- The line for a number of nearest words below one. -/
def countText : String := "ERROR: --top-k must be >= 1\n"

/-- The lines for a file that is missing. -/
def missingText (path : Path) : String := Settings.instructions path ++ "\n"

/-- The line before a lexicon is loaded. -/
def loadingText : String := "Loading embeddings...\n"

/-- The lines behind a lexicon that was loaded. -/
def loadedText (lexicon : Lexicon) : String :=
  "Loaded " ++ Decimal.grouped lexicon.size ++ " words\nType \"help\" for commands.\n\n"

/-- The line for a lexicon that cannot be read. -/
def unreadableText (path : Path) (error : ReadError) : String :=
  "ERROR: Could not read " ++ path.text ++ ": " ++ error.message ++ "\n"

/-- The record of a lexicon that cannot be read. -/
def unreadableRecord (path : Path) (error : ReadError) : Record :=
  ⟨.error, .message ("Failed to read embeddings from " ++ path.text ++ ": " ++ error.message)⟩

/-! ## The way to a start -/

/-- Something that ends a launch without a code. -/
inductive Failure where
  | home (error : Path.HomeUnknown)
  | directory (error : FileTree.MakeError)
  | file (error : FileTree.NameTooLong)
  | missing (value : MissingValue)
  | shell (error : Shell.Failure)
  deriving DecidableEq, Repr

/-- How a launch ends. -/
inductive Ending where
  | code (value : Nat)
  | usage (error : UsageError)
  | failure (failure : Failure)
  deriving DecidableEq, Repr

/-- Why a launch does not come to loading a lexicon. -/
inductive Stop where
  | help
  | usage (error : UsageError)
  | issues (issues : List String)
  | count
  | missing (path : Path)
  | failure (failure : Failure)
  deriving DecidableEq, Repr

namespace Stop

/-- What is shown by a launch that does not come to loading. -/
def text : Stop → String
  | help => Arguments.helpText
  | usage _ => ""
  | issues found => issueText found
  | count => countText
  | missing path => missingText path
  | failure _ => ""

/-- How a launch ends that does not come to loading. -/
def ending : Stop → Ending
  | help => .code 0
  | usage error => .usage error
  | issues _ => .code 1
  | count => .code 1
  | missing _ => .code 1
  | failure cause => .failure cause

end Stop

/-- Sees to the places that are set, if the arguments say nothing about the file: makes the
directory for data, and makes sure that the home directory is known if the file is below it. -/
def prepare (settings : Settings) (arguments : Arguments) (tree : FileTree) :
    Except Failure Unit × FileTree :=
  match directoryToMake? settings arguments with
  | .error error => (.error (.home error), tree)
  | .ok none => (.ok (), tree)
  | .ok (some path) =>
    match tree.make path with
    | (.error error, made) => (.error (.directory error), made)
    | (.ok (), made) => (((fun _ => ()) <$> settings.lexiconPath).mapError .home, made)

/-- Checks the number of nearest words, and looks for the file of the lexicon if it is at least
one. -/
def seek (settings : Settings) (arguments : Arguments) (tree : FileTree) : Except Stop Start := do
  let count ← (count settings arguments).mapError (.failure ∘ .missing)
  if count < 1 then .error .count
  else
    let path ← (lexiconPath settings arguments).mapError (.failure ∘ .home)
    match ← (tree.content? path).mapError (.failure ∘ .file) with
    | none => .error (.missing path)
    | some content => return .ofContent settings arguments count path content

/-- What a launch on arguments, settings and files begins with, if it comes to that, and the files
then. -/
def start (settings : Settings) (given : List String) (tree : FileTree) :
    Except Stop Start × FileTree :=
  match Arguments.parse given with
  | .error .help => (.error .help, tree)
  | .error (.usage error) => (.error (.usage error), tree)
  | .ok arguments =>
    if settings.issues ≠ [] then (.error (.issues settings.issues), tree)
    else match prepare settings arguments tree with
      | (.error failure, prepared) => (.error (.failure failure), prepared)
      | (.ok (), prepared) => (seek settings arguments prepared, prepared)

/-! ## The launch -/

/-- A launch: what it showed, how it ended, what it put on record, what it left unread of the input,
and the files behind it. -/
structure Outcome where
  shown : String
  ending : Ending
  records : List Record
  unread : List Shell.Typed
  tree : FileTree

/-- The times at which loading began and ended, in seconds. -/
structure Clock where
  started : Float
  stopped : Float

/-- The record of a lexicon that was loaded. -/
def loadedRecord (path : Path) (lexicon : Lexicon) (clock : Clock) : Record :=
  .load path.text (.size lexicon.size) (.size lexicon.dimension) clock.started clock.stopped
    "success"

/-- Loads the lexicon and runs the shell over it. -/
def session (room : Room) (start : Start) (clock : Clock) (typed : List Shell.Typed)
    (tree : FileTree) : Outcome :=
  match load start with
  | .error (.missing value) => ⟨loadingText, .failure (.missing value), [], typed, tree⟩
  | .error (.read error) =>
    ⟨loadingText ++ unreadableText start.path error, .code 1, [unreadableRecord start.path error],
      typed, tree⟩
  | .ok lexicon =>
    let run := Shell.run room lexicon start.count .empty typed
    let loaded := loadedRecord start.path lexicon clock
    ⟨loadingText ++ loadedText lexicon ++ run.text Shell.defaultPrompt,
      match run.failure with
      | none => .code 0
      | some error => .failure (.shell error),
      loaded :: run.records, run.unread, tree⟩

/-- Launches on arguments, settings, files and input. -/
def run (room : Room) (settings : Settings) (given : List String) (clock : Clock)
    (typed : List Shell.Typed) (tree : FileTree) : Outcome :=
  match start settings given tree with
  | (.error stop, tree) => ⟨stop.text, stop.ending, [], typed, tree⟩
  | (.ok start, tree) => session room start clock typed tree

/-- The lines that a text has for the shell. A line feed ends a line and nothing else does; the last
line need not be ended, but an empty one is none. -/
def typedLines (input : String) : List Shell.Typed :=
  let parts := Text.splitOn '\n' input.toList
  let lines := if parts.getLast? = some [] then parts.dropLast else parts
  lines.map fun line => .line (String.ofList line)

end Launch

end WordSpace
