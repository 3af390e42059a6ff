import WordSpace.Launch

/-!
The command line: a launch over the files, the environment and the terminal of a process.

All decisions are those of `Launch`; this module reads and writes. Unlike a launch over a given
input, the shell here answers each line before it reads the next.
-/

namespace WordSpace.Main

/-- The names of the variables that settings are read from. -/
def environmentNames : List String :=
  ["HOME", "WORD_MATH_DATA_DIR", "WORD_MATH_EMBEDDINGS", "WORD_MATH_TOP_K", "WORD_MATH_MAX_WORDS",
    "WORD_MATH_LOG_LEVEL", "DEBUG"]

/-- The variables of the environment of the process that settings are read from. -/
def environment : IO Environment := do
  let mut found : Environment := .empty
  for name in environmentNames do
    if let some value ← IO.getEnv name then
      found := found.insert name value
  return found

/-- The lines of a file of the system, none if there is no such file. -/
def systemLines (file : String) : IO (List String) := do
  try return (← IO.FS.lines file).toList
  catch _ => return []

/-- The home directories that the accounts of the system have, and that of the user of the
process. -/
def accounts : IO Path.Homes := do
  let listed := (← systemLines "/etc/passwd").map fun line =>
    (Text.splitOn ':' line.toList).map String.ofList
  let user := (← systemLines "/proc/self/status").findSome? fun line =>
    match (Text.splitOn '\t' line.toList).map String.ofList with
    | "Uid:" :: user :: _ => some user
    | _ => none
  let home (field : Nat) (value : String) : Option String :=
    (listed.find? fun account => account[field]? = some value).bind (·[5]?)
  return ⟨user.bind (home 2), home 0⟩

/-- Shows a text at once. -/
def display (text : String) : IO Unit := do
  let out ← IO.getStdout
  out.putStr text
  out.flush

/-- Writes records to the standard error stream. -/
def putOnRecord (journal : Journal) (records : List Record) : IO Unit := do
  (← IO.getStderr).putStr (journal.writeAll records)

/-- The time, in seconds from some moment on. -/
def seconds : IO Float := return (← IO.monoMsNow).toFloat / 1000

/-- The shell at a terminal: prompts, reads and answers until it ends. -/
partial def converse (journal : Journal) (lexicon : Lexicon) (count : Int)
    (vars : Variables) : IO UInt32 := do
  display Shell.defaultPrompt
  let line ← (← IO.getStdin).getLine
  if line.isEmpty then
    display (Shell.farewell ++ "\n")
    return 0
  let text := String.ofList (Text.dropLineEnds line.toList)
  let step := Shell.answer none lexicon count vars text
  putOnRecord journal step.records
  match step.result with
  | .error _ => return 1
  | .ok response =>
    for answer in response.lines do
      display (answer ++ "\n")
    if response.exit then
      display (Shell.farewell ++ "\n")
      return 0
    converse journal lexicon count step.vars

/-- Shows why the program cannot go on, and ends it. -/
def fail (message : String) : IO UInt32 := do
  (← IO.getStderr).putStrLn message
  return 1

/-- What the file at a path gives, if there is a file. -/
def fileContent? (path : Path) : IO (Option FileTree.Content) := do
  try return some (.bytes (← IO.FS.readBinFile path.text).toList)
  catch
    | .noFileOrDirectory .. | .inappropriateType .. => return none
    | .permissionDenied _ _ reason | .hardwareFault _ reason => return some (.unreadable reason)
    | error => throw error

/-- Loads the lexicon and starts the shell. -/
def openLexicon (settings : Settings) (arguments : Arguments) (journal : Journal) (count : Int) :
    IO UInt32 := do
  match Launch.lexiconPath settings arguments with
  | .error error => fail error.message
  | .ok path =>
    match ← fileContent? path with
    | none =>
      display (Launch.missingText path)
      return 1
    | some content =>
      display Launch.loadingText
      let started ← seconds
      match Launch.load (.ofContent settings arguments count path content) with
      | .error (.missing value) => fail value.message
      | .error (.read error) =>
        putOnRecord journal [Launch.unreadableRecord path error]
        display (Launch.unreadableText path error)
        return 1
      | .ok lexicon =>
        let stopped ← seconds
        putOnRecord journal [Launch.loadedRecord path lexicon ⟨started, stopped⟩]
        display (Launch.loadedText lexicon)
        converse journal lexicon count .empty

/-- Checks the number of nearest words before the lexicon is loaded. -/
def checkCount (settings : Settings) (arguments : Arguments) (journal : Journal) : IO UInt32 := do
  match Launch.count settings arguments with
  | .error value => fail value.message
  | .ok count =>
    if count < 1 then
      display Launch.countText
      return 1
    openLexicon settings arguments journal count

/-- Runs on arguments, once settings are read. -/
def runWith (settings : Settings) (journal : Journal) (given : List String) : IO UInt32 := do
  match Arguments.parse given with
  | .error .help =>
    display Arguments.helpText
    return 0
  | .error (.usage error) =>
    (← IO.getStderr).putStrLn (Arguments.usageText ++ Arguments.usageLine error)
    return 2
  | .ok arguments =>
    if settings.issues ≠ [] then
      display (Launch.issueText settings.issues)
      return 1
    match Launch.directoryToMake? settings arguments with
    | .error error => fail error.message
    | .ok none => checkCount settings arguments journal
    | .ok (some directory) =>
      IO.FS.createDirAll directory.text
      match settings.lexiconPath with
      | .error error => fail error.message
      | .ok _ => checkCount settings arguments journal

end WordSpace.Main

open WordSpace in
/-- Runs the shell on the arguments of the command line. -/
def main (given : List String) : IO UInt32 := do
  match Settings.ofEnvironment (← Main.accounts) (← Main.environment) with
  | .error error => Main.fail error.message
  | .ok settings =>
    match settings.setUpJournal (.untouched Launch.journalName) none with
    | .error error => Main.fail error.message
    | .ok journal => Main.runWith settings journal given
