import WordSpace.Decimal.Integer
import WordSpace.Path
import WordSpace.Text.Quoted

/-!
Arguments: the options of the command line.

An option is given by its name or by the beginning of a long name that no other long name shares.
Its value follows as the next argument, or behind an equals sign; two dashes behind an equals sign
give the option and no value. An argument that only looks like an option because it is a negative
number, or because its first character is a dash and a space comes later, is a value. Behind two
dashes nothing is an option. Of a repeated option the last one counts; what belongs to no option is
refused at the end.
-/

namespace WordSpace

/-- The options that there are. -/
inductive Flag where
  | help
  | lexicon
  | count
  | limit
  deriving DecidableEq, Repr

namespace Flag

/-- The names of the options, in the order in which messages list them. -/
def names : List (String × Flag) :=
  [("-h", help), ("--help", help), ("--embeddings", lexicon), ("--top-k", count),
    ("--max-words", limit)]

/-- An option as messages name it. -/
def label : Flag → String
  | help => "-h/--help"
  | lexicon => "--embeddings"
  | count => "--top-k"
  | limit => "--max-words"

end Flag

/-! ## Errors -/

/-- What is wrong with arguments. -/
inductive UsageError where
  | ambiguous (argument : String) (names : List String)
  | valueMissing (flag : Flag)
  | valueUnused (flag : Flag) (value : String)
  | valueNoInteger (flag : Flag) (value : String)
  | unrecognized (arguments : List String)
  deriving DecidableEq, Repr

/-- The text shown for wrong arguments. -/
def UsageError.message : UsageError → String
  | ambiguous argument names =>
    "ambiguous option: " ++ argument ++ " could match " ++ String.intercalate ", " names
  | valueMissing flag => "argument " ++ flag.label ++ ": expected one argument"
  | valueUnused flag value =>
    "argument " ++ flag.label ++ ": ignored explicit argument " ++ Text.quoted value
  | valueNoInteger flag value =>
    "argument " ++ flag.label ++ ": invalid int value: " ++ Text.quoted value
  | unrecognized arguments => "unrecognized arguments: " ++ String.intercalate " " arguments

/-! ## Single arguments -/

/-- What an argument is taken for. An option has the short form of one letter or a long one, and may
have something attached to it in the same argument. -/
inductive Argument where
  | value (text : String)
  | option (flag : Flag) (short : Bool) (attached : Option String)
  | unknown (text : String)
  deriving DecidableEq, Repr

namespace Argument

/-- Splits a text at its first equals sign. -/
def splitEquals (text : List Char) : List Char × Option String :=
  match text.dropWhile (· != '=') with
  | [] => (text, none)
  | _ :: after => (text.takeWhile (· != '='), some (String.ofList after))

/-- Whether a text is a number behind a dash: digits with at most one point, one digit or more
behind it. A line feed at the end does not count. -/
def isNegativeNumber : List Char → Bool
  | '-' :: rest =>
    let body := if rest.getLast? = some '\n' then rest.dropLast else rest
    let isDigit (c : Char) : Bool := (Text.digitValue? c).isSome
    match body.dropWhile isDigit with
    | [] => !body.isEmpty
    | '.' :: fraction => !fraction.isEmpty && fraction.all isDigit
    | _ => false
  | _ => false

/-- The options that a text with a dash in front may mean by a beginning of their name. A single
letter behind a single dash may have more behind it. -/
def matching (text : List Char) : List (String × Argument) :=
  match text with
  | '-' :: '-' :: _ =>
    let (name, after) := splitEquals text
    (Flag.names.filter fun entry => name.isPrefixOf entry.1.toList).map fun entry =>
      (entry.1, .option entry.2 false after)
  | '-' :: letter :: rest =>
    (Flag.names.filter fun entry => entry.1.toList = ['-', letter]).map fun entry =>
      (entry.1, .option entry.2 true (some (String.ofList rest)))
  | _ => []

/-- Takes an argument for an option or a value. -/
def classify (argument : String) : Except UsageError Argument :=
  let text := argument.toList
  let isShort (name : String) : Bool := name.length = 2
  if text.head? ≠ some '-' then .ok (.value argument)
  else match Flag.names.lookup argument with
    | some flag => .ok (.option flag (isShort argument) none)
    | none =>
      if text.length = 1 then .ok (.value argument)
      else
        let (name, after) := splitEquals text
        match after, Flag.names.lookup (String.ofList name) with
        | some behind, some flag =>
          .ok (.option flag (isShort (String.ofList name)) (some behind))
        | _, _ =>
          match matching text with
          | [(_, taken)] => .ok taken
          | [] =>
            if isNegativeNumber text || text.contains ' ' then .ok (.value argument)
            else .ok (.unknown argument)
          | several => .error (.ambiguous argument (several.map Prod.fst))

/-- Takes all arguments for options or values; two dashes and all that follows them are values that
no option takes. -/
def classifyAll : List String → Except UsageError (List Argument × List String)
  | [] => .ok ([], [])
  | argument :: rest =>
    if argument = "--" then .ok ([], argument :: rest)
    else do
      let first ← classify argument
      let (others, surplus) ← classifyAll rest
      return (first :: others, surplus)

end Argument

/-! ## All arguments -/

/-- What is said about an option: nothing, that it is given and has no value, or its value. -/
inductive Choice (α : Type) where
  | absent
  | void
  | given (value : α)
  deriving DecidableEq, Repr

/-- What is said about each option. -/
structure Arguments where
  lexicon : Choice Path
  count : Choice Int
  limit : Choice Int
  deriving DecidableEq, Repr

/-- The value of an option is needed that has none. -/
inductive MissingValue where
  | lexicon
  | count
  | limit
  deriving DecidableEq, Repr

/-- The text shown where the value of an option is needed that has none: it says what an empty list
cannot be used for. -/
def MissingValue.message : MissingValue → String
  | lexicon => "expected str, bytes or os.PathLike object, not list"
  | count => "'<' not supported between instances of 'list' and 'int'"
  | limit => "'>=' not supported between instances of 'int' and 'list'"

namespace Arguments

/-- No option is given. -/
def none : Arguments := ⟨.absent, .absent, .absent⟩

/-- Why arguments give nothing to run with: they ask for help, or they are wrong. -/
inductive Stop where
  | help
  | usage (error : UsageError)
  deriving DecidableEq, Repr

/-- What a text says about an option that takes a whole number. -/
def integer (flag : Flag) (value : String) : Except Stop (Choice Int) :=
  if value = "--" then .ok .void
  else match Decimal.integer value with
    | .ok n => .ok (.given n)
    | .error _ => .error (.usage (.valueNoInteger flag value))

/-- Gives an option its value. -/
def set (arguments : Arguments) (flag : Flag) (value : String) : Except Stop Arguments :=
  match flag with
  | .help => .error .help
  | .lexicon =>
    .ok { arguments with lexicon := if value = "--" then .void else .given (Path.ofText value) }
  | .count => (fun count => { arguments with count := count }) <$> integer flag value
  | .limit => (fun limit => { arguments with limit := limit }) <$> integer flag value

/-- Asks for help by a single letter with more behind it: the letter may be repeated, and nothing
else may follow. -/
def shortHelp : List Char → Stop
  | ['h'] => .help
  | 'h' :: next :: rest => shortHelp (next :: rest)
  | text => .usage (.valueUnused .help (String.ofList text))

/-- Asks for help, with what comes in one argument with it. -/
def help (short : Bool) : Option String → Stop
  | .none => .help
  | some attached =>
    if short then shortHelp attached.toList else .usage (.valueUnused .help attached)

/-- Collects the values of options, and the arguments that belong to none. -/
def collect (arguments : Arguments) (surplus : List String) :
    List Argument → Except Stop (Arguments × List String)
  | [] => .ok (arguments, surplus)
  | .value text :: rest => collect arguments (surplus ++ [text]) rest
  | .unknown text :: rest => collect arguments (surplus ++ [text]) rest
  | .option .help short attached :: _ => .error (help short attached)
  | .option flag _ (some attached) :: rest => do
    let next ← arguments.set flag attached
    collect next surplus rest
  | .option flag _ .none :: .value text :: rest => do
    let next ← arguments.set flag text
    collect next surplus rest
  | .option flag _ .none :: _ => .error (.usage (.valueMissing flag))

/-- Reads the arguments of the command line. -/
def parse (given : List String) : Except Stop Arguments := do
  let (classified, trailing) ← (Argument.classifyAll given).mapError .usage
  let (arguments, surplus) ← collect none [] classified
  let unrecognized := surplus ++ trailing
  if unrecognized.isEmpty then return arguments
  else .error (.usage (.unrecognized unrecognized))

/-- The lines that say what arguments there are. -/
def usageText : String :=
  "usage: word-math [-h] [--embeddings EMBEDDINGS] [--top-k TOP_K]\n" ++
  "                 [--max-words MAX_WORDS]\n"

/-- The text that is shown for help. -/
def helpText : String :=
  usageText ++
  "\nVector arithmetic on word embeddings\n\n" ++
  "options:\n" ++
  "  -h, --help            show this help message and exit\n" ++
  "  --embeddings EMBEDDINGS\n" ++
  "                        Path to a whitespace-separated embeddings file\n" ++
  "                        (default: WORD_MATH_EMBEDDINGS or ~/.word-math)\n" ++
  "  --top-k TOP_K         Number of nearest words to show (default:\n" ++
  "                        WORD_MATH_TOP_K or 5)\n" ++
  "  --max-words MAX_WORDS\n" ++
  "                        Only load the first N words of the embeddings file\n"

/-- The last line that is shown for wrong arguments. -/
def usageLine (error : UsageError) : String := "word-math: error: " ++ error.message

end Arguments

end WordSpace
