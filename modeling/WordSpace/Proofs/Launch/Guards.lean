import WordSpace.Proofs.Launch.Start
import WordSpace.Proofs.Lexicon.Readable

/-!
Launches are guarded runs of the shell.

`Launch.Admits` is what a session needs, `Launch.Refused` what stands in its way and what is shown
then, in the order in which a launch looks at it. A launch with arguments that are right and without
a failure runs the shell if it is admitted and is refused otherwise (`Launch.run_guarded`).
-/

namespace WordSpace

open Expression (Room)

/-- The value that is given, if one is. An option without a value gives none. -/
def Choice.value? {α : Type} : Choice α → Option α
  | .given value => some value
  | _ => none

namespace Launch

/-! ## What counts -/

/-- The number of nearest words: the one that the arguments give, or else the one that is set. -/
def chosenCount (settings : Settings) (arguments : Arguments) : Int :=
  arguments.count.value?.getD settings.count

/-- The limit for loading: the one that the arguments give, or else the one that is set, if one
is. -/
def chosenLimit (settings : Settings) (arguments : Arguments) : Option Int :=
  arguments.limit.value? <|> settings.limit.toOption.join

/-- The file of the lexicon: the one that the arguments name, or else the one that is set. -/
def chosenPath (settings : Settings) (arguments : Arguments) : Option Path :=
  arguments.lexicon.value? <|> settings.lexiconPath.toOption

/-- The file of the lexicon is there and gives some content. -/
def Offers (settings : Settings) (arguments : Arguments) (tree : FileTree)
    (content : FileTree.Content) : Prop :=
  ∃ path, chosenPath settings arguments = some path ∧ tree.content? path = .ok (some content)

/-- What a session needs: settings without issues, at least one nearest word, and a file with bytes
that can be read. -/
structure Admits (settings : Settings) (arguments : Arguments) (tree : FileTree)
    (bytes : List UInt8) : Prop where
  sound : settings.issues = []
  high : 1 ≤ chosenCount settings arguments
  offered : Offers settings arguments tree (.bytes bytes)
  readable : Lexicon.IsReadable (chosenLimit settings arguments) bytes

/-- What stands in the way of a session, and what is shown then. -/
inductive Refused (settings : Settings) (arguments : Arguments) (tree : FileTree) :
    String → Prop where
  | issues (found : settings.issues ≠ []) :
    Refused settings arguments tree (issueText settings.issues)
  | count (sound : settings.issues = []) (low : chosenCount settings arguments < 1) :
    Refused settings arguments tree countText
  | missing {path : Path} (sound : settings.issues = [])
    (high : 1 ≤ chosenCount settings arguments)
    (located : chosenPath settings arguments = some path)
    (absent : tree.content? path = .ok none) :
    Refused settings arguments tree (missingText path)
  | unreadable {path : Path} {reason : String} (sound : settings.issues = [])
    (high : 1 ≤ chosenCount settings arguments)
    (located : chosenPath settings arguments = some path)
    (present : tree.content? path = .ok (some (.unreadable reason))) :
    Refused settings arguments tree (loadingText ++ unreadableText path (.system reason))
  | undecodable {path : Path} {bytes : List UInt8} {error : Text.Utf8Error}
    (sound : settings.issues = []) (high : 1 ≤ chosenCount settings arguments)
    (located : chosenPath settings arguments = some path)
    (present : tree.content? path = .ok (some (.bytes bytes)))
    (failed : Lexicon.ofFile (chosenLimit settings arguments) bytes = .error error) :
    Refused settings arguments tree (loadingText ++ unreadableText path (.encoding error))

variable {room : Room} {settings : Settings} {arguments : Arguments} {tree : FileTree}

theorem chosenCount_of_count {n : Int} (counted : count settings arguments = .ok n) :
    chosenCount settings arguments = n := by
  unfold count at counted
  unfold chosenCount
  cases given : arguments.count <;> rw [given] at counted <;> cases counted <;> rfl

theorem chosenPath_of_lexiconPath {path : Path}
    (located : lexiconPath settings arguments = .ok path) :
    chosenPath settings arguments = some path := by
  unfold lexiconPath at located
  unfold chosenPath
  cases given : arguments.lexicon with
  | given named =>
    rw [given] at located
    cases located
    rfl
  | absent | void =>
    rw [given] at located
    change settings.lexiconPath = .ok path at located
    rw [located]
    rfl

theorem chosenLimit_of_limit {limit : Option Int}
    (limited : Launch.limit settings arguments = .ok limit) :
    chosenLimit settings arguments = limit := by
  unfold Launch.limit at limited
  unfold chosenLimit
  cases given : arguments.limit <;> rw [given] at limited <;> cases limited <;> rfl

/-! ## Loading -/

/-- From a source without a line to load, the same is loaded whatever the limit is. -/
theorem ofSource_of_hasLine_eq_false {source : Lexicon.Source} (bare : source.hasLine = false)
    (limit : Option Int) : Lexicon.ofSource limit source = Lexicon.ofSource none source := by
  have empty (limit : Option Int) : Lexicon.loadable limit source.lines = [] := by
    have filled : Lexicon.loadable none source.lines = [] := by
      simpa [Lexicon.Source.hasLine] using bare
    cases limit with
    | none => exact filled
    | some n => exact (congrArg (List.take n.toNat) filled).trans List.take_nil
  simp only [Lexicon.ofSource, Lexicon.Source.passes, Lexicon.load, empty]

/-- What is loaded from bytes if the options for it have their values. -/
theorem load_of_bytes {begun : Start} {bytes : List UInt8} {limit : Option Int}
    (opened : begun.content = .ok (.bytes bytes)) (limited : begun.limit = .ok limit) :
    load begun = (Lexicon.ofFile limit bytes).mapError (.read ∘ .encoding) := by
  rw [load, opened]
  change (Lexicon.Source.ofBytes bytes).mapError (LoadError.read ∘ ReadError.encoding) >>= _ = _
  rw [Lexicon.ofFile]
  cases Lexicon.Source.ofBytes bytes with
  | error error => rfl
  | ok source =>
    rw [limited]
    rfl

/-- What is loaded from bytes if the option for the limit has no value. -/
theorem load_of_void {begun : Start} {bytes : List UInt8} {value : MissingValue}
    (opened : begun.content = .ok (.bytes bytes)) (void : begun.limit = .error value)
    (limit : Option Int) :
    load begun = .error (.missing value) ∨
      load begun = (Lexicon.ofFile limit bytes).mapError (.read ∘ .encoding) := by
  rw [load, opened]
  change (Lexicon.Source.ofBytes bytes).mapError (LoadError.read ∘ ReadError.encoding) >>= _ = _ ∨
    (Lexicon.Source.ofBytes bytes).mapError (LoadError.read ∘ ReadError.encoding) >>= _ = _
  rw [Lexicon.ofFile]
  cases Lexicon.Source.ofBytes bytes with
  | error error => exact .inr rfl
  | ok source =>
    rw [void]
    change (if source.hasLine then _ else _) = _ ∨ (if source.hasLine then _ else _) = _
    split
    case isTrue => exact .inl rfl
    case isFalse bare =>
      have same := ofSource_of_hasLine_eq_false (Bool.eq_false_iff.2 bare) limit
      exact .inr (congrArg (Except.mapError _) same.symm)

/-- What comes of loading from some content. -/
inductive Loading (settings : Settings) (arguments : Arguments) :
    FileTree.Content → Except LoadError Lexicon → Prop where
  | missing (content : FileTree.Content) (value : MissingValue) :
    Loading settings arguments content (.error (.missing value))
  | unreadable (reason : String) :
    Loading settings arguments (.unreadable reason) (.error (.read (.system reason)))
  | undecodable {bytes : List UInt8} {error : Text.Utf8Error}
    (failed : Lexicon.ofFile (chosenLimit settings arguments) bytes = .error error) :
    Loading settings arguments (.bytes bytes) (.error (.read (.encoding error)))
  | loaded {bytes : List UInt8} {lexicon : Lexicon}
    (made : Lexicon.ofFile (chosenLimit settings arguments) bytes = .ok lexicon) :
    Loading settings arguments (.bytes bytes) (.ok lexicon)

theorem Loading.of_bytes (settings : Settings) (arguments : Arguments) (bytes : List UInt8) :
    Loading settings arguments (.bytes bytes)
      ((Lexicon.ofFile (chosenLimit settings arguments) bytes).mapError (.read ∘ .encoding)) := by
  cases made : Lexicon.ofFile (chosenLimit settings arguments) bytes with
  | error error => exact .undecodable made
  | ok lexicon => exact .loaded made

theorem loading (settings : Settings) (arguments : Arguments) (n : Int) (path : Path)
    (content : FileTree.Content) :
    Loading settings arguments content (load (.ofContent settings arguments n path content)) := by
  by_cases named : arguments.lexicon = .void
  · have unopened : (Start.ofContent settings arguments n path content).content = .error .lexicon :=
      if_pos named
    rw [load, unopened]
    exact .missing content .lexicon
  have opened : (Start.ofContent settings arguments n path content).content = .ok content :=
    if_neg named
  cases content with
  | unreadable reason =>
    rw [load, opened]
    exact .unreadable reason
  | bytes bytes =>
    cases limited : Launch.limit settings arguments with
    | ok limit =>
      rw [load_of_bytes opened limited, ← chosenLimit_of_limit limited]
      exact .of_bytes settings arguments bytes
    | error value =>
      rcases load_of_void opened limited (chosenLimit settings arguments) with missed | loaded
      · rw [missed]
        exact .missing (.bytes bytes) value
      · rw [loaded]
        exact .of_bytes settings arguments bytes

/-! ## The launch -/

/-- A launch without a session: what is shown, and nothing is read. -/
structure Refuses (settings : Settings) (arguments : Arguments) (typed : List Shell.Typed)
    (launched : Outcome) : Prop where
  refused : Refused settings arguments launched.tree launched.shown
  ending : launched.ending = .code 1
  unread : launched.unread = typed

/-- A launch with a session over a lexicon: it shows and reads what the shell does. -/
structure Runs (room : Room) (settings : Settings) (arguments : Arguments)
    (typed : List Shell.Typed) (lexicon : Lexicon) (launched : Outcome) : Prop where
  ending : launched.ending = .code 0
  shown : launched.shown = loadingText ++ loadedText lexicon ++
    (Shell.run room lexicon (chosenCount settings arguments) .empty typed).text Shell.defaultPrompt
  unread : launched.unread =
    (Shell.run room lexicon (chosenCount settings arguments) .empty typed).unread

/-- How a launch with arguments that are right comes out: it fails, is refused, or is a session over
the lexicon of bytes that can be read. -/
inductive Concludes (room : Room) (settings : Settings) (arguments : Arguments)
    (typed : List Shell.Typed) (launched : Outcome) : Prop where
  | failed (failure : Failure) (ending : launched.ending = .failure failure)
  | refused (refuses : Refuses settings arguments typed launched)
  | session {bytes : List UInt8} {lexicon : Lexicon}
    (admits : Admits settings arguments launched.tree bytes)
    (made : Lexicon.ofFile (chosenLimit settings arguments) bytes = .ok lexicon)
    (runs : Runs room settings arguments typed lexicon launched)

theorem session_concludes {n : Int} {path : Path} {content : FileTree.Content}
    (sound : settings.issues = []) (counts : chosenCount settings arguments = n) (high : 1 ≤ n)
    (located : chosenPath settings arguments = some path)
    (present : tree.content? path = .ok (some content)) (room : Room) (clock : Clock)
    (typed : List Shell.Typed) :
    Concludes room settings arguments typed
      (session room (.ofContent settings arguments n path content) clock typed tree) := by
  subst counts
  have loading := loading settings arguments (chosenCount settings arguments) path content
  unfold session
  generalize load (.ofContent settings arguments _ path content) = loaded at loading
  cases loading with
  | missing _ value => exact .failed (.missing value) rfl
  | unreadable reason => exact .refused ⟨.unreadable sound high located present, rfl, rfl⟩
  | undecodable failed => exact .refused ⟨.undecodable sound high located present failed, rfl, rfl⟩
  | @loaded bytes lexicon made =>
    have readable := Lexicon.exists_ofFile_iff_isReadable.1 ⟨lexicon, made⟩
    have admits : Admits settings arguments tree bytes :=
      ⟨sound, high, ⟨path, located, present⟩, readable⟩
    cases ends : (Shell.run room lexicon (chosenCount settings arguments) .empty typed).failure with
    | some error => exact .failed (.shell error) (by simp only [Start.ofContent, ends])
    | none => exact .session admits made ⟨by simp only [Start.ofContent, ends], rfl, rfl⟩

theorem run_concludes {given : List String} (accepted : Arguments.parse given = .ok arguments)
    (room : Room) (settings : Settings) (clock : Clock) (typed : List Shell.Typed)
    (tree : FileTree) :
    Concludes room settings arguments typed (run room settings given clock typed tree) := by
  have starts := starting accepted settings tree
  unfold run
  generalize start settings given tree = outcome at starts
  cases starts with
  | issues found => exact .refused ⟨.issues found, rfl, rfl⟩
  | failure sound failed => exact .failed _ rfl
  | sought sound ready seeking =>
    cases seeking with
    | failure cause => exact .failed cause rfl
    | low counted low =>
      have counts := chosenCount_of_count counted
      exact .refused ⟨.count sound (by omega), rfl, rfl⟩
    | missing counted high located absent =>
      have counts := chosenCount_of_count counted
      have located := chosenPath_of_lexiconPath located
      exact .refused ⟨.missing sound (by omega) located absent, rfl, rfl⟩
    | found counted high located present =>
      have counts := chosenCount_of_count counted
      have located := chosenPath_of_lexiconPath located
      exact session_concludes sound counts high located present room clock typed

/-- A file has one content. -/
theorem Offers.unique {first second : List UInt8}
    (offers : Offers settings arguments tree (.bytes first))
    (offered : Offers settings arguments tree (.bytes second)) : first = second := by
  obtain ⟨path, located, present⟩ := offers
  obtain ⟨path', located', present'⟩ := offered
  cases located.symm.trans located'
  cases present.symm.trans present'
  rfl

/-- Nothing is both refused and admitted. -/
theorem Refused.not_admits {shown : String} {bytes : List UInt8}
    (refused : Refused settings arguments tree shown) :
    ¬Admits settings arguments tree bytes := by
  intro admits
  obtain ⟨sound, high, ⟨path, located, present⟩, readable⟩ := admits
  cases refused with
  | issues found => exact found sound
  | count _ low => omega
  | missing _ _ located' absent =>
    cases located.symm.trans located'
    cases present.symm.trans absent
  | unreadable _ _ located' present' =>
    cases located.symm.trans located'
    cases present.symm.trans present'
  | undecodable _ _ located' present' failed =>
    cases located.symm.trans located'
    cases present.symm.trans present'
    obtain ⟨lexicon, made⟩ := Lexicon.exists_ofFile_iff_isReadable.2 readable
    cases made.symm.trans failed

/-- The files behind a launch are those on which it came to loading, or was stopped. -/
theorem run_tree (room : Room) (settings : Settings) (given : List String) (clock : Clock)
    (typed : List Shell.Typed) (tree : FileTree) :
    (run room settings given clock typed tree).tree = (start settings given tree).2 := by
  unfold run
  split
  case h_1 started => rw [started]
  case h_2 begun prepared started =>
    rw [started]
    unfold session
    split
    case h_1 => rfl
    case h_2 => rfl
    case h_3 => rfl

/-- A launch with arguments that are right and without a failure runs the shell over the lexicon of
its file exactly if it is admitted. In all other cases it is refused, and nothing is read. The files
that it leaves are those that it found. -/
theorem run_guarded {given : List String} {clock : Clock} {typed : List Shell.Typed}
    (accepted : Arguments.parse given = .ok arguments)
    (unfailing : ∀ failure, (run room settings given clock typed tree).ending ≠ .failure failure) :
    let launched := run room settings given clock typed tree
    (launched.ending = .code 0 ↔ ∃ bytes, Admits settings arguments launched.tree bytes) ∧
      (∀ bytes, Admits settings arguments launched.tree bytes →
        ∃ lexicon, Lexicon.ofFile (chosenLimit settings arguments) bytes = .ok lexicon ∧
          Runs room settings arguments typed lexicon launched) ∧
      (launched.ending ≠ .code 0 → Refuses settings arguments typed launched) ∧
      tree.Extends launched.tree := by
  intro launched
  have kept : tree.Extends launched.tree := by
    rw [run_tree]
    exact extends_start settings given tree
  have concludes : Concludes room settings arguments typed launched :=
    run_concludes accepted room settings clock typed tree
  cases concludes with
  | failed failure ending => exact absurd ending (unfailing failure)
  | refused refuses =>
    have unadmitted (bytes : List UInt8) : ¬Admits settings arguments launched.tree bytes :=
      refuses.refused.not_admits
    have code : launched.ending ≠ .code 0 := by
      rw [refuses.ending]
      decide
    refine ⟨⟨fun ended => absurd ended code, ?_⟩, ?_, fun _ => refuses, kept⟩
    · intro admitted
      obtain ⟨bytes, admits⟩ := admitted
      exact absurd admits (unadmitted bytes)
    · intro bytes admits
      exact absurd admits (unadmitted bytes)
  | @session bytes lexicon admits made runs =>
    refine ⟨⟨fun _ => ⟨bytes, admits⟩, fun _ => runs.ending⟩, ?_, ?_, kept⟩
    · intro others admitted
      cases admits.offered.unique admitted.offered
      exact ⟨lexicon, made, runs⟩
    · intro code
      exact absurd runs.ending code

/-- A launch that comes to loading bytes that can be read ends without a failure if the shell
does. -/
theorem ending_of_readable {given : List String} {clock : Clock} {typed : List Shell.Typed}
    {begun : Start} {prepared : FileTree} {bytes : List UInt8} {limit : Option Int}
    (started : start settings given tree = (.ok begun, prepared))
    (opened : begun.content = .ok (.bytes bytes)) (limited : begun.limit = .ok limit)
    (readable : Lexicon.IsReadable limit bytes)
    (ends : ∀ lexicon, (Shell.run room lexicon begun.count .empty typed).failure = none) :
    (run room settings given clock typed tree).ending = .code 0 := by
  obtain ⟨lexicon, made⟩ := Lexicon.exists_ofFile_iff_isReadable.2 readable
  have loaded : load begun = .ok lexicon := by
    rw [load_of_bytes opened limited, made]
    rfl
  rw [run, started]
  simp only [session, loaded, ends lexicon]

/-- What is typed behind the end of the session stays unread. -/
theorem run_guarded_exit :
    let given := ["--embeddings", "v.txt", "--top-k", "2"]
    let arguments : Arguments := ⟨.given (Path.ofText "v.txt"), .given 2, .absent⟩
    let typed := [Shell.Typed.line "exit", .line "king"]
    let tree := soleFile "v.txt" ("king 1\nqueen 1\n".toList.flatMap String.utf8EncodeChar)
    let launched := run none plainSettings given ⟨0, 1⟩ typed tree
    (Arguments.parse given = .ok arguments ∧ ∀ failure, launched.ending ≠ .failure failure) ∧
      (∃ lexicon, Runs none plainSettings arguments typed lexicon launched) ∧
      launched.unread = [.line "king"] := by
  intro given arguments typed tree launched
  let bytes := "king 1\nqueen 1\n".toList.flatMap String.utf8EncodeChar
  let begun : Start := .ofContent plainSettings arguments 2 (Path.ofText "v.txt") (.bytes bytes)
  have accepted : Arguments.parse given = .ok arguments := rfl
  have started : start plainSettings given tree = (.ok begun, tree) := by cbv
  have exits : Shell.Command.ofLine "exit" = .exit := by cbv
  have shell (lexicon : Lexicon) :
      Shell.run none lexicon begun.count .empty typed = .ended [.line "king"] .empty := by
    simp [typed, Shell.run, Shell.answer, exits]
  have ended : launched.ending = .code 0 :=
    ending_of_readable started rfl rfl (.inl ⟨_, rfl⟩) fun lexicon =>
      congrArg Shell.Transcript.failure (shell lexicon)
  have unfailing : ∀ failure, launched.ending ≠ .failure failure := by
    intro failure
    rw [ended]
    exact Ending.noConfusion
  obtain ⟨admitted, session, -, -⟩ := run_guarded accepted unfailing
  obtain ⟨bytes, admits⟩ := admitted.1 ended
  obtain ⟨lexicon, -, runs⟩ := session bytes admits
  refine ⟨⟨accepted, unfailing⟩, ⟨lexicon, runs⟩, ?_⟩
  rw [runs.unread]
  exact congrArg Shell.Transcript.unread (shell lexicon)

/-- A file that ends in the middle of an encoding is not text in UTF-8, but nothing is wrong with it
as far as a limit lets it be read. -/
theorem not_forall_run_utf8 :
    ¬∀ (room : Room) (settings : Settings) (given : List String) (arguments : Arguments)
      (clock : Clock) (typed : List Shell.Typed) (tree : FileTree),
      Arguments.parse given = .ok arguments →
        let launched := run room settings given clock typed tree
        (∀ failure, launched.ending ≠ .failure failure) →
          (launched.ending = .code 0 ↔
            settings.issues = [] ∧ 1 ≤ chosenCount settings arguments ∧
              ∃ bytes, Offers settings arguments launched.tree (.bytes bytes) ∧
                Lexicon.IsUtf8 bytes) := by
  intro guarded
  let text := "cat 1\ndog 2\n".toList
  let bytes := text.flatMap String.utf8EncodeChar ++ [0xE2]
  let given := ["--embeddings", "v.txt", "--max-words", "1"]
  let arguments : Arguments := ⟨.given (Path.ofText "v.txt"), .absent, .given 1⟩
  let tree := soleFile "v.txt" bytes
  let launched := run none plainSettings given ⟨0, 1⟩ [] tree
  have euro : String.utf8EncodeChar '€' = [0xE2] ++ [0x82, 0xAC] := by decide
  have cut : Text.CutShort [0xE2] := .char euro (List.cons_ne_nil _ _) (List.cons_ne_nil _ _)
  have started : start plainSettings given tree =
      (.ok (.ofContent plainSettings arguments 5 (Path.ofText "v.txt") (.bytes bytes)), tree) := by
    cbv
  have readable : Lexicon.IsReadable (some 1) bytes :=
    .inr ⟨text, [0xE2], 1, rfl, cut, rfl, by decide⟩
  have ended : launched.ending = .code 0 :=
    ending_of_readable started rfl rfl readable fun _ => rfl
  have unfailing : ∀ failure, launched.ending ≠ .failure failure := by
    intro failure
    rw [ended]
    exact Ending.noConfusion
  obtain ⟨-, -, others, offered, utf8⟩ :=
    (guarded none plainSettings given arguments ⟨0, 1⟩ [] tree rfl unfailing).1 ended
  have located : Offers plainSettings arguments launched.tree (.bytes bytes) := by
    rw [run_tree, started]
    exact ⟨Path.ofText "v.txt", rfl, by cbv⟩
  have whole : others = bytes := offered.unique located
  rw [whole] at utf8
  exact Lexicon.not_isUtf8_of_cutShort cut text utf8

end Launch

end WordSpace
