import WordSpace.Launch
import WordSpace.Proofs.FileTree
import WordSpace.Proofs.Settings

/-!
The way to a start.

`Launch.Seeking` and `Launch.Starting` say what comes of looking for the file of a lexicon and of a
launch whose arguments are right, one constructor for each guard. What is known of the limits that a
launch begins with follows from them (`Launch.start_limits`): both are at least one, except that a
limit for loading that the arguments give is taken as it is.
-/

namespace WordSpace

namespace Launch

/-! ## A plain launch -/

/-- What is set where nothing is, below a home directory. -/
def plainSettings : Settings where
  homes := ⟨some "home", fun _ => none⟩
  dataDirectory := "home/.word-math"
  lexiconFile := "home/.word-math/glove.6B.300d.txt"
  count := 5
  limitText := none
  levelName := "WARNING"
  debug := false

/-- A single file in the working directory. -/
def soleFile (name : String) (bytes : List UInt8) : FileTree where
  directories := []
  files := [(Place.root.child name, .bytes bytes)]
  working := .root

/-! ## What comes of a launch -/

/-- What comes of looking for the file of a lexicon. -/
inductive Seeking (settings : Settings) (arguments : Arguments) (tree : FileTree) :
    Except Stop Start → Prop where
  | failure (cause : Failure) : Seeking settings arguments tree (.error (.failure cause))
  | low {n : Int} (counted : count settings arguments = .ok n) (low : n < 1) :
    Seeking settings arguments tree (.error .count)
  | missing {n : Int} {path : Path} (counted : count settings arguments = .ok n) (high : 1 ≤ n)
    (located : lexiconPath settings arguments = .ok path)
    (absent : tree.content? path = .ok none) :
    Seeking settings arguments tree (.error (.missing path))
  | found {n : Int} {path : Path} {content : FileTree.Content}
    (counted : count settings arguments = .ok n) (high : 1 ≤ n)
    (located : lexiconPath settings arguments = .ok path)
    (present : tree.content? path = .ok (some content)) :
    Seeking settings arguments tree (.ok (.ofContent settings arguments n path content))

theorem seeking (settings : Settings) (arguments : Arguments) (tree : FileTree) :
    Seeking settings arguments tree (seek settings arguments tree) := by
  unfold seek
  cases counted : count settings arguments with
  | error value => exact .failure (.missing value)
  | ok n =>
    change Seeking settings arguments tree (if n < 1 then _ else _)
    split
    case isTrue low => exact .low counted low
    case isFalse high =>
      cases located : lexiconPath settings arguments with
      | error error => exact .failure (.home error)
      | ok path =>
        change Seeking settings arguments tree ((tree.content? path).mapError _ >>= _)
        cases looked : tree.content? path with
        | error error => exact .failure (.file error)
        | ok content =>
          cases content with
          | none => exact .missing counted (by omega) located looked
          | some content => exact .found counted (by omega) located looked

/-- What comes of a launch whose arguments are right, before anything is loaded, and the files
then. -/
inductive Starting (settings : Settings) (arguments : Arguments) (tree : FileTree) :
    Except Stop Start × FileTree → Prop where
  | issues (found : settings.issues ≠ []) :
    Starting settings arguments tree (.error (.issues settings.issues), tree)
  | failure {prepared : FileTree} {cause : Failure} (sound : settings.issues = [])
    (failed : prepare settings arguments tree = (.error cause, prepared)) :
    Starting settings arguments tree (.error (.failure cause), prepared)
  | sought {prepared : FileTree} {outcome : Except Stop Start} (sound : settings.issues = [])
    (ready : prepare settings arguments tree = (.ok (), prepared))
    (seeking : Seeking settings arguments prepared outcome) :
    Starting settings arguments tree (outcome, prepared)

theorem starting {given : List String} {arguments : Arguments}
    (accepted : Arguments.parse given = .ok arguments) (settings : Settings) (tree : FileTree) :
    Starting settings arguments tree (start settings given tree) := by
  rw [start, accepted]
  change Starting settings arguments tree (if settings.issues ≠ [] then _ else _)
  split
  case isTrue found => exact .issues found
  case isFalse sound =>
    have sound : settings.issues = [] := Decidable.not_not.1 sound
    split
    case h_1 cause prepared failed => exact .failure sound failed
    case h_2 prepared ready => exact .sought sound ready (seeking settings arguments prepared)

/-- A launch only begins with anything if its arguments are right. -/
theorem exists_parse_of_start {settings : Settings} {given : List String} {tree : FileTree}
    {begun : Start} (started : (start settings given tree).1 = .ok begun) :
    ∃ arguments, Arguments.parse given = .ok arguments := by
  rw [start] at started
  split at started
  case h_1 => cases started
  case h_2 => cases started
  case h_3 arguments accepted => exact ⟨arguments, accepted⟩

/-! ## Files -/

theorem extends_prepare (settings : Settings) (arguments : Arguments) (tree : FileTree) :
    tree.Extends (prepare settings arguments tree).2 := by
  unfold prepare
  split
  case h_1 => exact .refl tree
  case h_2 => exact .refl tree
  case h_3 path _ =>
    have made := tree.extends_make path
    split
    case h_1 making => rwa [making] at made
    case h_2 making => rwa [making] at made

/-- On the way to a start no file and no directory gets lost. -/
theorem extends_start (settings : Settings) (given : List String) (tree : FileTree) :
    tree.Extends (start settings given tree).2 := by
  unfold start
  split
  case h_1 => exact .refl tree
  case h_2 => exact .refl tree
  case h_3 arguments _ =>
    have prepared := extends_prepare settings arguments tree
    split
    case isTrue => exact .refl tree
    case isFalse =>
      split
      case h_1 preparing => rwa [preparing] at prepared
      case h_2 preparing => rwa [preparing] at prepared

/-! ## Limits -/

/-- The limit for loading that a launch begins with is missing or at least one exactly if the
arguments give none or one that is at least one: a limit that is set has been checked. -/
theorem limit_iff {settings : Settings} {arguments : Arguments} (sound : settings.issues = []) :
    (∃ limit, Launch.limit settings arguments = .ok limit ∧ ∀ n ∈ limit, 1 ≤ n) ↔
      arguments.limit = .absent ∨ ∃ n, arguments.limit = .given n ∧ 1 ≤ n := by
  rw [Launch.limit]
  cases arguments.limit with
  | absent =>
    obtain ⟨limit, set, high⟩ := Settings.limit_of_issues_eq_nil sound
    have fits : ∀ n ∈ settings.limit.toOption.join, 1 ≤ n := by
      rw [set]
      exact high
    simpa using fits
  | void => simp
  | given n => simp

/-- A launch that comes to loading shows at least one nearest word. The limit for loading is missing
or at least one exactly if the arguments give none or one that is at least one. -/
theorem start_limits {settings : Settings} {given : List String} {tree : FileTree} {begun : Start}
    (started : (start settings given tree).1 = .ok begun) :
    1 ≤ begun.count ∧
      ((∃ limit, begun.limit = .ok limit ∧ ∀ n ∈ limit, 1 ≤ n) ↔
        ∃ arguments, Arguments.parse given = .ok arguments ∧
          (arguments.limit = .absent ∨ ∃ n, arguments.limit = .given n ∧ 1 ≤ n)) := by
  obtain ⟨arguments, accepted⟩ := exists_parse_of_start started
  have starts := starting accepted settings tree
  generalize start settings given tree = outcome at starts started
  cases starts with
  | issues found => cases started
  | failure sound failed => cases started
  | sought sound ready seeking =>
    cases started
    cases seeking with
    | found counted high located present =>
      have limited : (∃ limit, Launch.limit settings arguments = .ok limit ∧ ∀ n ∈ limit, 1 ≤ n) ↔
          arguments.limit = .absent ∨ ∃ n, arguments.limit = .given n ∧ 1 ≤ n := limit_iff sound
      refine ⟨high, limited.trans ?_⟩
      simp [accepted]

/-- With a limit for loading that is given and at least one, both limits are. -/
theorem start_limits_of_three :
    ∃ begun, (start plainSettings ["--embeddings", "v.txt", "--max-words", "3"]
        (soleFile "v.txt" [])).1 = .ok begun ∧
      1 ≤ begun.count ∧ ∃ limit, begun.limit = .ok limit ∧ ∀ n ∈ limit, 1 ≤ n := by
  have started : (start plainSettings ["--embeddings", "v.txt", "--max-words", "3"]
      (soleFile "v.txt" [])).1 = .ok (.ofContent plainSettings
        ⟨.given (Path.ofText "v.txt"), .absent, .given 3⟩ 5 (Path.ofText "v.txt") (.bytes [])) := by
    cbv
  obtain ⟨high, limited⟩ := start_limits started
  exact ⟨_, started, high, limited.2 ⟨_, rfl, .inr ⟨3, rfl, by decide⟩⟩⟩

/-- A limit for loading below one is checked if it is set, but not if the arguments give it. -/
theorem not_forall_start_limits :
    ¬∀ (settings : Settings) (given : List String) (tree : FileTree) (begun : Start),
      (start settings given tree).1 = .ok begun →
        1 ≤ begun.count ∧ ∃ limit, begun.limit = .ok limit ∧ ∀ n ∈ limit, 1 ≤ n := by
  intro bounded
  have started : (start plainSettings ["--embeddings", "v.txt", "--max-words", "0"]
      (soleFile "v.txt" [])).1 = .ok (.ofContent plainSettings
        ⟨.given (Path.ofText "v.txt"), .absent, .given 0⟩ 5 (Path.ofText "v.txt") (.bytes [])) := by
    cbv
  obtain ⟨-, limit, taken, high⟩ := bounded _ _ _ _ started
  cases taken
  exact absurd (high 0 rfl) (by decide)

end Launch

end WordSpace
