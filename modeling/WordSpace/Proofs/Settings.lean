import Mathlib
import WordSpace.Settings

/-!
Validated settings.

What is written for the limit is read twice, once to report an issue with it and once to go by it,
and the two readings agree on every text (`Settings.limit_cases`). So there are no issues exactly if
all that is set can be gone by, and an issue with the limit exactly if going by it fails or gives a
number below one (`Settings.issues_of_environment`). The journal has a level even where there are
issues (`Settings.exists_setUpJournal`). To read settings at all takes a home directory, which the
accounts of the system may tell where the environment does not, and a number of nearest words
(`Settings.exists_ofEnvironment_iff`).
-/

namespace WordSpace

/-- The home directory of the user is known, and does not ask for another one. -/
def Path.Homes.IsKnown (homes : Path.Homes) : Prop :=
  ∃ home ∈ homes.own, Path.isHomePart (Path.homeText home) = false

namespace Settings

variable {settings : Settings}

/-! ## The limit -/

/-- An issue is about the limit for loading. -/
def IsLimitIssue (issue : String) : Prop :=
  issue = "WORD_MATH_MAX_WORDS must be >= 1" ∨
    ∃ text, issue = "Invalid WORD_MATH_MAX_WORDS: " ++ text

/-- Both readings of what is written for the limit come to the same: either nothing is reported and
there is a limit that is missing or at least one, or an issue is reported and there is none. -/
theorem limit_cases (settings : Settings) :
    (settings.limitIssue? = none ∧ ∃ limit, settings.limit = .ok limit ∧ ∀ n ∈ limit, 1 ≤ n) ∨
    ((∃ issue, settings.limitIssue? = some issue ∧ IsLimitIssue issue) ∧
      ((∃ error, settings.limit = .error error) ∨ ∃ n, settings.limit = .ok (some n) ∧ n < 1)) := by
  unfold limitIssue? limit
  cases settings.limitText with
  | none => exact .inl ⟨rfl, none, rfl, by simp⟩
  | some text =>
    by_cases empty : text = ""
    · subst empty
      exact .inl ⟨rfl, none, rfl, by simp⟩
    · have written : (some text).filter (· ≠ "") = some text := by simpa using empty
      rw [written]
      dsimp only
      rw [if_neg empty]
      cases Decimal.integer text with
      | error error => exact .inr ⟨⟨_, rfl, .inr ⟨text, rfl⟩⟩, .inl ⟨error, rfl⟩⟩
      | ok n =>
        by_cases low : n < 1
        · exact .inr ⟨⟨_, if_pos low, .inl rfl⟩, .inr ⟨n, rfl, low⟩⟩
        · exact .inl ⟨if_neg low, some n, rfl, by simpa using low⟩

theorem not_of_limit {limit : Option Int} (read : settings.limit = .ok limit)
    (high : ∀ n ∈ limit, 1 ≤ n) :
    ¬((∃ error, settings.limit = .error error) ∨ ∃ n, settings.limit = .ok (some n) ∧ n < 1) := by
  rintro (⟨error, failed⟩ | ⟨n, low, below⟩)
  · cases failed.symm.trans read
  · cases low.symm.trans read
    exact absurd (high n rfl) (by omega)

/-- There is no issue with a limit exactly if it is missing or a number that is at least one. -/
theorem limitIssue?_eq_none_iff :
    settings.limitIssue? = none ↔ ∃ limit, settings.limit = .ok limit ∧ ∀ n ∈ limit, 1 ≤ n := by
  obtain ⟨silent, limit⟩ | ⟨⟨issue, reported, -⟩, wrong⟩ := settings.limit_cases
  · exact iff_of_true silent limit
  · apply iff_of_false
    · simp [reported]
    · rintro ⟨limit, read, high⟩
      exact not_of_limit read high wrong

/-- There is an issue with a limit exactly if it cannot be read or is a number below one, and it is
called an issue with the limit then. -/
theorem exists_limitIssue?_iff :
    (∃ issue, settings.limitIssue? = some issue ∧ IsLimitIssue issue) ↔
      (∃ error, settings.limit = .error error) ∨ ∃ n, settings.limit = .ok (some n) ∧ n < 1 := by
  obtain ⟨silent, limit, read, high⟩ | ⟨reported, wrong⟩ := settings.limit_cases
  · apply iff_of_false
    · simp [silent]
    · exact not_of_limit read high
  · exact iff_of_true reported wrong

/-! ## Issues -/

/-- Three things can be wrong, each of which is reported by an issue of its own. -/
theorem mem_issues_iff {issue : String} :
    issue ∈ settings.issues ↔
      (settings.count < 1 ∧ issue = "WORD_MATH_TOP_K must be >= 1") ∨
      settings.limitIssue? = some issue ∨
      (settings.levelName ∉ levelNames ∧
        issue = "Invalid WORD_MATH_LOG_LEVEL: " ++ settings.levelName) := by
  simp only [issues, List.mem_append, Option.mem_toList, or_assoc]
  by_cases low : settings.count < 1 <;> by_cases named : settings.levelName ∈ levelNames <;>
    simp [low, named]

theorem issues_eq_nil_iff :
    settings.issues = [] ↔
      1 ≤ settings.count ∧ settings.limitIssue? = none ∧ settings.levelName ∈ levelNames := by
  rw [← Int.not_lt]
  simp only [issues, List.append_eq_nil_iff, Option.toList_eq_nil_iff, and_assoc]
  by_cases low : settings.count < 1 <;> by_cases named : settings.levelName ∈ levelNames <;>
    simp [low, named]

/-- Without issues a limit is missing or at least one. -/
theorem limit_of_issues_eq_nil (sound : settings.issues = []) :
    ∃ limit, settings.limit = .ok limit ∧ ∀ n ∈ limit, 1 ≤ n :=
  limitIssue?_eq_none_iff.1 (issues_eq_nil_iff.1 sound).2.1

/-- The issue with the number of nearest words is not mistaken for one with the limit. -/
theorem not_isLimitIssue_count : ¬IsLimitIssue "WORD_MATH_TOP_K must be >= 1" := by
  rintro (same | ⟨text, same⟩)
  · exact absurd same (by decide)
  · have front := congrArg (·.toList.head?) same
    simp at front

/-- Neither is the issue with a level, whatever the level is called. -/
theorem not_isLimitIssue_level (name : String) :
    ¬IsLimitIssue ("Invalid WORD_MATH_LOG_LEVEL: " ++ name) := by
  rintro (same | ⟨text, same⟩)
  · have front := congrArg (·.toList.head?) same
    simp at front
  · have characters := congrArg String.toList same
    rw [String.toList_append, String.toList_append] at characters
    have fronts := (List.append_inj characters (by decide)).1
    exact absurd fronts (by decide)

theorem exists_limitIssue_mem_iff :
    (∃ issue ∈ settings.issues, IsLimitIssue issue) ↔
      ∃ issue, settings.limitIssue? = some issue ∧ IsLimitIssue issue := by
  constructor
  · rintro ⟨issue, member, about⟩
    obtain ⟨-, rfl⟩ | reported | ⟨-, rfl⟩ := mem_issues_iff.1 member
    · exact absurd about not_isLimitIssue_count
    · exact ⟨issue, reported, about⟩
    · exact absurd about (not_isLimitIssue_level _)
  · rintro ⟨issue, reported, about⟩
    exact ⟨issue, mem_issues_iff.2 (.inr (.inl reported)), about⟩

/-! ## The journal -/

/-- The journal has one of the levels that can be set, whatever is set. -/
theorem journalLevelName_mem (settings : Settings) : settings.journalLevelName ∈ levelNames := by
  unfold journalLevelName
  split
  · decide
  · split
    case isTrue named => simpa using named
    case isFalse => decide

/-- The levels that can be set are among those that a journal knows. -/
theorem isSome_ofName?_of_mem : ∀ name ∈ levelNames, (Level.ofName? name).isSome = true := by
  decide

/-- A journal can always be set up with the level that is set. -/
theorem exists_setUpJournal (settings : Settings) (journal : Journal) :
    ∃ level, Level.ofName? settings.journalLevelName = some level ∧
      settings.setUpJournal journal none = .ok (journal.setUp level) := by
  obtain ⟨level, found⟩ := Option.isSome_iff_exists.1
    (isSome_ofName?_of_mem _ settings.journalLevelName_mem)
  refine ⟨level, found, ?_⟩
  rw [setUpJournal, Option.getD_none, Journal.setUpNamed, found]

/-! ## Environments -/

/-- There is a directory for data without setting one exactly if the home directory is known. -/
theorem exists_defaultDataDirectory_iff {homes : Path.Homes} :
    (∃ directory, defaultDataDirectory homes = .ok directory) ↔ homes.IsKnown := by
  have tilde : Path.ofText "~" = ⟨.working, ["~"]⟩ := by decide
  obtain ⟨own, named⟩ := homes
  rw [defaultDataDirectory, tilde, Path.Homes.IsKnown]
  cases own with
  | none =>
    have unknown : Path.expand ⟨none, named⟩ ⟨.working, ["~"]⟩ = .error .homeUnknown := rfl
    simp [unknown]
  | some home =>
    have known : Path.expand ⟨some home, named⟩ ⟨.working, ["~"]⟩ =
        if Path.isHomePart (Path.homeText home) then .error .homeUnknown
        else
          let base := Path.ofText (Path.homeText home)
          .ok { base with parts := base.parts ++ [] } := rfl
    rw [known]
    split
    case isTrue other => simp [other]
    case isFalse own => simp [own]

/-- The settings of an environment can be read exactly if the home directory of the user is known,
from the environment or else from the accounts, and the number of nearest words is one. -/
theorem exists_ofEnvironment_iff {accounts : Path.Homes} {environment : Environment} :
    (∃ settings, ofEnvironment accounts environment = .ok settings) ↔
      (accounts.override (environment.get? "HOME")).IsKnown ∧
        ∃ n, Decimal.integer ((environment.get? "WORD_MATH_TOP_K").getD "5") = .ok n := by
  rw [← exists_defaultDataDirectory_iff]
  unfold ofEnvironment
  dsimp only
  cases defaultDataDirectory (accounts.override (environment.get? "HOME")) with
  | error error => simp [Except.mapError, bind, Except.bind]
  | ok directory =>
    cases Decimal.integer ((environment.get? "WORD_MATH_TOP_K").getD "5") with
    | error error => simp [Except.mapError, bind, Except.bind]
    | ok n => simp [Except.mapError, bind, Except.bind, pure, Except.pure]

/-- What settings take over from an environment. -/
theorem eq_of_ofEnvironment {accounts : Path.Homes} {environment : Environment}
    (read : ofEnvironment accounts environment = .ok settings) :
    Decimal.integer ((environment.get? "WORD_MATH_TOP_K").getD "5") = .ok settings.count ∧
      settings.limitText = environment.get? "WORD_MATH_MAX_WORDS" ∧
      settings.levelName =
        Text.upper ((environment.get? "WORD_MATH_LOG_LEVEL").getD "WARNING") := by
  unfold ofEnvironment at read
  dsimp only at read
  cases home : defaultDataDirectory (accounts.override (environment.get? "HOME")) with
  | error error =>
    rw [home] at read
    cases read
  | ok directory =>
    rw [home] at read
    cases count : Decimal.integer ((environment.get? "WORD_MATH_TOP_K").getD "5") with
    | error error =>
      rw [count] at read
      cases read
    | ok n =>
      rw [count] at read
      cases read
      exact ⟨rfl, rfl, rfl⟩

/-- On a system where the home directory of the user is known, the settings of an environment can be
read as soon as the number of nearest words can. They have no issues exactly if this number is at
least one, the limit can be gone by and is missing or at least one, and the level is one of those
that can be set. An issue with the limit is reported exactly if to go by it fails or gives a number
below one. Issues or not, the journal has one of the levels and can be set up. -/
theorem issues_of_environment {accounts : Path.Homes} {environment : Environment} {n : Int}
    (home : (accounts.override (environment.get? "HOME")).IsKnown)
    (counted : Decimal.integer ((environment.get? "WORD_MATH_TOP_K").getD "5") = .ok n) :
    ∃ settings, ofEnvironment accounts environment = .ok settings ∧ settings.count = n ∧
      (settings.issues = [] ↔
        1 ≤ n ∧ (∃ limit, settings.limit = .ok limit ∧ ∀ m ∈ limit, 1 ≤ m) ∧
          Text.upper ((environment.get? "WORD_MATH_LOG_LEVEL").getD "WARNING") ∈ levelNames) ∧
      ((∃ issue ∈ settings.issues, IsLimitIssue issue) ↔
        (∃ error, settings.limit = .error error) ∨ ∃ m, settings.limit = .ok (some m) ∧ m < 1) ∧
      settings.journalLevelName ∈ levelNames ∧
      ∀ journal, ∃ level, Level.ofName? settings.journalLevelName = some level ∧
        settings.setUpJournal journal none = .ok (journal.setUp level) := by
  obtain ⟨settings, read⟩ := exists_ofEnvironment_iff.2 ⟨home, n, counted⟩
  obtain ⟨count, -, level⟩ := eq_of_ofEnvironment read
  have same : settings.count = n := Except.ok.inj (count.symm.trans counted)
  refine ⟨settings, read, same, ?_, ?_, settings.journalLevelName_mem,
    settings.exists_setUpJournal⟩
  · rw [issues_eq_nil_iff, limitIssue?_eq_none_iff, level, same]
  · rw [exists_limitIssue_mem_iff, exists_limitIssue?_iff]

/-- The environment says nothing about a home directory, but the accounts do. With the limit
` +1_٠ `, which is ten, and the level `loud`, which is none, there is an issue, but not with the
limit. -/
theorem issues_of_environment_loud :
    let accounts : Path.Homes := ⟨some "/root", fun _ => none⟩
    let environment : Environment := .ofList
      [("WORD_MATH_MAX_WORDS", " +1_٠ "), ("WORD_MATH_LOG_LEVEL", "loud")]
    (accounts.override (environment.get? "HOME")).IsKnown ∧
      Decimal.integer ((environment.get? "WORD_MATH_TOP_K").getD "5") = .ok 5 ∧
      ∃ settings, ofEnvironment accounts environment = .ok settings ∧ settings.issues ≠ [] ∧
        (¬∃ issue ∈ settings.issues, IsLimitIssue issue) ∧
        settings.journalLevelName ∈ levelNames ∧
        ∃ level, settings.setUpJournal (.untouched "word_math") none =
          .ok ((Journal.untouched "word_math").setUp level) := by
  intro accounts environment
  have home : (accounts.override (environment.get? "HOME")).IsKnown :=
    ⟨"/root", rfl, by decide⟩
  have counted : Decimal.integer ((environment.get? "WORD_MATH_TOP_K").getD "5") = .ok 5 := by
    decide +kernel
  obtain ⟨settings, read, -, sound, reported, named, ready⟩ := issues_of_environment home counted
  have ten : settings.limit = .ok (some 10) := by
    rw [limit, (eq_of_ofEnvironment read).2.1]
    decide +kernel
  have unnamed : Text.upper ((environment.get? "WORD_MATH_LOG_LEVEL").getD "WARNING") ∉
      levelNames := by decide +kernel
  obtain ⟨level, -, done⟩ := ready (.untouched "word_math")
  refine ⟨home, counted, settings, read, ?_, ?_, named, level, done⟩
  · rw [ne_eq, sound]
    exact fun ⟨_, _, name⟩ => unnamed name
  · rw [reported]
    exact not_of_limit ten (by decide)

end Settings

end WordSpace
