import WordSpace.Proofs.Launch.Guards

/-!
The directories that a launch makes.

A launch sees to the places that are set if its arguments and settings are right and the arguments
say nothing about the file (`Launch.UsesDefault`); only then it changes the files at all. If it does
not fail, the directories behind it are those that were there and those on the way to the directory
for data, however it ends (`Launch.run_directories`).
-/

namespace WordSpace.Launch

open Expression (Room)
open FileTree (IsAlong)

variable {room : Room} {settings : Settings} {arguments : Arguments} {given : List String}
  {tree prepared : FileTree}

/-- A launch sees to the places that are set: nothing is wrong with its arguments and settings, and
the arguments say nothing about the file. -/
structure UsesDefault (settings : Settings) (given : List String) : Prop where
  sound : settings.issues = []
  unnamed : ∃ arguments, Arguments.parse given = .ok arguments ∧ arguments.lexicon = .absent

/-- Without an option for the file, what is made on the way to a start is the directory for data. -/
theorem exists_make_of_prepare (unnamed : arguments.lexicon = .absent)
    (ready : prepare settings arguments tree = (.ok (), prepared)) :
    ∃ path, settings.dataPath = .ok path ∧ (tree.make path).1 = .ok () ∧
      (tree.make path).2 = prepared := by
  unfold prepare at ready
  rw [directoryToMake?, unnamed] at ready
  cases located : settings.dataPath with
  | error error =>
    rw [located] at ready
    cases ready
  | ok path =>
    simp only [located, Functor.map, Except.map] at ready
    split at ready
    case h_1 => cases ready
    case h_2 made making =>
      obtain ⟨-, rfl⟩ := Prod.mk.inj ready
      exact ⟨path, rfl, congrArg Prod.fst making, congrArg Prod.snd making⟩

/-- With an option for the file nothing is made. -/
theorem prepare_of_named (named : arguments.lexicon ≠ .absent) :
    prepare settings arguments tree = (.ok (), tree) := by
  have nothing : directoryToMake? settings arguments = .ok none := by
    unfold directoryToMake?
    split
    case h_1 absent => exact absurd absent named
    case h_2 => rfl
  rw [prepare, nothing]

theorem start_tree_of_not_usesDefault (elsewhere : ¬UsesDefault settings given) :
    (start settings given tree).2 = tree := by
  unfold start
  split
  case h_1 => rfl
  case h_2 => rfl
  case h_3 arguments accepted =>
    split
    case isTrue => rfl
    case isFalse sound =>
      have named : arguments.lexicon ≠ .absent := fun absent =>
        elsewhere ⟨Decidable.not_not.1 sound, arguments, accepted, absent⟩
      rw [prepare_of_named named]

/-- A launch that sees to the places that are set fails, or has made the directory for data. -/
theorem exists_make_of_usesDefault {clock : Clock} {typed : List Shell.Typed}
    (default : UsesDefault settings given)
    (unfailing : ∀ failure, (run room settings given clock typed tree).ending ≠ .failure failure) :
    ∃ path, settings.dataPath = .ok path ∧ (tree.make path).1 = .ok () ∧
      (tree.make path).2 = (run room settings given clock typed tree).tree := by
  obtain ⟨sound, arguments, accepted, unnamed⟩ := default
  have starts := starting accepted settings tree
  rw [run_tree]
  unfold run at unfailing
  generalize start settings given tree = outcome at starts unfailing
  cases starts with
  | issues found => exact absurd sound found
  | failure _ failed => exact absurd rfl (unfailing _)
  | sought _ ready _ => exact exists_make_of_prepare unnamed ready

/-- A launch that is stopped ends in the way of the stop. -/
theorem ending_of_stop {stop : Stop} (stopped : (start settings given tree).1 = .error stop)
    (room : Room) (clock : Clock) (typed : List Shell.Typed) :
    (run room settings given clock typed tree).ending = stop.ending := by
  unfold run
  split
  case h_1 started =>
    rw [started] at stopped
    cases stopped
    rfl
  case h_2 started =>
    rw [started] at stopped
    cases stopped

end WordSpace.Launch
