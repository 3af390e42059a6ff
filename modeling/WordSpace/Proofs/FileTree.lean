import WordSpace.FileTree

/-!
What making directories changes, and what it leaves as it is.

All files stay, and all directories that there are (`FileTree.extends_make`). Where a directory is
made without an error, the directories that come to those are the places that the beginnings of its
path lead to (`FileTree.isDirectory_make_iff`). The tree stays one in which every directory is in a
directory (`FileTree.IsSound`).
-/

namespace WordSpace.FileTree

/-- A tree that has the files of another one, and all of its directories. -/
structure Extends (tree later : FileTree) : Prop where
  files : later.files = tree.files
  working : later.working = tree.working
  directories : tree.directories <:+ later.directories

theorem Extends.refl (tree : FileTree) : Extends tree tree := ⟨rfl, rfl, List.suffix_rfl⟩

theorem extends_makeFrom (tree : FileTree) (place : Place) (making : Bool) (parts : List String) :
    Extends tree (tree.makeFrom place making parts).2 := by
  fun_induction makeFrom tree place making parts
  case case1 | case3 | case5 => exact .refl _
  case case2 ih => exact ih
  case case4 => rename_i ih; exact ih
  case case6 =>
    rename_i ih
    exact ⟨ih.files, ih.working, (List.suffix_cons _ _).trans ih.directories⟩

theorem extends_make (tree : FileTree) (path : Path) : Extends tree (tree.make path).2 := by
  unfold make
  split
  case isTrue => exact .refl tree
  case isFalse => exact extends_makeFrom tree _ false path.parts

/-! ## What is made -/

/-- A tree in which every directory is in a directory, and paths begin at one. -/
structure IsSound (tree : FileTree) : Prop where
  working : tree.isDirectory tree.working
  parent : ∀ place, tree.isDirectory place → tree.isDirectory place.parent

/-- The place that parts of a path lead to from a place, whatever is there. -/
def placeAlong (place : Place) : List String → Place
  | [] => place
  | ".." :: rest => placeAlong place.parent rest
  | part :: rest => placeAlong (place.child part) rest

theorem placeAlong_cons {part : String} (named : part ≠ "..") {place : Place}
    (rest : List String) :
    placeAlong place (part :: rest) = placeAlong (place.child part) rest := by
  simp only [placeAlong]

/-- A beginning of a path leads from one place to another. -/
def IsAlong (place : Place) (parts : List String) (other : Place) : Prop :=
  ∃ front, front <+: parts ∧ placeAlong place front = other

theorem isAlong_self (place : Place) (parts : List String) : IsAlong place parts place :=
  ⟨[], List.nil_prefix, rfl⟩

/-- The beginnings of a path are the empty one and those that go on behind its first part. -/
theorem isAlong_cons_iff {part : String} {rest : List String} {place next other : Place}
    (leads : ∀ front, placeAlong place (part :: front) = placeAlong next front) :
    IsAlong place (part :: rest) other ↔ place = other ∨ IsAlong next rest other := by
  constructor
  case mp =>
    rintro ⟨front, begins, reaches⟩
    obtain rfl | ⟨others, rfl, begins⟩ := List.prefix_cons_iff.1 begins
    · exact .inl reaches
    · rw [leads] at reaches
      exact .inr ⟨others, (List.prefix_cons_inj part).1 begins, reaches⟩
  case mpr =>
    rintro (rfl | ⟨front, begins, reaches⟩)
    · exact isAlong_self place _
    · exact ⟨part :: front, (List.prefix_cons_inj part).2 begins, (leads front).trans reaches⟩

section

variable {tree : FileTree} {place other : Place} {path : Path}

theorem isDirectory_start (sound : tree.IsSound) (path : Path) :
    tree.isDirectory (tree.start path) := by
  unfold start
  split
  case isTrue => exact sound.working
  case isFalse => rfl

theorem isDirectory_cons_iff {made : Place} :
    isDirectory { tree with directories := made :: tree.directories } other ↔
      made = other ∨ tree.isDirectory other := by
  simp only [isDirectory, List.contains_cons, Bool.or_eq_true, beq_iff_eq, decide_eq_true_eq]
  rw [or_left_comm, eq_comm]

/-- A directory that is made in a directory leaves the tree sound. -/
theorem IsSound.cons (sound : tree.IsSound) (here : tree.isDirectory place) (name : String) :
    IsSound { tree with directories := place.child name :: tree.directories } := by
  constructor
  case working => exact isDirectory_cons_iff.2 (.inr sound.working)
  case parent =>
    intro other there
    obtain rfl | there := isDirectory_cons_iff.1 there
    · rw [Place.parent_child]
      exact isDirectory_cons_iff.2 (.inr here)
    · exact isDirectory_cons_iff.2 (.inr (sound.parent other there))

/-- Behind a directory nothing is missing but what is missing on the way on. -/
theorem isDirectory_or_isAlong_cons_iff (here : tree.isDirectory place) {part : String}
    {rest : List String} {next : Place}
    (leads : ∀ front, placeAlong place (part :: front) = placeAlong next front) :
    tree.isDirectory other ∨ IsAlong place (part :: rest) other ↔
      tree.isDirectory other ∨ IsAlong next rest other := by
  rw [isAlong_cons_iff leads, ← or_assoc]
  refine or_congr_left (or_iff_left_of_imp ?_)
  rintro rfl
  exact here

/-- Making directories along parts of a path makes the places that the beginnings of these parts
lead to, as far as they are missing. -/
theorem isDirectory_makeFrom_iff {making : Bool} {parts : List String} (sound : tree.IsSound)
    (here : tree.isDirectory place) (made : (tree.makeFrom place making parts).1 = .ok ()) :
    (tree.makeFrom place making parts).2.IsSound ∧
      ∀ other, (tree.makeFrom place making parts).2.isDirectory other ↔
        tree.isDirectory other ∨ IsAlong place parts other := by
  fun_induction makeFrom tree place making parts
  case case1 tree place _ =>
    refine ⟨sound, fun other => (or_iff_left_of_imp ?_).symm⟩
    rintro ⟨front, begins, rfl⟩
    rw [List.prefix_nil.1 begins]
    exact here
  case case2 ih =>
    obtain ⟨kept, behind⟩ := ih sound (sound.parent _ here) made
    refine ⟨kept, fun other => ?_⟩
    rw [behind, isDirectory_or_isAlong_cons_iff here fun _ => rfl]
  case case3 | case5 => cases made
  case case4 named _ _ there ih =>
    obtain ⟨kept, behind⟩ := ih sound there made
    refine ⟨kept, fun other => ?_⟩
    rw [behind, isDirectory_or_isAlong_cons_iff here (placeAlong_cons named)]
  case case6 named _ _ _ _ ih =>
    obtain ⟨kept, behind⟩ := ih (sound.cons here _) (isDirectory_cons_iff.2 (.inl rfl)) made
    refine ⟨kept, fun other => ?_⟩
    rw [behind, isDirectory_or_isAlong_cons_iff here (placeAlong_cons named), isDirectory_cons_iff,
      or_assoc]
    refine or_iff_right_of_imp ?_
    rintro rfl
    exact .inr (isAlong_self _ _)

/-- The directories behind a directory that is made are those that were there, and the places that
the beginnings of its path lead to. -/
theorem isDirectory_make_iff (sound : tree.IsSound) (made : (tree.make path).1 = .ok ()) :
    (tree.make path).2.IsSound ∧
      ∀ other, (tree.make path).2.isDirectory other ↔
        tree.isDirectory other ∨ IsAlong (tree.start path) path.parts other := by
  unfold make at made ⊢
  split at made
  case isTrue => cases made
  case isFalse short =>
    rw [if_neg short]
    exact isDirectory_makeFrom_iff sound (isDirectory_start sound path) made

end

end WordSpace.FileTree
