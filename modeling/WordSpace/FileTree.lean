import WordSpace.Path

/-!
File trees: directories and files, and what paths find among them.

A path is followed part by part: a double point leads to the directory above, and no part leads on
from a file. A part that is too long is refused where it is looked for, a path that is too long as a
whole before anything is. Directories are made with all that is missing above them; nothing is ever
removed.
-/

namespace WordSpace

/-! ## Places -/

/-- Where a file or a directory is: the names that lead to it from the root, the last one first, and
how many there are, which tells most places apart at once. -/
structure Place where
  depth : Nat
  inward : List String
  depth_eq : depth = inward.length
  deriving DecidableEq, Repr

namespace Place

/-- The place of all others. -/
def root : Place := ⟨0, [], rfl⟩

/-- The place of a name in the directory at a place. -/
def child (place : Place) (name : String) : Place :=
  ⟨place.depth + 1, name :: place.inward, by simp [place.depth_eq]⟩

/-- The place above a place; nothing is above the root. -/
def parent (place : Place) : Place :=
  ⟨place.depth - 1, place.inward.tail, by simp [place.depth_eq]⟩

/-- The names that lead to a place from the root. -/
def names (place : Place) : List String := place.inward.reverse

@[simp] theorem names_root : root.names = [] := rfl

@[simp] theorem names_child (place : Place) (name : String) :
    (place.child name).names = place.names ++ [name] := by
  simp [child, names]

@[simp] theorem parent_child (place : Place) (name : String) :
    (place.child name).parent = place := by
  simp [child, parent]

/-- The names that lead to a place tell it from all others. -/
theorem names_inj {a b : Place} : a.names = b.names ↔ a = b := by
  constructor
  · intro same
    rcases a with ⟨_, a, rfl⟩
    rcases b with ⟨_, b, rfl⟩
    have inward : a = b := List.reverse_inj.1 same
    subst inward
    rfl
  · exact congrArg names

end Place

/-! ## What there is -/

/-- What a file gives to a reader: bytes, or only the reason why it cannot be read. -/
inductive FileTree.Content where
  | bytes (bytes : List UInt8)
  | unreadable (reason : String)
  deriving DecidableEq, Repr

/-- Directories and the contents of files, and the directory that paths begin at. -/
structure FileTree where
  directories : List Place
  files : List (Place × FileTree.Content)
  working : Place

namespace FileTree

/-- The most bytes in UTF-8 that the name of a file or a directory can have. -/
def maxNameBytes : Nat := 255

/-- The most bytes in UTF-8 that a path can have. -/
def maxPathBytes : Nat := 4095

/-- Whether a place is a directory. The root is always one. -/
def isDirectory (tree : FileTree) (place : Place) : Bool :=
  place = .root || tree.directories.contains place

/-- Where a path begins. -/
def start (tree : FileTree) (path : Path) : Place :=
  if path.root = .working then tree.working else .root

/-! ## Following paths -/

/-- What a path leads to. -/
inductive Found where
  | directory (place : Place)
  | file (place : Place) (content : Content)
  /-- Nothing, in a directory where something could be. -/
  | vacant (place : Place)
  /-- Nothing, since a directory on the way is missing. -/
  | missing
  /-- Nothing, since there is a file where a directory is needed. -/
  | blocked
  /-- Nothing, since a name is longer than names can be. -/
  | tooLong
  deriving DecidableEq

/-- Follows parts of a path from a directory on. -/
def follow (tree : FileTree) (place : Place) : List String → Found
  | [] => .directory place
  | ".." :: rest => tree.follow place.parent rest
  | part :: rest =>
    let next := place.child part
    if maxNameBytes < part.utf8ByteSize then .tooLong
    else if tree.isDirectory next then tree.follow next rest
    else match tree.files.lookup next, rest with
      | some content, [] => .file next content
      | some _, _ :: _ => .blocked
      | none, [] => .vacant next
      | none, _ :: _ => .missing

/-- What a path leads to. No name holds a null character, so a path with one leads to nothing,
however long it is. -/
def find (tree : FileTree) (path : Path) : Found :=
  if path.text.contains '\x00' then .missing
  else if maxPathBytes < path.text.utf8ByteSize then .tooLong
  else tree.follow (tree.start path) path.parts

/-- A name is longer than names can be. -/
inductive NameTooLong where
  | nameTooLong
  deriving DecidableEq, Repr

/-- The content of the file that a path leads to, if it leads to one. -/
def content? (tree : FileTree) (path : Path) : Except NameTooLong (Option Content) :=
  match tree.find path with
  | .file _ content => .ok (some content)
  | .tooLong => .error .nameTooLong
  | _ => .ok none

/-- Whether a path leads to a file. -/
def isFile (tree : FileTree) (path : Path) : Except NameTooLong Bool :=
  Option.isSome <$> tree.content? path

/-! ## Making directories -/

/-- Why a directory cannot be made. -/
inductive MakeError where
  /-- There is a file in its place, or in that of a directory above it that was to be made. -/
  | fileExists
  /-- There is a file in the place of a directory above it. -/
  | notDirectory
  /-- Its name, or that of a directory above it, is longer than names can be. -/
  | nameTooLong
  deriving DecidableEq, Repr

/-- Makes the directories on the way that parts of a path lead from a directory on, as far as they
are missing. Behind the first missing one every directory is made by itself, and `making` is true:
there a file is in the place of the directory that is being made. -/
def makeFrom (tree : FileTree) (place : Place) (making : Bool) :
    List String → Except MakeError Unit × FileTree
  | [] => (.ok (), tree)
  | ".." :: rest => tree.makeFrom place.parent making rest
  | part :: rest =>
    let next := place.child part
    if maxNameBytes < part.utf8ByteSize then (.error .nameTooLong, tree)
    else if tree.isDirectory next then tree.makeFrom next making rest
    else match tree.files.lookup next with
      | some _ => (.error (if making || rest.isEmpty then .fileExists else .notDirectory), tree)
      | none => makeFrom { tree with directories := next :: tree.directories } next true rest

/-- Makes a directory, and first the directories above it that are missing. Where that fails, the
directories that were made stay. -/
def make (tree : FileTree) (path : Path) : Except MakeError Unit × FileTree :=
  if maxPathBytes < path.text.utf8ByteSize then (.error .nameTooLong, tree)
  else tree.makeFrom (tree.start path) false path.parts

/-- Puts a file with some bytes into a tree, with the directories above it, unless something is in
its place. -/
def addFile (tree : FileTree) (path : Path) (bytes : List UInt8) : FileTree :=
  let made := (tree.make path.parent).2
  match made.find path with
  | .vacant place => { made with files := made.files ++ [(place, .bytes bytes)] }
  | _ => made

/-- The directories below the working directory, each by the names that lead to it from there. -/
def directoriesBelow (tree : FileTree) : List (List String) :=
  tree.directories.filterMap fun place =>
    if tree.working.names.isPrefixOf place.names ∧ place ≠ tree.working then
      some (place.names.drop tree.working.depth)
    else none

end FileTree

end WordSpace
