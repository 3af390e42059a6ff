import WordSpace.Text.Blank

/-!
Paths: names of files and directories, in a normal form.

A path begins at the working directory, at the root, or at the other root that exactly two slashes
name. Its parts are not empty and not a single point; a double point stays, since what it means
depends on the directories. A path that begins with a tilde can be expanded to one below a home
directory.
-/

namespace WordSpace

/-- Where a path begins. -/
inductive Path.Root where
  | working
  | slash
  | doubleSlash
  deriving DecidableEq, Repr

/-- A path: where it begins, and the parts that lead on from there. -/
structure Path where
  root : Path.Root
  parts : List String
  deriving DecidableEq, Repr

namespace Path

/-- The root that a number of slashes at the beginning stands for. -/
def Root.ofSlashes : Nat → Root
  | 0 => working
  | 2 => doubleSlash
  | _ => slash

/-- A root as it is written. -/
def Root.text : Root → String
  | working => ""
  | slash => "/"
  | doubleSlash => "//"

/-- Reads a path. -/
def ofText (text : String) : Path where
  root := .ofSlashes (text.toList.takeWhile (· == '/')).length
  parts := ((Text.splitOn '/' text.toList).map String.ofList).filter fun part =>
    part != "" && part != "."

/-- A path as it is written; the working directory is a point. -/
def text (path : Path) : String :=
  if path.root = .working ∧ path.parts = [] then "."
  else path.root.text ++ String.intercalate "/" path.parts

/-- The last part of a path. -/
def name (path : Path) : String := path.parts.getLast?.getD ""

/-- The path without its last part. -/
def parent (path : Path) : Path := { path with parts := path.parts.dropLast }

/-- The path with one more part. -/
def child (path : Path) (part : String) : Path := { path with parts := path.parts ++ [part] }

/-- The home directories that are known: that of the user, and those of all by their names. -/
structure Homes where
  own : Option String
  named : String → Option String

namespace Homes

/-- No home directory is known. -/
def unknown : Homes := ⟨none, fun _ => none⟩

/-- The home directories of accounts, in an environment that may say another one for the user. -/
def override (accounts : Homes) (home : Option String) : Homes :=
  { accounts with own := home <|> accounts.own }

/-- The home directory that the first part of a path asks for, of which the first character is a
tilde: with nothing behind it, that of the user. -/
def asked? (homes : Homes) (part : String) : Option String :=
  let name := String.ofList (part.toList.drop 1)
  if name = "" then homes.own else homes.named name

end Homes

/-- A home directory is asked for and not known. -/
inductive HomeUnknown where
  | homeUnknown
  deriving DecidableEq, Repr

/-- The text shown for an unknown home directory. -/
def HomeUnknown.message : HomeUnknown → String
  | .homeUnknown => "Could not determine home directory."

/-- A home directory without the slashes behind it, of which the root keeps one. -/
def homeText (home : String) : String :=
  let kept := (home.toList.reverse.dropWhile (· == '/')).reverse
  if kept.isEmpty then "/" else String.ofList kept

/-- Whether a part begins with a tilde. -/
def isHomePart (part : String) : Bool := part.toList.head? == some '~'

/-- Puts the home directory for a first part that asks for one. What is known of it may not begin
with a tilde again. -/
def expand (homes : Homes) (path : Path) : Except HomeUnknown Path :=
  match path.root, path.parts with
  | .working, first :: rest =>
    if !isHomePart first then .ok path
    else match homes.asked? first with
      | none => .error .homeUnknown
      | some directory =>
        if isHomePart (homeText directory) then .error .homeUnknown
        else
          let base := ofText (homeText directory)
          .ok { base with parts := base.parts ++ rest }
  | _, _ => .ok path

end Path

end WordSpace
