import StoryWorld.Command.Run

/-!
# A directory as a value

A directory holds text files by name and nothing else. A path names a file of the directory if it
consists of the name alone, apart from steps that stay where they are; names and paths have no NUL
and are not too long. Commands that are carried out in a directory leave the files that they have
written in it.
-/

set_option autoImplicit false

namespace StoryWorld.Command

/-- Text files by name. -/
abbrev Directory := Table String String

namespace Directory

/-- The parts of a path between slashes. -/
def pathParts (path : String) : List (List Char) :=
  path.toList.foldr
    (fun c parts =>
      match c, parts with
      | '/', parts => [] :: parts
      | c, part :: parts => (c :: part) :: parts
      | c, [] => [[c]])
    [[]]

/-- The greatest number of bytes in the name of a file. -/
def nameLimit : Nat := 255

/-- The greatest number of bytes in a path. -/
def pathLimit : Nat := 4095

/-- Whether a part of a path can be the name of a file. -/
def isName (part : List Char) : Bool :=
  !part.isEmpty && part != ['.'] && part != ['.', '.'] && !part.contains '\x00' &&
    decide ((String.ofList part).utf8ByteSize ≤ nameLimit)

/-- The name of the file that a path leads to. A path from the root and a path through another
directory lead to none. -/
def fileName? (path : String) : Option String :=
  if pathLimit < path.utf8ByteSize then none
  else
    match pathParts path with
    | [] :: _ => none
    | parts =>
      match parts.dropLast.filter (fun part => part ≠ [] ∧ part ≠ ['.']), parts.getLast? with
      | [], some name => if isName name then some (String.ofList name) else none
      | _, _ => none

/-- Reading and writing in a directory. -/
def files : Files (StateM Directory) where
  read path := do
    let directory ← get
    return (fileName? path).bind directory.get?
  write path text := do
    match fileName? path with
    | none => return false
    | some name =>
      modify fun directory => directory.insert name text
      return true

/-- Carries out what has been asked in a directory. -/
def run (directory : Directory) (invocation : Invocation) : Except Failure Effect × Directory :=
  (Command.run files invocation).run.run directory

end Directory

end StoryWorld.Command
