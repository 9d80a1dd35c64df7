import CaptureProtocol.Record.Bytes

/-!
# Files

The files that a command can read: a tree of named bytes with a working directory in it. A path is
followed name by name, from the root if it begins with a slash and else from the working directory.
Only a directory can be followed further, so that a file with a slash behind it is refused.

* `read`: the bytes of the file that a path leads to, or why there are none.
-/

set_option autoImplicit false

namespace CaptureProtocol.CommandLine

/-- Why a file cannot be read. -/
inductive FileError where
  /-- Nothing has the name. -/
  | notFound
  /-- The file may not be read. -/
  | denied
  /-- The path goes on behind a file. -/
  | notADirectory
  /-- The path leads to a directory. -/
  | isADirectory
  /-- The path or one of its names is too long. -/
  | nameTooLong
  /-- Another reason. -/
  | other (reason : String)
  deriving DecidableEq, Repr

/-- The error in the words of the system. -/
def FileError.message : FileError → String
  | notFound => "No such file or directory (os error 2)"
  | denied => "Permission denied (os error 13)"
  | notADirectory => "Not a directory (os error 20)"
  | isADirectory => "Is a directory (os error 21)"
  | nameTooLong => "File name too long (os error 36)"
  | other reason => reason

/-- A place in a tree: the names on the way to it from the root. -/
abbrev Place := List String

/-- Files at their places, and a working directory. What lies above a file is a directory. -/
structure FileTree where
  files : List (Place × Bytes) := []
  workingDirectory : Place := []

namespace FileTree

/-- The longest name in bytes. -/
def maxNameBytes : Nat := 255

/-- The longest path in bytes. -/
def maxPathBytes : Nat := 4095

/-- The names of a path. A slash at its end leaves an empty name. -/
def names (path : String) : List String := path.splitOn "/"

/-- Whether a place is a directory: the working directory, or above it, or above a file. -/
def isDirectory (t : FileTree) (place : Place) : Bool :=
  place.isPrefixOf t.workingDirectory ||
    t.files.any fun file => place.isPrefixOf file.1 && place != file.1

/-- The bytes of the file at a place. -/
def file? (t : FileTree) (place : Place) : Option Bytes := t.files.lookup place

/-- Where a name leads to. An empty name and a dot lead nowhere else, two dots lead up. -/
def step (t : FileTree) (here : Place) (name : String) : Except FileError Place :=
  if !t.isDirectory here then .error .notADirectory
  else if name = "" ∨ name = "." then .ok here
  else if name = ".." then .ok here.dropLast
  else if maxNameBytes < name.utf8ByteSize then .error .nameTooLong
  else if t.isDirectory (here ++ [name]) ∨ (t.file? (here ++ [name])).isSome then
    .ok (here ++ [name])
  else .error .notFound

/-- Where a path leads to. -/
def locate (t : FileTree) (path : String) : Except FileError Place :=
  if path = "" then .error .notFound
  else if maxPathBytes < path.utf8ByteSize then .error .nameTooLong
  else (names path).foldlM t.step (if path.startsWith "/" then [] else t.workingDirectory)

/-- The bytes of the file that a path leads to. -/
def read (t : FileTree) (path : String) : Except FileError Bytes := do
  match t.file? (← t.locate path) with
  | some bytes => .ok bytes
  | none => .error .isADirectory

end FileTree

end CaptureProtocol.CommandLine
