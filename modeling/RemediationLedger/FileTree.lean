/-
Trees of files, and reading a file by its path.

A path is followed name by name, from the root if it starts with a slash and
otherwise from the working directory. Each step needs a directory to be made in,
so whatever is wrong first along the path is the fault that is told.

The tree is a function from places to entries. There are no links in it, and so
the place above a place is always the one with the last name taken off.

* `FileTree.walk` follows a path by recursion on its names. An empty name, as it
  stands between two slashes or at the end, and a dot stay where they are, but
  they too need a directory: a path to a file with a slash behind it leads
  nowhere.
* `FileTree.read` looks at what stands at the end of the path, and
  `FileTree.readText` asks for UTF-8 on top of that.

Names and paths have greatest lengths, counted in bytes; a path that is too long
is refused before any step is made.
-/

namespace RemediationLedger

inductive ReadFault where
  | nulInPath
  | notFound
  /-- A name is too long, or the whole path is. -/
  | nameTooLong
  /-- The path leads on through a file. -/
  | notDirectory
  /-- The path ends at a directory. -/
  | isDirectory
  | notUtf8
  deriving DecidableEq, Repr

def ReadFault.message : ReadFault → String
  | nulInPath => "file name contained an unexpected NUL byte"
  | notFound => "No such file or directory (os error 2)"
  | nameTooLong => "File name too long (os error 36)"
  | notDirectory => "Not a directory (os error 20)"
  | isDirectory => "Is a directory (os error 21)"
  | notUtf8 => "stream did not contain valid UTF-8"

inductive FileEntry where
  | file (content : ByteArray)
  | directory

/-- A place in a tree: the names that lead to it from the root, the last of them first. -/
abbrev Place := List String

structure FileTree where
  /-- What stands at each place. -/
  entry? : Place → Option FileEntry
  /-- The place where a path starts that does not start at the root. -/
  workingDirectory : Place

namespace FileTree

def maxNameBytes : Nat := 255

def maxPathBytes : Nat := 4095

/-- Follows names from a place. An empty name and a dot stay there and two dots lead to the place
above, but they too need a directory. -/
def walk (t : FileTree) (place : Place) : List String → Except ReadFault Place
  | [] => .ok place
  | name :: names =>
    match t.entry? place with
    | none => .error .notFound
    | some (.file _) => .error .notDirectory
    | some .directory =>
      if name = "" ∨ name = "." then t.walk place names
      else if name = ".." then t.walk place.tail names
      else if maxNameBytes < name.utf8ByteSize then .error .nameTooLong
      else t.walk (name :: place) names

def read (t : FileTree) (path : String) : Except ReadFault ByteArray :=
  if path.toList.any fun c => c.toNat = 0 then .error .nulInPath
  else if maxPathBytes < path.utf8ByteSize then .error .nameTooLong
  else if path = "" then .error .notFound
  else
    let start := if path.toList.head? = some '/' then [] else t.workingDirectory
    match t.walk start (path.splitOn "/") with
    | .error fault => .error fault
    | .ok place =>
      match t.entry? place with
      | none => .error .notFound
      | some .directory => .error .isDirectory
      | some (.file content) => .ok content

def readText (t : FileTree) (path : String) : Except ReadFault String :=
  match t.read path with
  | .error fault => .error fault
  | .ok content =>
    match String.fromUTF8? content with
    | none => .error .notUtf8
    | some text => .ok text

end FileTree

end RemediationLedger
