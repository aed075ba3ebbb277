import LintRunner.Failure
import LintRunner.Path

/-!
# Directories

The files and directories below the current one, as data. A path leads from there step by step; two
dots lead back, but not out of the current directory. Some places cannot be examined: their names are
too long, or they lie in a closed directory.
-/

set_option autoImplicit false

namespace LintRunner

/-- What reading a file gives: its bytes, or the reason why it cannot be read. -/
inductive Contents where
  | bytes (bytes : List UInt8)
  | unreadable (reason : String)
  deriving DecidableEq, Repr

/-- Files and directories by the parts of their paths. Directories that hold a listed file or
directory need not be listed. What lies in a closed directory cannot be examined. -/
structure Directory where
  files : List (List String × Contents)
  directories : List (List String) := []
  closed : List (List String) := []
  deriving DecidableEq, Repr

namespace Directory

inductive Entry where
  | file (contents : Contents)
  | directory
  | closed
  deriving DecidableEq, Repr

def entry? (dir : Directory) (parts : List String) : Option Entry :=
  match dir.files.find? fun file => file.1 == parts with
  | some file => some (.file file.2)
  | none =>
      if dir.closed.contains parts then some .closed
      else if parts.isEmpty || dir.directories.any parts.isPrefixOf ||
          dir.files.any fun file => parts.isPrefixOf file.1
      then some .directory
      else none

def maxName : Nat := 255

def maxPath : Nat := 4095

/-- Follows the parts of a path from a place on, where every place on the way is a directory. -/
def walk (dir : Directory) : List String → List String → Except PlaceProblem (Option Entry)
  | place, [] => .ok (dir.entry? place)
  | place, part :: rest =>
      match dir.entry? place with
      | some .directory =>
          if part == ".." then (if place.isEmpty then .ok none else walk dir place.dropLast rest)
          else if maxName < part.utf8ByteSize then .error .nameTooLong
          else walk dir (place ++ [part]) rest
      | some .closed => .error .accessDenied
      | _ => .ok none

/-- What lies at a path. There is nothing at the root, and nothing where a path holds a NUL. -/
def examine (dir : Directory) (path : Path) : Except PlaceProblem (Option Entry) :=
  if path.text.toList.contains '\x00' then .ok none
  else if maxPath < path.text.utf8ByteSize then .error .nameTooLong
  else if path.isAbsolute then ({ files := [] } : Directory).walk [] path.parts
  else dir.walk [] path.parts

def fileAt (dir : Directory) (path : Path) : Except PlaceProblem (Option Contents) :=
  (dir.examine path).map fun
    | some (.file contents) => some contents
    | _ => none

def file? (dir : Directory) (path : Path) : Option Contents :=
  match dir.fileAt path with
  | .ok contents => contents
  | .error _ => none

end Directory

end LintRunner
