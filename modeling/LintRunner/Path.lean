import LintRunner.Text.Lines

/-!
# Paths

A path is a root and a list of parts. Repeated slashes and parts that are a single dot are dropped
when a path is read; parts that are two dots stay. Two slashes in front, and no more than two, are a
root of their own.
-/

set_option autoImplicit false

namespace LintRunner

inductive Root where
  | relative
  | single
  | double
  deriving DecidableEq, Repr

structure Path where
  root : Root
  parts : List String
  deriving DecidableEq, Repr

namespace Path

def rootText : Root → String
  | .relative => ""
  | .single => "/"
  | .double => "//"

/-- The root of a text, which the slashes in front decide on. -/
def rootOf : List Char → Root
  | '/' :: '/' :: '/' :: _ => .single
  | '/' :: '/' :: _ => .double
  | '/' :: _ => .single
  | _ => .relative

def partsOf (cs : List Char) : List String :=
  ((Text.splitOnChar '/' cs).map String.ofList).filter fun part => part != "" && part != "."

def ofString (s : String) : Path := { root := rootOf s.toList, parts := partsOf s.toList }

/-- The text of a path; the empty path is a dot. -/
def text (p : Path) : String :=
  if p.root == .relative && p.parts.isEmpty then "."
  else rootText p.root ++ String.intercalate "/" p.parts

def isAbsolute (p : Path) : Bool := p.root != .relative

def child (p : Path) (name : String) : Path := { p with parts := p.parts ++ [name] }

def name (p : Path) : String := p.parts.getLast?.getD ""

/-- Whether a path is a single relative name, or empty. -/
def isBare (p : Path) : Bool := p.root == .relative && p.parts.length ≤ 1

/-- The part of a name from its last dot on, unless the dot is its first or last character. -/
def suffixOf (name : List Char) : List Char :=
  let tail := (name.reverse.takeWhile fun c => c != '.').reverse
  if tail.length + 1 < name.length && !tail.isEmpty then '.' :: tail else []

def suffix (p : Path) : String := String.ofList (suffixOf p.name.toList)

end Path

end LintRunner
