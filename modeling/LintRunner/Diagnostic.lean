import LintRunner.Severity

/-!
# Diagnostics

What one line of a tool's output says, in the form that all tools share.
-/

set_option autoImplicit false

namespace LintRunner

/-- One finding. Lines are counted from one. -/
structure Diagnostic where
  filename : String
  line : Nat
  column : Option Nat := none
  message : String
  severity : Severity
  code : Option String := none
  tool : Option String := none
  line_pos : 0 < line
  deriving DecidableEq, Repr

namespace Diagnostic

def isError (d : Diagnostic) : Bool := d.severity == .error

/-- Line and column counted from one; a column that is absent or zero counts as the first. -/
def location (d : Diagnostic) : Nat × Nat :=
  (d.line,
    match d.column with
    | none | some 0 => 1
    | some n => n)

def firstError? (ds : List Diagnostic) : Option Diagnostic := ds.find? isError

def errorCount (ds : List Diagnostic) : Nat := ds.countP isError

/-- The diagnostics of each file, the files in the order of their first diagnostic. -/
def byFile (ds : List Diagnostic) : List (String × List Diagnostic) :=
  ds.foldl (fun groups d => Ordered.push d.filename d groups) []

end Diagnostic

end LintRunner
