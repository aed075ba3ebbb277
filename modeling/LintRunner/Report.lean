import LintRunner.Diagnostic

/-!
# Reports

What a run gave, adapter by adapter.
-/

set_option autoImplicit false

namespace LintRunner

/-- What one adapter gave: the exit status of its tool and the diagnostics of its lines, or why the
tool was skipped. -/
structure Outcome where
  adapter : String
  status : Option Int := none
  diagnostics : List Diagnostic := []
  error : Option String := none
  deriving DecidableEq, Repr

def Outcome.failed (outcome : Outcome) : Bool := outcome.error.isSome

/-- The outcomes of the adapters of a language, in their order. -/
structure Report where
  language : String
  target : Option String := none
  outcomes : List Outcome := []
  deriving DecidableEq, Repr

namespace Report

def diagnostics (report : Report) : List Diagnostic := report.outcomes.flatMap Outcome.diagnostics

def hasErrors (report : Report) : Bool := report.diagnostics.any Diagnostic.isError

end Report

end LintRunner
