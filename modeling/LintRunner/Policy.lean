/-!
# Policies

What a run does about a tool that cannot be started: it ends there, or it goes on with the next tool.
-/

set_option autoImplicit false

namespace LintRunner

/-- What to do if a tool cannot be started. -/
inductive Policy where
  | abort
  | skip
  deriving DecidableEq, Repr

def Policy.name : Policy → String
  | .abort => "abort"
  | .skip => "skip"

def Policy.ofName? : String → Option Policy
  | "abort" => some .abort
  | "skip" => some .skip
  | _ => none

end LintRunner
