import LintRunner.Failure
import LintRunner.Policy
import LintRunner.Severity
import LintRunner.Value

/-!
# Choices by word

Severities and policies from values, which must be the words for them.
-/

set_option autoImplicit false

namespace LintRunner

def Severity.ofValue? : Value → Option Severity
  | .string word => Severity.ofName? word
  | _ => none

def Severity.ofValue (value : Value) : Except Failure Severity :=
  match Severity.ofValue? value with
  | some severity => .ok severity
  | none => .error (.unknownSeverity value.shown)

def Policy.ofValue? : Value → Option Policy
  | .string word => Policy.ofName? word
  | _ => none

def Policy.ofValue (value : Value) : Except Failure Policy :=
  match Policy.ofValue? value with
  | some policy => .ok policy
  | none => .error (.unknownPolicy value.shown)

end LintRunner
