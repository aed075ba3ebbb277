import LintRunner.Text.Width

/-!
# Messages

What is said to the person at the terminal, apart from diagnostics.
-/

set_option autoImplicit false

namespace LintRunner

inductive MessageKind where
  | info
  | ok
  | warn
  | fail
  deriving DecidableEq, Repr

namespace MessageKind

def ofName? : String → Option MessageKind
  | "info" => some info
  | "ok" => some ok
  | "warn" => some warn
  | "fail" => some fail
  | _ => none

def sign : MessageKind → String
  | info => "ℹ\ufe0f "
  | ok => "✅ "
  | warn => "⚠\ufe0f "
  | fail => "❌ "

end MessageKind

/-- A message on a line of its own, with a sign in front if signs are wanted. -/
def messageText (kind : MessageKind) (signs : Bool) (text : String) : String :=
  let whole := (if signs then kind.sign else "") ++ text
  String.ofList (Text.displayed whole.toList) ++ "\n"

end LintRunner
