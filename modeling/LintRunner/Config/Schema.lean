import LintRunner.Adapter
import LintRunner.Checked
import LintRunner.Policy
import LintRunner.Registry

/-!
# Configurations

What a configuration says once it has been checked: what to do about tools that do not start, which
adapters are run for which language, and adapters of the user's own. Their formats are still in the
notation of the configuration.
-/

set_option autoImplicit false

namespace LintRunner

/-- Which characters are skipped before the severity word of a message. -/
inductive SkipChoice where
  | blanks
  | punctuation
  deriving DecidableEq, Repr

namespace SkipChoice

def name : SkipChoice → String
  | blanks => "whitespace"
  | punctuation => "punctuation"

def ofName? : String → Option SkipChoice
  | "whitespace" => some blanks
  | "punctuation" => some punctuation
  | _ => none

def classifier : SkipChoice → Classifier
  | blanks => Classifier.blanks
  | punctuation => Classifier.punctuation

end SkipChoice

inductive FormatItem where
  | text (s : String)
  | table (entries : List (String × Value))

structure AdapterEntry where
  command : Command
  format : List FormatItem
  skip : SkipChoice := .blanks
  fallback : Severity := .warning
  description : String := ""

/-- A configuration; without a file it has none of its own. -/
structure Config where
  policy : Policy := .abort
  languages : Languages := []
  adapters : List (String × AdapterEntry) := []

/-! ## Checks -/

def Command.check (value : Value) : Checked Command :=
  Checked.either "str" (Command.template <$> Checked.string value)
    "list[str]" (Command.words <$> Checked.list Checked.string value)

def FormatItem.check (value : Value) : Checked FormatItem :=
  Checked.either "str" (FormatItem.text <$> Checked.string value)
    "dict[str,any]" (FormatItem.table <$> Checked.table Checked.ok value)

def AdapterEntry.check : Value → Checked AdapterEntry :=
  Checked.record fun entries =>
    (fun command format skip fallback description (_ : Unit) =>
        { command, format, skip, fallback, description })
      <$> Checked.required entries "command" Command.check
      <*> Checked.required entries "format" (Checked.list FormatItem.check)
      <*> Checked.optional entries "severity_strip" SkipChoice.blanks
        (Checked.word .literalError SkipChoice.ofName?)
      <*> Checked.optional entries "default_severity" Severity.warning
        (Checked.word .enum Severity.ofName?)
      <*> Checked.optional entries "description" "" Checked.string
      <*> Checked.noOthers
        ["command", "format", "severity_strip", "default_severity", "description"] entries

def Config.check : Value → Checked Config :=
  Checked.record fun entries =>
    (fun policy languages adapters (_ : Unit) => { policy, languages, adapters })
      <$> Checked.optional entries "on_tool_error" Policy.abort
        (Checked.word .enum Policy.ofName?)
      <*> Checked.optional entries "languages" []
        (Checked.table (Checked.list Checked.string))
      <*> Checked.optional entries "adapters" [] (Checked.table AdapterEntry.check)
      <*> Checked.noOthers ["on_tool_error", "languages", "adapters"] entries

/-! ## Keys -/

/-- A key with low lines for hyphens. -/
def snakeCase (key : String) : String :=
  String.ofList (key.toList.map fun c => if c == '-' then '_' else c)

/-- The entries of a table under their keys with low lines; of equal keys the last one counts. -/
def snakeKeys (entries : List (String × Value)) : List (String × Value) :=
  Ordered.ofList (entries.map fun (key, value) => (snakeCase key, value))

/-- Writes low lines for hyphens in the keys of a configuration and of its adapters. Names of
adapters and everything below their keys stay. -/
def normalizeKeys (entries : List (String × Value)) : List (String × Value) :=
  Ordered.ofList (entries.map fun (key, value) =>
    let value' :=
      match snakeCase key, value with
      | "adapters", .table adapters =>
          .table (adapters.map fun (name, entry) =>
            (name,
              match entry with
              | .table options => .table (snakeKeys options)
              | other => other))
      | _, other => other
    (snakeCase key, value'))

end LintRunner
