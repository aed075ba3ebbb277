import LintRunner.Issue
import LintRunner.Text.Quoted
import LintRunner.Text.Integer

/-!
# Failures

Every way in which an operation of the library can fail, as data. `Failure.message` is the one place
that words them.
-/

set_option autoImplicit false

namespace LintRunner

/-! ## Formats -/

/-- The fields of a format that may be asked for or repeated. -/
inductive Field where
  | filename
  | line
  | column
  | code
  | message
  deriving DecidableEq, Repr

def Field.name : Field → String
  | .filename => "Filename"
  | .line => "Line"
  | .column => "Column"
  | .code => "Code"
  | .message => "Message"

inductive FormatProblem where
  /-- Something that is no token, as it is shown. -/
  | unsupportedToken (shown : String)
  | missingField (field : Field)
  | repeatedField (field : Field)
  | twoSeverities
  | emptyLiteral
  | emptyPattern
  | unnamedMessage
  | duplicateMessage (name : String)
  | noEarlierMessage
  | unknownSource (name : String)
  /-- The text that all tokens give together is no pattern. -/
  | invalidPattern (source : String)
  deriving DecidableEq, Repr

def FormatProblem.message : FormatProblem → String
  | .unsupportedToken shown => s!"unsupported format token: {shown}"
  | .missingField field => s!"format requires a {field.name} token"
  | .repeatedField field => s!"format may contain at most one {field.name} token"
  | .twoSeverities => "format may contain at most one severity token"
  | .emptyLiteral => "literal tokens must not be empty"
  | .emptyPattern => "severity patterns must not be empty"
  | .unnamedMessage => "message tokens require a name"
  | .duplicateMessage name => s!"duplicate message name '{name}'"
  | .noEarlierMessage => "SeverityFromMessage must follow a Message token"
  | .unknownSource name => s!"SeverityFromMessage references unknown message '{name}'"
  | .invalidPattern source => s!"invalid format pattern {Text.quoted source}"

/-! ## Adapters -/

inductive SplitProblem where
  | openQuote
  | openEscape
  deriving DecidableEq, Repr

def SplitProblem.message : SplitProblem → String
  | .openQuote => "No closing quotation"
  | .openEscape => "No escaped character"

inductive AdapterProblem where
  | unnamed
  | noFormat (name : String)
  | noCommand
  | badTemplate (template : String) (problem : SplitProblem)
  deriving DecidableEq, Repr

def AdapterProblem.message : AdapterProblem → String
  | .unnamed => "adapter name must not be empty"
  | .noFormat name => s!"adapter '{name}' requires a FormatSpec"
  | .noCommand => "adapter command must not be empty"
  | .badTemplate template problem =>
      s!"invalid command template {Text.quoted template}: {problem.message}"

/-! ## Configuration -/

/-- The wording of a number that has too many digits to be read or written. -/
def tooManyDigits (digits : Option Nat) : String :=
  let size := (digits.map fun digits => s!": value has {digits} digits").getD ""
  s!"Exceeds the limit ({Text.maxDigits} digits) for integer string conversion" ++ size ++
    "; use sys.set_int_max_str_digits() to increase the limit"

inductive ConfigProblem where
  | noFile (path : String)
  | unreadable (path reason : String)
  | badToml (path : String)
  | badDocument (path : String) (issues : List Issue)
  | badFormat (problem : FormatProblem)
  | badAdapter (name : String) (problem : AdapterProblem)
  | unknownAdapter (name : String)
  | unknownLevel (word : String)
  | unknownPlaceholder (item : String)
  | mapNotTable
  /-- A level of a severity table, as it is shown. -/
  | badMap (shown : String)
  /-- A number of a severity table or its pattern has too many digits. -/
  | longMap
  /-- A table that describes no token, as it is shown. -/
  | unsupportedTable (shown : String)
  | codeNotTable
  | unknownCodeOptions (names : List String)
  deriving DecidableEq, Repr

def noSeverity (shown : String) : String := s!"{shown} is not a valid Severity"

def noAdapter (name : String) : String := s!"unknown adapter '{name}'"

def ConfigProblem.message : ConfigProblem → String
  | .noFile path => s!"configuration file {path} does not exist"
  | .unreadable path reason => s!"cannot read {path}: {reason}"
  | .badToml path => s!"invalid TOML in {path}"
  | .badDocument path _ => s!"invalid configuration in {path}"
  | .badFormat problem => problem.message
  | .badAdapter name problem => s!"adapter '{name}': {problem.message}"
  | .unknownAdapter name => noAdapter name
  | .unknownLevel word => s!"unknown severity level '{word}'"
  | .unknownPlaceholder item => s!"unknown format placeholder '{item}'"
  | .mapNotTable => "severity_pattern 'map' must be a table"
  | .badMap shown => s!"invalid severity_pattern map: {noSeverity shown}"
  | .longMap => s!"invalid severity_pattern map: {tooManyDigits none}"
  | .unsupportedTable shown => s!"unsupported format table {shown}"
  | .codeNotTable => "code options must be a table"
  | .unknownCodeOptions names => "unknown code options: " ++ String.intercalate ", " names

/-! ## Surroundings -/

inductive PlaceProblem where
  | nameTooLong
  | accessDenied
  deriving DecidableEq, Repr

inductive PrintProblem where
  /-- A text with markup closes a tag that is not open. -/
  | unbalancedMarkup
  | other
  deriving DecidableEq, Repr

/-! ## All failures -/

inductive Failure where
  /-- A word or value that names no severity, as it is shown. -/
  | unknownSeverity (shown : String)
  /-- A value that names no policy, as it is shown. -/
  | unknownPolicy (shown : String)
  | format (problem : FormatProblem)
  | adapter (problem : AdapterProblem)
  | duplicateAdapter (name : String)
  | unknownAdapter (name : String)
  | unsupportedLanguage (tag : String)
  | targetRequired (adapter : String)
  | toolNotStarted (executable reason : String)
  | emptyCommand
  | config (problem : ConfigProblem)
  | invalidDocument (issues : List Issue)
  /-- Bytes that are no text. -/
  | undecodable
  /-- A repetition count of a pattern is out of range. -/
  | countTooLarge
  /-- A number has more digits than may be read or written; of one that is read, how many. -/
  | digitLimit (digits : Option Nat)
  /-- A field of the format has no group in the pattern. -/
  | absentGroup
  /-- The group of a position took no part in a match. -/
  | absentPosition
  /-- The group of a severity took no part in a match. -/
  | absentLabel
  | unexamined (problem : PlaceProblem)
  | unprinted (problem : PrintProblem)
  /-- A field that is computed from others cannot be set. -/
  | computedField
  deriving DecidableEq, Repr

/-- The wording of a failure. Failures that are never shown have none. -/
def Failure.message : Failure → String
  | .unknownSeverity shown => noSeverity shown
  | .unknownPolicy shown => s!"{shown} is not a valid ToolErrorPolicy"
  | .format problem => problem.message
  | .adapter problem => problem.message
  | .duplicateAdapter name => s!"Adapter '{name}' already registered"
  | .unknownAdapter name => noAdapter name
  | .unsupportedLanguage tag => s!"no linters are configured for language '{tag}'"
  | .targetRequired name => s!"adapter '{name}' requires a target file"
  | .toolNotStarted executable reason => s!"cannot execute {executable} ({reason})"
  | .emptyCommand => "subprocess command requires at least one argument"
  | .config problem => problem.message
  | .digitLimit digits => tooManyDigits digits
  | .invalidDocument _ | .undecodable | .countTooLarge | .absentGroup | .absentPosition
  | .absentLabel | .unexamined _ | .unprinted _ | .computedField => ""

end LintRunner
