import LintRunner.Text.Case
import LintRunner.Text.Quoted
import LintRunner.Ordered

/-!
# Severities

The three severities, and the two ways in which a tool's text is given one of them: by the word that
the text begins with (`Classifier.classify`), and by a table of the tool's own labels that falls back
to the first way (`severityOfLabel`).
-/

set_option autoImplicit false

namespace LintRunner

open LintRunner.Text

inductive Severity where
  | info
  | warning
  | error
  deriving DecidableEq, Repr

namespace Severity

def name : Severity → String
  | info => "info"
  | warning => "warning"
  | error => "error"

def ofName? : String → Option Severity
  | "info" => some info
  | "warning" => some warning
  | "error" => some error
  | _ => none

def color : Severity → String
  | info => "#ddcc88"
  | warning => "#ffaf00"
  | error => "#db0000"

end Severity

/-- A severity that is given by a word; whether the word names one is asked where it is used. -/
inductive Level where
  | known (severity : Severity)
  | unknown (word : String)
  deriving DecidableEq, Repr

namespace Level

def ofWord (word : String) : Level :=
  match Severity.ofName? word with
  | some severity => known severity
  | none => unknown word

def word : Level → String
  | known severity => severity.name
  | unknown word => word

end Level

/-! ## Texts -/

/-- Characters that are skipped before the first word of a text, and the severity of a text that
begins with none of the known words. -/
structure Classifier where
  skipped : String
  fallback : Severity := .warning
  deriving DecidableEq, Repr

namespace Classifier

def blanks : Classifier := { skipped := " \t\n\r\x0b\x0c" }

def punctuation : Classifier := { skipped := " \t\n\r\x0b\x0c([*\"'`" }

/-- The words that a text is tested for, in this order. -/
def words : List (String × Severity) :=
  [("info", .info), ("note", .info), ("warning", .warning), ("error", .error)]

/-- The severity of a text. The text is put in lower case before characters are skipped, so the
skipped characters are those of the lower-case text. -/
def classify (classifier : Classifier) (text : String) : Severity :=
  let candidate := (lower text.toList).dropWhile classifier.skipped.toList.contains
  match words.find? fun entry => entry.1.toList.isPrefixOf candidate with
  | some entry => entry.2
  | none => classifier.fallback

end Classifier

/-! ## Labels -/

/-- A tool's own labels with the levels that they stand for. -/
abbrev Labels := List (String × Level)

/-- The level of the first label that equals the given one, blanks around it and case aside; of
equal labels the last one counts, in the place of the first. -/
def Labels.find? (labels : Labels) (label : String) : Option Level :=
  let key := lower (trim label.toList)
  ((Ordered.ofList labels).find? fun entry => lower entry.1.toList == key).map Prod.snd

/-- The severity of a label: what the table says, or the severity of the label as a text. The result
is an error if the table gives a word that names no severity. -/
def severityOfLabel (labels : Labels) (classifier : Classifier) (label : String) :
    Except String Severity :=
  match labels.find? label with
  | some (.known severity) => .ok severity
  | some (.unknown word) => .error word
  | none => .ok (classifier.classify label)

end LintRunner
