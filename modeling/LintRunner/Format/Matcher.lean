import LintRunner.Format.Source
import LintRunner.Regex.Search
import LintRunner.Diagnostic
import LintRunner.Text.Lines

/-!
# Matchers

`Format.compile` reads the pattern of a format; `Matcher.apply` matches a line with it and gathers
the fields of a diagnostic, token by token in the order of the format.
-/

set_option autoImplicit false

namespace LintRunner

open LintRunner.Text

structure Matcher where
  format : Format
  pattern : Regex.Pattern
  deriving DecidableEq

/-! ## Compilation -/

/-- The failure that the first fixed severity with an unknown word causes. -/
def unknownLevel? : List Token → Option Failure
  | [] => none
  | .severityFixed (.unknown word) :: _ => some (.unknownSeverity (quoted word))
  | _ :: rest => unknownLevel? rest

def Format.compile (format : Format) : Except Failure Matcher :=
  match unknownLevel? format.tokens with
  | some failure => .error failure
  | none =>
      match Regex.Pattern.read format.source with
      | .ok pattern => .ok { format, pattern }
      | .error .malformed => .error (.format (.invalidPattern (String.ofList format.source)))
      | .error .countTooLarge => .error .countTooLarge
      | .error (.digitLimit digits) => .error (.digitLimit (some digits))

/-! ## Fields -/

structure Fields where
  filename : Option String := none
  line : Option Nat := none
  column : Option Int := none
  code : Option String := none
  severity : Option Severity := none
  /-- The messages by name; a message whose group took no part has no text. -/
  messages : List (String × Option String) := []
  deriving DecidableEq, Repr

/-- Positions with more digits are refused. -/
def maxPositionDigits : Nat := 18

def capturedAt (m : Regex.Match) (index : Nat) : Except Failure (Option String) :=
  match m.group? (groupName index) with
  | some captured => .ok (captured.map String.ofList)
  | none => .error .absentGroup

/-- The position that a group captured, unless it is too long or no number. -/
def positionAt (m : Regex.Match) (index : Nat) : Except Failure (Option Int) := do
  match ← capturedAt m index with
  | none => throw .absentPosition
  | some text =>
      if maxPositionDigits < text.length then return none else return integer? text.toList

/-- Fills the field of the token at a place. The name is that of the nearest message before it. The
result is `none` if the token refuses the line. -/
def fillField (m : Regex.Match) (index : Nat) (lastMessage : Option String) (fields : Fields) :
    Token → Except Failure (Option Fields)
  | .filename => do
      let filename ← capturedAt m index
      return some { fields with filename }
  | .line => do
      match ← positionAt m index with
      | some (.ofNat (n + 1)) => return some { fields with line := some (n + 1) }
      | _ => return none
  | .column => do
      match ← positionAt m index with
      | some column => return some { fields with column := some column }
      | none => return none
  | .code .. => do
      let code ← capturedAt m index
      return some { fields with code }
  | .message name => do
      let text ← capturedAt m index
      return some { fields with messages := Ordered.put name text fields.messages }
  | .severityFromMessage source classifier =>
      match fields.messages.lookup (source.getD (lastMessage.getD "")) with
      | some (some text) => .ok (some { fields with severity := some (classifier.classify text) })
      | _ => .ok none
  | .severityFixed (.known severity) => .ok (some { fields with severity := some severity })
  | .severityFixed (.unknown word) => .error (.unknownSeverity (quoted word))
  | .severityPattern _ labels classifier => do
      match ← capturedAt m index with
      | none => throw .absentLabel
      | some label =>
          match severityOfLabel labels classifier label with
          | .ok severity => return some { fields with severity := some severity }
          | .error word => throw (.unknownSeverity (quoted word))
  | .literal _ | .whitespace => .ok (some fields)

def fillFields (m : Regex.Match) :
    Nat → Option String → Fields → List Token → Except Failure (Option Fields)
  | _, _, fields, [] => .ok (some fields)
  | index, lastMessage, fields, token :: rest => do
      match ← fillField m index lastMessage fields token with
      | none => return none
      | some fields' => fillFields m (index + 1) (token.messageName?.or lastMessage) fields' rest

/-- The diagnostic with the given fields, if it has all that a diagnostic needs. Its message is the
one under the given name. -/
def Fields.diagnostic? (fields : Fields) (name : String) (fallback : Severity) :
    Option Diagnostic := do
  let filename ← fields.filename
  let line ← fields.line
  let message ← (← fields.messages.lookup name)
  let column ←
    match fields.column with
    | none => some none
    | some (.ofNat n) => some (some n)
    | some (.negSucc _) => none
  if h : 0 < line then
    some
      { filename, line, column, message, severity := fields.severity.getD fallback,
        code := fields.code, line_pos := h }
  else none

/-! ## Lines -/

/-- The part of a line that is matched: without one line feed and then one carriage return at its
end, and only up to the first NUL. -/
def matchedText (line : List Char) : List Char :=
  (dropFinal '\r' (dropFinal '\n' line)).takeWhile fun c => c != '\x00'

/-- The diagnostic of a line; `none` if the line does not conform to the format. -/
def Matcher.apply (matcher : Matcher) (line : String) : Except Failure (Option Diagnostic) :=
  match matcher.pattern.fullMatch? (matchedText line.toList) with
  | none => .ok none
  | some m => do
      match ← fillFields m 0 none {} matcher.format.tokens with
      | none => return none
      | some fields =>
          return fields.diagnostic? (matcher.format.messageNames.head?.getD "")
            matcher.format.fallback

end LintRunner
