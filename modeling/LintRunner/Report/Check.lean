import LintRunner.Checked
import LintRunner.Failure
import LintRunner.Report

/-!
# Diagnostics and reports from values

Reading diagnostics, outcomes and reports from values, and setting single fields of them. Keys that
are not known are passed over. Diagnostics never change; outcomes and reports may, field by field, and
a field takes what a reader would take for it.
-/

set_option autoImplicit false

namespace LintRunner

def Checked.toExcept {α : Type} : Checked α → Except Failure α
  | ok a => .ok a
  | bad issues => .error (.invalidDocument issues)

def Checked.positive (value : Value) : Checked { n : Nat // 0 < n } := wholeFrom 1 value

def Checked.natural (value : Value) : Checked Nat := Subtype.val <$> wholeFrom 0 value

/-! ## Reading -/

def Diagnostic.check : Value → Checked Diagnostic :=
  Checked.record fun entries =>
    (fun filename (line : { n : Nat // 0 < n }) column message severity code tool =>
        { filename, line := line.val, column, message, severity, code, tool,
          line_pos := line.property })
      <$> Checked.required entries "filename" Checked.string
      <*> Checked.required entries "line" Checked.positive
      <*> Checked.optional entries "column" none (Checked.nullable Checked.natural)
      <*> Checked.required entries "message" Checked.string
      <*> Checked.required entries "severity" (Checked.word .enum Severity.ofName?)
      <*> Checked.optional entries "code" none (Checked.nullable Checked.string)
      <*> Checked.optional entries "tool" none (Checked.nullable Checked.string)

def Outcome.check : Value → Checked Outcome :=
  Checked.record fun entries =>
    (fun adapter status diagnostics error => { adapter, status, diagnostics, error })
      <$> Checked.required entries "adapter" Checked.string
      <*> Checked.optional entries "returncode" none (Checked.nullable Checked.whole)
      <*> Checked.optional entries "diagnostics" [] (Checked.list Diagnostic.check)
      <*> Checked.optional entries "error" none (Checked.nullable Checked.string)

def Report.check : Value → Checked Report :=
  Checked.record fun entries =>
    (fun language target outcomes => { language, target, outcomes })
      <$> Checked.required entries "language" Checked.string
      <*> Checked.optional entries "target" none (Checked.nullable Checked.string)
      <*> Checked.optional entries "outcomes" [] (Checked.list Outcome.check)

/-! ## Setting fields -/

/-- Whether a name is that of a note, which may be put on anything and is not looked at. -/
def isNoteName (field : String) : Bool := ['_'].isPrefixOf field.toList

def fieldIssue {α : Type} (kind : IssueKind) (field : String) : Except Failure α :=
  .error (.invalidDocument [{ kind, path := [.key field] }])

def fieldValue {α : Type} (field : String) (check : Value → Checked α) (value : Value) :
    Except Failure α :=
  (Checked.under (.key field) (check value)).toExcept

/-- Setting a field of a diagnostic. Diagnostics do not change. -/
def Diagnostic.set (d : Diagnostic) (field : String) : Except Failure Diagnostic :=
  if isNoteName field then .ok d else fieldIssue .frozenInstance field

def Outcome.set (outcome : Outcome) (field : String) (value : Value) : Except Failure Outcome :=
  match field with
  | "adapter" =>
      (fieldValue field Checked.string value).map fun adapter => { outcome with adapter }
  | "returncode" =>
      (fieldValue field (Checked.nullable Checked.whole) value).map fun status =>
        { outcome with status }
  | "diagnostics" =>
      (fieldValue field (Checked.list Diagnostic.check) value).map fun diagnostics =>
        { outcome with diagnostics }
  | "error" =>
      (fieldValue field (Checked.nullable Checked.string) value).map fun error =>
        { outcome with error }
  | "failed" => .error .computedField
  | _ => if isNoteName field then .ok outcome else fieldIssue .noSuchAttribute field

def Report.set (report : Report) (field : String) (value : Value) : Except Failure Report :=
  match field with
  | "language" =>
      (fieldValue field Checked.string value).map fun language => { report with language }
  | "target" =>
      (fieldValue field (Checked.nullable Checked.string) value).map fun target =>
        { report with target }
  | "outcomes" =>
      (fieldValue field (Checked.list Outcome.check) value).map fun outcomes =>
        { report with outcomes }
  | "diagnostics" => .error .computedField
  | _ => if isNoteName field then .ok report else fieldIssue .noSuchAttribute field

end LintRunner
