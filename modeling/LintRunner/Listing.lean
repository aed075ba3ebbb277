import LintRunner.Diagnostic
import LintRunner.Json.Tree
import LintRunner.Table

/-!
# Listings

Diagnostics as text: a line each, a document of JSON, or a table for each file with a summary. None of them
is written if a line or a column has too many digits.
-/

set_option autoImplicit false

namespace LintRunner

open LintRunner.Text

namespace Diagnostic

/-- Whether line and column can be written. -/
def isWritable (d : Diagnostic) : Bool := Text.isWritable d.line && d.column.all Text.isWritable

/-- A diagnostic as a line of five fields with colons between them; an absent column leaves its field
empty. -/
def asLine (d : Diagnostic) : String :=
  d.filename ++ ":" ++ numberText d.line ++ ":" ++ (d.column.map numberText).getD "" ++ ":" ++
    d.severity.name ++ ":" ++ d.message

def writeLine (d : Diagnostic) : Except Failure String :=
  if d.isWritable then .ok d.asLine else .error (.digitLimit none)

def optionalJson {α : Type} (toJson : α → Json) (a : Option α) : Json := (a.map toJson).getD .null

def toJson (d : Diagnostic) : Json :=
  .object
    [("filename", .string d.filename),
      ("line", .number d.line),
      ("column", optionalJson .number d.column),
      ("message", .string d.message),
      ("severity", .string d.severity.name),
      ("code", optionalJson .string d.code),
      ("tool", optionalJson .string d.tool)]

end Diagnostic

namespace Listing

def json (ds : List Diagnostic) : Except Failure String :=
  (Json.array (ds.map Diagnostic.toJson)).write

/-- How many diagnostics there are in how many files, and how many of them are errors. -/
def summary (ds : List Diagnostic) : String :=
  numberText ds.length ++ " diagnostic(s) in " ++ numberText (Diagnostic.byFile ds).length ++
    " file(s), " ++ numberText (Diagnostic.errorCount ds) ++ " error(s)"

/-! ## Tables -/

def columns : List Table.Column :=
  [{ title := "Line", alignRight := true },
    { title := "Col", alignRight := true },
    { title := "Severity" },
    { title := "Tool" },
    { title := "Message", overlong := .fold }]

def codedMessage (d : Diagnostic) : String :=
  match d.code with
  | none | some "" => d.message
  | some code => code ++ " " ++ d.message

/-- The name of the tool of a diagnostic, or a hyphen. -/
def toolName (d : Diagnostic) : String :=
  match d.tool with
  | none | some "" => "-"
  | some tool => tool

/-- The cells of a diagnostic. Line, column and tool are read as markup, all else is plain. -/
def cells (d : Diagnostic) : List Table.Cell :=
  [.marked (numberText d.line), .marked ((d.column.map numberText).getD ""),
    .plain d.severity.name, .marked (toolName d), .plain (codedMessage d)]

def row (d : Diagnostic) : Except Failure (List Table.Cell) :=
  if d.isWritable then .ok (cells d) else .error (.digitLimit none)

def fileTable (filename : String) (ds : List Diagnostic) : Except Failure Table := do
  let rows ← ds.mapM row
  return { frame := Table.Frame.open, title := filename, columns, rows }

/-- What is printed of diagnostics: a table for each file, and the summary below. -/
def sheets (ds : List Diagnostic) : List (Except Failure Sheet) :=
  (Diagnostic.byFile ds).map (fun group => (fileTable group.1 group.2).map Sheet.table) ++
    [.ok (.line (summary ds))]

def printOne (print : Printer) (sheet : Except Failure Sheet) : Except Failure String :=
  sheet.bind fun sheet => (print sheet).mapError .unprinted

/-- The text of sheets up to the first that fails, and that failure. -/
def printAll (print : Printer) : List (Except Failure Sheet) → String × Option Failure
  | [] => ("", none)
  | sheet :: rest =>
      match printOne print sheet with
      | .error failure => ("", some failure)
      | .ok text =>
          let (later, failure) := printAll print rest
          (text ++ later, failure)

/-- Diagnostics as tables by file with the summary below, and the failure that ends the text. -/
def pretty (print : Printer) (ds : List Diagnostic) : String × Option Failure :=
  printAll print (sheets ds)

end Listing

end LintRunner
