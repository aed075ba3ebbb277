import LintRunner.Choice
import LintRunner.Config.Schema
import LintRunner.Format.Matcher

/-!
# The notation of formats

A configuration writes a format as a list of texts and tables. A text between braces is a
placeholder, any other text stands for itself; tables describe the tokens that need more than a word.
-/

set_option autoImplicit false

namespace LintRunner.Notation

open LintRunner.Text

/-! ## Placeholders -/

/-- The parts of a placeholder: its word, and a sign with the text behind it. -/
structure Placeholder where
  kind : List Char
  argument : Option (Char × List Char)
  deriving DecidableEq, Repr

def isKindChar (c : Char) : Bool := ('a' ≤ c && c ≤ 'z') || c == '_'

/-- Whether nothing follows the closing brace, or one line feed at most. -/
def endsPlaceholder : List Char → Bool
  | [] | ['\n'] => true
  | _ => false

/-- Reads a placeholder: a word between braces, possibly with a colon or an equals sign and an
argument without closing braces. -/
def Placeholder.read? : List Char → Option Placeholder
  | '\x7b' :: rest =>
      let kind := rest.takeWhile isKindChar
      if kind.isEmpty then none
      else
        match rest.dropWhile isKindChar with
        | '\x7d' :: final => if endsPlaceholder final then some ⟨kind, none⟩ else none
        | sign :: more =>
            if sign == ':' || sign == '=' then
              match more.dropWhile fun c => c != '\x7d' with
              | _ :: final =>
                  if endsPlaceholder final then
                    some ⟨kind, some (sign, more.takeWhile fun c => c != '\x7d')⟩
                  else none
              | [] => none
            else none
        | [] => none
  | _ => none

/-- The tokens whose placeholder is a word alone. -/
def simpleToken? (kind : String) : Option Token :=
  [("filename", Token.filename), ("line", .line), ("column", .column), ("code", .code "" false),
    ("spaces", .whitespace)].lookup kind

/-- The token of a message placeholder; an argument counts only behind a colon and if it is not
empty. -/
def messageToken : Option (Char × List Char) → Token
  | some (':', name) => .message (if name.isEmpty then "message" else String.ofList name)
  | _ => .message "message"

def severityToken (classifier : Classifier) :
    Option (Char × List Char) → Except ConfigProblem Token
  | none => .ok (.severityFromMessage none classifier)
  | some (sign, argument) =>
      if sign == ':' then .ok (.severityFromMessage (some (String.ofList argument)) classifier)
      else
        match Severity.ofName? (String.ofList (lower (trim argument))) with
        | some severity => .ok (.severityFixed (.known severity))
        | none => .error (.unknownLevel (String.ofList argument))

def tokenOfText (classifier : Classifier) (s : String) : Except ConfigProblem Token :=
  match Placeholder.read? s.toList with
  | none => .ok (.literal s)
  | some { kind, argument } =>
      match String.ofList kind, argument with
      | "message", _ => .ok (messageToken argument)
      | "severity", _ => severityToken classifier argument
      | word, none =>
          match simpleToken? word with
          | some token => .ok token
          | none => .error (.unknownPlaceholder s)
      | _, some _ => .error (.unknownPlaceholder s)

/-! ## Tables -/

/-- The names of code options that are not known, in ascending order. -/
def unknownOptions (entries : List (String × Value)) : List String :=
  ((Ordered.keys entries).filter fun key => !(["prefix", "optional"].contains key)).mergeSort

def codeToken : Value → Except ConfigProblem Token
  | .table entries =>
      match unknownOptions entries with
      | [] =>
          let lead := ((entries.lookup "prefix").map Value.text).getD ""
          let optional := ((entries.lookup "optional").map Value.isTruthy).getD false
          .ok (.code lead optional)
      | names => .error (.unknownCodeOptions names)
  | _ => .error .codeNotTable

def labelsOf : List (String × Value) → Except ConfigProblem Labels
  | [] => .ok []
  | (label, value) :: rest =>
      match Severity.ofValue? value with
      | some severity => (labelsOf rest).map ((label, .known severity) :: ·)
      | none => .error (if value.isWritable then .badMap value.shown else .longMap)

def patternToken (classifier : Classifier) (pattern : Value) :
    Option Value → Except ConfigProblem Token
  | none => labelled []
  | some (.table entries) => labelled entries
  | some _ => .error .mapNotTable
where
  /-- The token with the entries of its table. -/
  labelled (entries : List (String × Value)) : Except ConfigProblem Token :=
    if pattern.isWritable then
      (labelsOf entries).map fun labels => .severityPattern pattern.text labels classifier
    else .error .longMap

/-- The token of a table; the first of the known keys decides, whatever else the table holds. -/
def tokenOfTable (classifier : Classifier) (entries : List (String × Value)) :
    Except ConfigProblem Token :=
  match entries.lookup "literal", entries.lookup "code", entries.lookup "severity_pattern" with
  | some value, _, _ => .ok (.literal value.text)
  | none, some options, _ => codeToken options
  | none, none, some pattern => patternToken classifier pattern (entries.lookup "map")
  | none, none, none => .error (.unsupportedTable (Value.table entries).shown)

/-! ## Formats -/

def tokenOf (classifier : Classifier) : FormatItem → Except ConfigProblem Token
  | .text s => tokenOfText classifier s
  | .table entries => tokenOfTable classifier entries

/-- The part of a table that is written out as text: a literal, the text in front of a code, or all of
a table that describes no token. Numbers of severity tables are refused as problems of the table. -/
def writtenPart? (entries : List (String × Value)) : Option Value :=
  match entries.lookup "literal", entries.lookup "code", entries.lookup "severity_pattern" with
  | some value, _, _ => some value
  | none, some (.table options), _ =>
      if (unknownOptions options).isEmpty then options.lookup "prefix" else none
  | none, some _, _ | none, none, some _ => none
  | none, none, none => some (.table entries)

/-- Whether an item holds a number that has too many digits to be written out. -/
def isTooLong : FormatItem → Bool
  | .text _ => false
  | .table entries => (writtenPart? entries).any fun value => !value.isWritable

/-- The token of an item whose numbers can be written out. -/
def readItem (classifier : Classifier) (item : FormatItem) : Except Failure Token :=
  if isTooLong item then .error (.digitLimit none)
  else
    match tokenOf classifier item with
    | .error problem => .error (.config problem)
    | .ok token => .ok token

def configFailure : Failure → Failure
  | .format problem => .config (.badFormat problem)
  | failure => failure

/-- The format that a list of items writes. A format whose pattern cannot be read is refused. -/
def readFormat (classifier : Classifier) (fallback : Level) (items : List FormatItem) :
    Except Failure Format :=
  match items.mapM (readItem classifier) with
  | .error failure => .error failure
  | .ok tokens =>
      match Format.make (tokens.map .token) fallback with
      | .error failure => .error (configFailure failure)
      | .ok format =>
          match format.compile with
          | .error failure => .error (configFailure failure)
          | .ok _ => .ok format

end LintRunner.Notation

namespace LintRunner

def AdapterEntry.toAdapter (name : String) (entry : AdapterEntry) : Except Failure Adapter := do
  let format ← Notation.readFormat entry.skip.classifier (.known entry.fallback) entry.format
  match Adapter.make name entry.command (some format) entry.description with
  | .ok adapter => return adapter
  | .error problem => throw (.config (.badAdapter name problem))

def Config.buildRegistry (config : Config) (base : Registry) : Except Failure Registry := do
  let adapters ← config.adapters.mapM fun (name, entry) => entry.toAdapter name
  match base.merge adapters config.languages with
  | .error (.unknownAdapter name) => throw (.config (.unknownAdapter name))
  | result => result

end LintRunner
