import LintRunner.Severity
import LintRunner.Failure

/-!
# Formats

A format describes one line of a tool's output as a sequence of tokens. `Format.make` accepts a
sequence exactly if its layout has no problem; the type `Format` keeps that fact.
-/

set_option autoImplicit false

namespace LintRunner

inductive Token where
  /-- The name of a file: no blanks and no colons. -/
  | filename
  /-- The number of a line, in ASCII digits. -/
  | line
  /-- The number of a column, in ASCII digits. -/
  | column
  /-- The identifier of a rule behind a fixed text; both may be absent if it is optional. -/
  | code (lead : String) (optional : Bool)
  /-- Text up to the end of the line, kept under a name. -/
  | message (name : String)
  /-- The severity that a message before it implies: the named one, or the nearest. -/
  | severityFromMessage (source : Option String) (classifier : Classifier)
  /-- One severity for all lines. -/
  | severityFixed (level : Level)
  /-- The severity that a label stands for; the label is what a pattern matches. -/
  | severityPattern (pattern : String) (labels : Labels) (classifier : Classifier)
  /-- Exactly this text. -/
  | literal (text : String)
  /-- A run of spaces and tabs. -/
  | whitespace
  deriving DecidableEq, Repr

namespace Token

/-- The single-use field that a token fills. -/
def field? : Token → Option Field
  | filename => some .filename
  | line => some .line
  | column => some .column
  | code .. => some .code
  | message _ => some .message
  | _ => none

def isSeverity : Token → Bool
  | severityFromMessage .. | severityFixed _ | severityPattern .. => true
  | _ => false

def messageName? : Token → Option String
  | message name => some name
  | _ => none

end Token

/-! ## Layouts -/

def fieldCount (field : Field) (tokens : List Token) : Nat :=
  tokens.countP fun token => token.field? == some field

def messageNames (tokens : List Token) : List String := tokens.filterMap Token.messageName?

/-- What is wrong with one token behind messages of the given names. -/
def tokenProblem? (seen : List String) : Token → Option FormatProblem
  | .literal text => if text.isEmpty then some .emptyLiteral else none
  | .severityPattern pattern _ _ => if pattern.isEmpty then some .emptyPattern else none
  | .message name =>
      if name.isEmpty then some .unnamedMessage
      else if seen.contains name then some (.duplicateMessage name)
      else none
  | .severityFromMessage source _ =>
      if seen.isEmpty then some .noEarlierMessage
      else
        match source with
        | some name => if seen.contains name then none else some (.unknownSource name)
        | none => none
  | _ => none

/-- The first problem of a token, the tokens taken in order behind messages of the given names. -/
def orderProblem? : List String → List Token → Option FormatProblem
  | _, [] => none
  | seen, token :: rest =>
      match tokenProblem? seen token with
      | some problem => some problem
      | none => orderProblem? (seen ++ token.messageName?.toList) rest

/-- The problem of a layout: fields that are missing, fields that are repeated, several severities,
and then the problems of single tokens. -/
def layoutProblem? (tokens : List Token) : Option FormatProblem :=
  match [Field.filename, .line, .message].find? fun field => fieldCount field tokens == 0 with
  | some field => some (.missingField field)
  | none =>
    match [Field.filename, .line, .column, .code].find? fun field => 1 < fieldCount field tokens with
    | some field => some (.repeatedField field)
    | none =>
      if 1 < tokens.countP Token.isSeverity then some .twoSeverities else orderProblem? [] tokens

/-- A layout without problems, and the severity of lines that decide on none. -/
structure Format where
  tokens : List Token
  fallback : Severity
  valid : layoutProblem? tokens = none
  deriving DecidableEq

/-- What may be offered as a part of a format: a token, or something else, as it is shown. -/
inductive Part where
  | token (token : Token)
  | foreign (shown : String)
  deriving DecidableEq, Repr

/-- The tokens of a sequence of parts, or the first part that is none. -/
def tokensOfParts : List Part → Except String (List Token)
  | [] => .ok []
  | .token token :: rest => (tokensOfParts rest).map (token :: ·)
  | .foreign shown :: _ => .error shown

namespace Format

def ofTokens (tokens : List Token) (fallback : Severity) : Except FormatProblem Format :=
  match h : layoutProblem? tokens with
  | some problem => .error problem
  | none => .ok { tokens, fallback, valid := h }

/-- The format with the given parts. The severity is looked at first, then whether all parts are
tokens, then the layout. -/
def make (parts : List Part) (fallback : Level) : Except Failure Format :=
  match fallback with
  | .unknown word => .error (.unknownSeverity (Text.quoted word))
  | .known severity =>
      match tokensOfParts parts with
      | .error shown => .error (.format (.unsupportedToken shown))
      | .ok tokens =>
          match ofTokens tokens severity with
          | .ok format => .ok format
          | .error problem => .error (.format problem)

def hasColumn (format : Format) : Bool := format.tokens.contains .column

def messageNames (format : Format) : List String := LintRunner.messageNames format.tokens

end Format

end LintRunner
