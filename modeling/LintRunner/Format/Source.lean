import LintRunner.Format.Token

/-!
# The pattern of a format

Each token contributes a piece of text; together they are the text of one pattern. A token that
captures does so in a group named for its place in the format. The pattern of a severity is put in
between as it is.
-/

set_option autoImplicit false

namespace LintRunner

/-! ## Literal text -/

/-- The characters that mean something else in a pattern. -/
def specialChars : List Char := "()[]\x7b\x7d?*+-|^$\\.&~# \t\n\r\x0b\x0c".toList

/-- A pattern that matches exactly a text. -/
def escapeText (text : List Char) : List Char :=
  text.flatMap fun c => if specialChars.contains c then ['\\', c] else [c]

/-! ## Tokens -/

def groupName (index : Nat) : List Char := 't' :: Text.digits index

def namedGroup (index : Nat) (pattern : List Char) : List Char :=
  "(?P<".toList ++ groupName index ++ ['>'] ++ pattern ++ [')']

def filenamePattern : List Char := "[^ \\t:\\r\\n\\x00\\x0c\\x0b]+".toList

def positionPattern : List Char := "[0-9]+".toList

def messagePattern : List Char := "[^\\r\\n\\x00]+".toList

def codePattern : List Char := "[@A-Za-z0-9_][A-Za-z0-9_./@-]*".toList

def blankPattern : List Char := "[ \\t]+".toList

def tokenSource (index : Nat) : Token → List Char
  | .filename => namedGroup index filenamePattern
  | .line | .column => namedGroup index positionPattern
  | .code lead optional =>
      let required := escapeText lead.toList ++ namedGroup index codePattern
      if optional then "(?:".toList ++ required ++ ")?".toList else required
  | .message _ => namedGroup index messagePattern
  | .severityPattern pattern _ _ => namedGroup index ("(?:".toList ++ pattern.toList ++ [')'])
  | .literal text => escapeText text.toList
  | .whitespace => blankPattern
  | .severityFromMessage .. | .severityFixed _ => []

/-- The pattern of a sequence of tokens, the first of which has the given place. -/
def sourceFrom (index : Nat) : List Token → List Char
  | [] => []
  | token :: rest => tokenSource index token ++ sourceFrom (index + 1) rest

def Format.source (format : Format) : List Char := sourceFrom 0 format.tokens

end LintRunner
