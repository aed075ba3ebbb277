import LintRunner.Failure

/-!
# Words of a command line

`splitWords` splits a text into words as a shell does: blanks separate words, quotes of either kind
keep blanks, a backslash keeps the next character. Between double quotes a backslash is a plain
character unless a double quote or a backslash follows. `quoteWord` writes a word so that it is read
back as one word, whatever it holds.
-/

set_option autoImplicit false

namespace LintRunner.Text

/-- Where a reader of words stands: between words, in a word, between quotes of one kind, behind a
backslash in a word, or behind a backslash between double quotes. -/
inductive WordMode where
  | gap
  | word
  | quote (mark : Char)
  | escape
  | quoteEscape
  deriving DecidableEq, Repr

def separatesWords (c : Char) : Bool := c == ' ' || c == '\t' || c == '\r' || c == '\n'

def isQuote (c : Char) : Bool := c == '\'' || c == '"'

/-- The words of a text, of which the characters of the current word have been read already; they
are given last first. -/
def splitWordsFrom : WordMode → List Char → List Char → Except SplitProblem (List (List Char))
  | .gap, _, [] => .ok []
  | .word, current, [] => .ok [current.reverse]
  | .quote _, _, [] => .error .openQuote
  | .escape, _, [] | .quoteEscape, _, [] => .error .openEscape
  | .gap, _, c :: rest =>
      if separatesWords c then splitWordsFrom .gap [] rest
      else if c == '\\' then splitWordsFrom .escape [] rest
      else if isQuote c then splitWordsFrom (.quote c) [] rest
      else splitWordsFrom .word [c] rest
  | .word, current, c :: rest =>
      if separatesWords c then (splitWordsFrom .gap [] rest).map (current.reverse :: ·)
      else if c == '\\' then splitWordsFrom .escape current rest
      else if isQuote c then splitWordsFrom (.quote c) current rest
      else splitWordsFrom .word (c :: current) rest
  | .quote mark, current, c :: rest =>
      if c == mark then splitWordsFrom .word current rest
      else if c == '\\' && mark == '"' then splitWordsFrom .quoteEscape current rest
      else splitWordsFrom (.quote mark) (c :: current) rest
  | .escape, current, c :: rest => splitWordsFrom .word (c :: current) rest
  | .quoteEscape, current, c :: rest =>
      let current' := if c == '\\' || c == '"' then current else '\\' :: current
      splitWordsFrom (.quote '"') (c :: current') rest

def splitWords (text : List Char) : Except SplitProblem (List (List Char)) :=
  splitWordsFrom .gap [] text

/-- A word between single quotes; a single quote in it stands between double quotes. -/
def quoteWord (word : List Char) : List Char :=
  '\'' :: word.flatMap (fun c => if c == '\'' then ['\'', '"', '\'', '"', '\''] else [c]) ++ ['\'']

def joinWords (words : List (List Char)) : List Char := [' '].intercalate words

end LintRunner.Text
