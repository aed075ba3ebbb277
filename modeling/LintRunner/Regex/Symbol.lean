/-!
# Symbols of a pattern

The text of a pattern is read as symbols: a character, or a backslash together with the character
that it escapes.
-/

set_option autoImplicit false

namespace LintRunner.Regex

/-- A character of a pattern, possibly behind a backslash. -/
structure Symbol where
  char : Char
  escaped : Bool := false
  deriving DecidableEq, Repr

namespace Symbol

/-- The symbols of a text; a backslash at its very end escapes nothing. -/
def ofText? : List Char → Option (List Symbol)
  | [] => some []
  | ['\\'] => none
  | '\\' :: c :: rest => (ofText? rest).map (⟨c, true⟩ :: ·)
  | c :: rest => (ofText? rest).map (⟨c, false⟩ :: ·)

def isPlain (c : Char) (s : Symbol) : Bool := !s.escaped && s.char == c

def text (s : Symbol) : List Char := if s.escaped then ['\\', s.char] else [s.char]

def dropPlain? (c : Char) : List Symbol → Option (List Symbol)
  | s :: rest => if s.isPlain c then some rest else none
  | [] => none

/-- Takes the plain characters of a class in front, at most `limit` of them. -/
def takePlain (p : Char → Bool) : Nat → List Symbol → List Char × List Symbol
  | limit + 1, s :: rest =>
      if !s.escaped && p s.char then
        let (cs, rest') := takePlain p limit rest
        (s.char :: cs, rest')
      else ([], s :: rest)
  | _, symbols => ([], symbols)

/-- The text before the next plain terminator and the symbols behind it. -/
def takeUntil? (terminator : Char) : List Symbol → Option (List Char × List Symbol)
  | [] => none
  | s :: rest =>
      if s.isPlain terminator then some ([], rest)
      else (takeUntil? terminator rest).map fun (cs, rest') => (s.text ++ cs, rest')

end Symbol

end LintRunner.Regex
