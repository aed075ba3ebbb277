/-!
# Lines of output

A line ends at a line feed and at nothing else; one carriage return before it belongs to the ending.
-/

set_option autoImplicit false

namespace LintRunner.Text

/-- Splits at every occurrence of a character; there is always one part more than occurrences. -/
def splitOnChar (sep : Char) : List Char → List (List Char)
  | [] => [[]]
  | c :: rest =>
      match splitOnChar sep rest with
      | [] => [[c]]
      | part :: parts => if c == sep then [] :: part :: parts else (c :: part) :: parts

def dropFinal (c : Char) (cs : List Char) : List Char :=
  match cs.reverse with
  | [] => []
  | d :: before => if d == c then before.reverse else cs

/-- The lines of a text. A final line feed ends the last line instead of opening an empty one; the
empty text has no lines. -/
def splitLines (cs : List Char) : List (List Char) :=
  if cs.isEmpty then []
  else (splitOnChar '\n' (dropFinal '\n' cs)).map (dropFinal '\r')

end LintRunner.Text
