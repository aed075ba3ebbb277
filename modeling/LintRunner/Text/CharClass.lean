import LintRunner.Text.Table.Word
import LintRunner.Text.Table.Digit
import LintRunner.Text.Table.Printable
import LintRunner.Text.Table.Identifier

/-!
# Character classes

Membership in the classes of characters that the rest of the library asks about. The large classes
are ascending lists of closed ranges of code points (`Text.Table`), the small ones are written out.
-/

set_option autoImplicit false

namespace LintRunner.Text

/-! ## Ranges -/

/-- Membership in an ascending list of closed ranges; the search stops at the first range that
begins above `n`. -/
def inRanges : List (Nat × Nat) → Nat → Bool
  | [], _ => false
  | (lo, hi) :: rest, n => if n < lo then false else n ≤ hi || inRanges rest n

/-- The value of a decimal digit, given the code points of the zeros in ascending order. -/
def digitIn : List Nat → Nat → Option Nat
  | [], _ => none
  | base :: rest, n =>
      if n < base then none else if n < base + 10 then some (n - base) else digitIn rest n

/-! ## Classes of every script -/

/-- Characters that separate words in any script, the four information separators included. -/
def isBlank (c : Char) : Bool :=
  inRanges [(9, 13), (28, 32), (133, 133), (160, 160), (5760, 5760), (8192, 8202), (8232, 8233),
    (8239, 8239), (8287, 8287), (12288, 12288)] c.toNat

/-- The blanks that may stand around a number: those of every script, without the four separators. -/
def isNumberBlank (c : Char) : Bool := isBlank c && !(28 ≤ c.toNat && c.toNat ≤ 31)

/-- Letters, digits, other numbers and the low line. -/
def isWord (c : Char) : Bool := inRanges Table.word c.toNat

def digitValue? (c : Char) : Option Nat := digitIn Table.zeros c.toNat

def isDigit (c : Char) : Bool := (digitValue? c).isSome

/-- Characters that are shown as themselves inside quotes. -/
def isPrintable (c : Char) : Bool := inRanges Table.printable c.toNat

/-- A letter or the low line, followed by characters that continue an identifier. -/
def isIdentifier : List Char → Bool
  | [] => false
  | c :: rest =>
      inRanges Table.identifierStart c.toNat &&
        rest.all fun d => inRanges Table.identifierContinue d.toNat

/-! ## ASCII classes -/

/-- The six blanks of ASCII: space, tab, line feed, carriage return, vertical tab, form feed. -/
def isAsciiBlank (c : Char) : Bool :=
  c == ' ' || c == '\t' || c == '\n' || c == '\r' || c == '\x0b' || c == '\x0c'

def isAsciiDigit (c : Char) : Bool := '0' ≤ c && c ≤ '9'

def isAsciiLetter (c : Char) : Bool := ('a' ≤ c && c ≤ 'z') || ('A' ≤ c && c ≤ 'Z')

def isAsciiWord (c : Char) : Bool := isAsciiLetter c || isAsciiDigit c || c == '_'

def hexValue? (c : Char) : Option Nat :=
  if '0' ≤ c && c ≤ '9' then some (c.toNat - 48)
  else if 'a' ≤ c && c ≤ 'f' then some (c.toNat - 87)
  else if 'A' ≤ c && c ≤ 'F' then some (c.toNat - 55)
  else none

def hexDigit (n : Nat) : Char := if n < 10 then Char.ofNat (48 + n) else Char.ofNat (87 + n)

def hexDigits : Nat → Nat → List Char
  | 0, _ => []
  | width + 1, n => hexDigits width (n / 16) ++ [hexDigit (n % 16)]

/-! ## Trimming -/

def trimBoth (p : Char → Bool) (cs : List Char) : List Char :=
  ((cs.dropWhile p).reverse.dropWhile p).reverse

/-- Removes leading and trailing blanks of every script. -/
def trim (cs : List Char) : List Char := trimBoth isBlank cs

end LintRunner.Text
