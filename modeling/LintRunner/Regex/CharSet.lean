import LintRunner.Text.Case

/-!
# Sets of characters

What one position of a pattern accepts: a single code point, or a set of code points, ranges and
categories. A `CaseRule` says which characters count as the same. Code points are numbers, since a
pattern may name one that is no character; such a member accepts nothing.
-/

set_option autoImplicit false

namespace LintRunner.Regex

open LintRunner.Text

/-- Which characters count as the same: only equal ones, ASCII letters of either case, or letters of
any script in either case. -/
inductive CaseRule where
  | exact
  | ascii
  | unicode
  deriving DecidableEq, Repr

inductive Category where
  | digit
  | blank
  | word
  deriving DecidableEq, Repr

/-- One member of a set. A category is taken over all scripts or over ASCII. -/
inductive Member where
  | code (n : Nat)
  | range (lo hi : Nat)
  | category (kind : Category) (negated ascii : Bool)
  deriving DecidableEq, Repr

/-! ## Membership -/

/-- The code points that count as the same as a character. -/
def CaseRule.variants : CaseRule → Char → List Nat
  | .exact, c => [c.toNat]
  | .ascii, c =>
      if 'a' ≤ c && c ≤ 'z' then [c.toNat, c.toNat - 32]
      else if 'A' ≤ c && c ≤ 'Z' then [c.toNat, c.toNat + 32]
      else [c.toNat]
  | .unicode, c => (foldVariants c).map Char.toNat

/-- The form of a character that stands for all that count as the same in a repeated text. -/
def CaseRule.normal : CaseRule → Char → Char
  | .exact, c => c
  | .ascii, c => asciiLower c
  | .unicode, c => lowerChar c

/-- Whether a character belongs to a category over all scripts. -/
def Category.holds : Category → Char → Bool
  | .digit, c => isDigit c
  | .blank, c => isBlank c
  | .word, c => isWord c

def Category.holdsAscii : Category → Char → Bool
  | .digit, c => isAsciiDigit c
  | .blank, c => isAsciiBlank c
  | .word, c => isAsciiWord c

def basicPlaneEnd : Nat := 0xFFFF

/-- Whether one member accepts a character. Beyond the basic plane a single code point is compared
with the lower-case form alone. -/
def Member.accepts (rule : CaseRule) (c : Char) : Member → Bool
  | .code n =>
      if rule == .unicode && n > basicPlaneEnd then (lowerChar c).toNat == n
      else (rule.variants c).contains n
  | .range lo hi =>
      let within := fun n => lo ≤ n && n ≤ hi
      (rule.variants c).any within ||
        (rule == .ascii && hi > basicPlaneEnd && within (upperBeyond c).toNat)
  | .category kind negated ascii =>
      (if ascii then kind.holdsAscii c else kind.holds c) != negated

def setAccepts (members : List Member) (negated : Bool) (rule : CaseRule) (c : Char) : Bool :=
  members.any (Member.accepts rule c) != negated

def codeAccepts (n : Nat) (negated : Bool) (rule : CaseRule) (c : Char) : Bool :=
  (rule.variants c).contains n != negated

end LintRunner.Regex
