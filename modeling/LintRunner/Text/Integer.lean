import LintRunner.Text.CharClass

/-!
# Whole numbers as text

`digits` writes a natural number in decimal; `integer?` reads a whole number as a person may type it:
blanks around it, a sign, single low lines between digits, digits of any script.
-/

set_option autoImplicit false

namespace LintRunner.Text

/-! ## Writing -/

def digitChar (n : Nat) : Char := Char.ofNat (48 + n)

/-- Decimal digits, the most significant first and without leading zeros. -/
def digits (n : Nat) : List Char :=
  if n < 10 then [digitChar n] else digits (n / 10) ++ [digitChar (n % 10)]
termination_by n
decreasing_by omega

def signedDigits (i : Int) : List Char :=
  if i < 0 then '-' :: digits i.natAbs else digits i.natAbs

def numberText (n : Nat) : String := String.ofList (digits n)

def wholeText (i : Int) : String := String.ofList (signedDigits i)

/-! ## Limits -/

/-- Numbers in decimal have no more digits than this, whether they are read or written. -/
def maxDigits : Nat := 4300

def isWritable (n : Nat) : Bool := (digits n).length ≤ maxDigits

/-! ## Reading -/

def ofDigits (values : List Nat) : Nat := values.foldl (fun n d => 10 * n + d) 0

/-- Digits with single low lines between them, as values. -/
def digitRun? : List Char → Option (List Nat)
  | [] => none
  | [c] => (digitValue? c).map ([·])
  | c :: '_' :: rest => do
      let d ← digitValue? c
      return d :: (← digitRun? rest)
  | c :: rest => do
      let d ← digitValue? c
      return d :: (← digitRun? rest)

/-- A digit run of bounded length as a number. -/
def natural? (cs : List Char) : Option Nat := do
  let values ← digitRun? cs
  if values.length ≤ maxDigits then some (ofDigits values) else none

/-- A whole number, blanks around it and a sign in front allowed. -/
def integer? (cs : List Char) : Option Int :=
  match trimBoth isNumberBlank cs with
  | '-' :: rest => (natural? rest).map fun n : Nat => -(n : Int)
  | '+' :: rest => (natural? rest).map Int.ofNat
  | rest => (natural? rest).map Int.ofNat

end LintRunner.Text
