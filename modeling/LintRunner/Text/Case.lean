import LintRunner.Text.Table.Case
import LintRunner.Text.CharClass

/-!
# Lower case

`lower` writes a text in lower case. Each character is mapped on its own, with two exceptions: the
capital I with a dot becomes an `i` and a combining dot, and the capital sigma has a final form that
depends on the letters around it. `foldVariants` lists the characters that a comparison without
regard to case takes for the same.
-/

set_option autoImplicit false

namespace LintRunner.Text

/-! ## One character -/

/-- Looks a code point up in a table of shifts that ascends by its first column; a code point in no
entry stays. -/
def shiftIn : List (Nat × Nat × Nat × Int) → Nat → Nat
  | [], n => n
  | (first, last, step, shift) :: rest, n =>
      if n < first then n
      else if n ≤ last && (n - first) % step == 0 then (n + shift).toNat
      else shiftIn rest n

def lowerChar (c : Char) : Char :=
  if c == 'İ' then 'i' else Char.ofNat (shiftIn Table.lower c.toNat)

/-! ## Texts -/

/-- Whether the nearest character that is not ignorable is a letter with case. -/
def nextIsCased (cs : List Char) : Bool :=
  match cs.dropWhile fun c => inRanges Table.caseIgnorable c.toNat with
  | [] => false
  | c :: _ => inRanges Table.cased c.toNat

/-- A sigma takes its final form after a letter, unless a letter follows. The characters before it
are given nearest first. -/
def isFinalSigma (before after : List Char) : Bool := nextIsCased before && !nextIsCased after

def lowerBetween (before : List Char) (c : Char) (after : List Char) : List Char :=
  if c == 'Σ' then [if isFinalSigma before after then 'ς' else 'σ']
  else if c == 'İ' then ['i', '\u0307']
  else [lowerChar c]

/-- Lower-cases a text that follows `before`, whose characters are given nearest first. -/
def lowerAfter : List Char → List Char → List Char
  | _, [] => []
  | before, c :: rest => lowerBetween before c rest ++ lowerAfter (c :: before) rest

def lower (cs : List Char) : List Char := lowerAfter [] cs

/-! ## Comparison without regard to case -/

def sourcesIn (table : List (Nat × Nat × Nat × Int)) (n : Nat) : List Nat :=
  table.filterMap fun (first, last, step, shift) =>
    let source := (n - shift).toNat
    if first ≤ source && source ≤ last && (source - first) % step == 0 then some source else none

/-- The lower-case letters that have the same upper case as this one, itself included. -/
def sameUpper (n : Nat) : List Nat :=
  match Table.sameUpper.find? fun group => group.contains n with
  | some group => group
  | none => [n]

def foldVariants (c : Char) : List Char :=
  let lows := sameUpper (lowerChar c).toNat
  let ups := lows.flatMap (sourcesIn Table.lower)
  let dotted := if lows.contains 105 then ['İ'] else []
  (lows ++ ups).map Char.ofNat ++ dotted

/-- The upper-case form of a character beyond the basic plane; such forms are single characters. -/
def upperBeyond (c : Char) : Char :=
  match sourcesIn Table.lower c.toNat with
  | n :: _ => Char.ofNat n
  | [] => c

/-- The lower-case form of an ASCII letter; every other character stays. -/
def asciiLower (c : Char) : Char := if 'A' ≤ c && c ≤ 'Z' then Char.ofNat (c.toNat + 32) else c

end LintRunner.Text
