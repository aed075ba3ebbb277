import LintRunner.Text.CharClass
import LintRunner.Text.Table.Width

/-!
# Width of text

How many cells of a terminal a text takes, and texts that are cut or filled up to a number of cells.
-/

set_option autoImplicit false

namespace LintRunner.Text

def cellWidth (c : Char) : Nat :=
  if inRanges Table.zeroWidth c.toNat then 0
  else if inRanges Table.wide c.toNat then 2
  else 1

def width (cs : List Char) : Nat := cs.foldl (fun n c => n + cellWidth c) 0

def fillRight (cells : Nat) (cs : List Char) : List Char :=
  cs ++ List.replicate (cells - width cs) ' '

def fillLeft (cells : Nat) (cs : List Char) : List Char :=
  List.replicate (cells - width cs) ' ' ++ cs

/-- Looks for a beginning of a text that takes a number of cells, by halving the part of the text
between two positions in which it ends. A wide character that does not fit becomes a space. -/
def cutBetween (cells : Nat) (cs : List Char) : Nat → Nat → Nat → List Char
  | 0, _, _ => []
  | rounds + 1, low, high =>
      let middle := (low + high) / 2
      let before := cs.take (middle + 1)
      if width before = cells then before
      else if width before = cells + 1 && before.getLast?.map cellWidth == some 2 then
        before.dropLast ++ [' ']
      else if cells < width before then cutBetween cells cs rounds low middle
      else cutBetween cells cs rounds middle high

/-- The beginning of a text that takes a number of cells, for a text that takes more. Characters
without a width at the end of it may be kept or not. -/
def cut (cells : Nat) (cs : List Char) : List Char :=
  if cells = 0 then [] else cutBetween cells cs (cs.length + 1) 0 cs.length

/-! ## Control characters -/

/-- Control characters that are left out of what is shown: bell, backspace, vertical tab, form feed
and carriage return. -/
def isSilent (c : Char) : Bool := [7, 8, 11, 12, 13].contains c.toNat

def audible (cs : List Char) : List Char := cs.filter fun c => !isSilent c

def tabStop : Nat := 8

/-- Spaces in place of tabs, in a text that begins at a column. -/
def expandTabsFrom (column : Nat) : List Char → List Char
  | [] => []
  | '\n' :: rest => '\n' :: expandTabsFrom 0 rest
  | '\t' :: rest =>
      let gap := tabStop - column % tabStop
      List.replicate gap ' ' ++ expandTabsFrom (column + gap) rest
  | c :: rest => c :: expandTabsFrom (column + cellWidth c) rest

/-- A text as it is shown: without silent characters and with spaces in place of tabs. -/
def displayed (cs : List Char) : List Char := expandTabsFrom 0 (audible cs)

end LintRunner.Text
