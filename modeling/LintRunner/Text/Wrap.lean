import LintRunner.Text.Lines
import LintRunner.Text.Width

/-!
# Wrapping

Texts as lines that fit into a number of cells. Lines are broken in front of words; a word that is
wider than a whole line is broken where the line is full, or left to be cut off.
-/

set_option autoImplicit false

namespace LintRunner.Text

/-- Whether a character is one that starts a new line when a text is measured. -/
def isLineEnd (c : Char) : Bool :=
  [10, 11, 12, 13, 28, 29, 30, 133, 8232, 8233].contains c.toNat

def measuredLines : List Char → List (List Char)
  | [] => [[]]
  | c :: cs =>
      if isLineEnd c then [] :: measuredLines cs
      else
        match measuredLines cs with
        | [] => [[c]]
        | line :: rest => (c :: line) :: rest

/-- The cells of the widest line of a text. -/
def measured (cs : List Char) : Nat := ((measuredLines cs).map width).foldl max 0

/-- Cuts a text in front of every word but the first. -/
def chunks : List Char → List (List Char)
  | [] => []
  | c :: cs =>
      match chunks cs with
      | [] => [[c]]
      | chunk :: rest =>
          if isBlank c && !(chunk.head?.map isBlank).getD true then [c] :: chunk :: rest
          else (c :: chunk) :: rest

/-- Blanks in front of the first word belong to it. -/
def joinLeading : List (List Char) → List (List Char)
  | first :: second :: rest =>
      if first.all isBlank then (first ++ second) :: rest else first :: second :: rest
  | list => list

def trimEnd (cs : List Char) : List Char := (cs.reverse.dropWhile isBlank).reverse

/-- A text in pieces that are full; the first piece has been begun, and its characters are given the
last one first. -/
def piecesFrom (cells : Nat) : List Char → Nat → List Char → List (List Char)
  | line, _, [] => [line.reverse]
  | line, used, c :: cs =>
      if cells < used + cellWidth c then
        line.reverse :: piecesFrom cells [c] (cellWidth c) cs
      else piecesFrom cells (c :: line) (used + cellWidth c) cs

/-- What to do with a word that is wider than a line. -/
inductive Overlong where
  | fold
  | cutOff
  deriving DecidableEq, Repr

/-- Lines in the making: those that are finished, and the one that is being filled. -/
structure Filling where
  finished : List (List Char) := []
  line : List Char := []
  used : Nat := 0
  started : Bool := false

namespace Filling

/-- Begins a new line, unless nothing has been placed yet. -/
def breakLine (f : Filling) : List (List Char) :=
  if f.started then f.finished ++ [f.line] else f.finished

/-- Places a word with the blanks behind it. -/
def place (cells : Nat) (overlong : Overlong) (f : Filling) (chunk : List Char) : Filling :=
  let word := width (trimEnd chunk)
  if f.used + word ≤ cells then
    { f with line := f.line ++ chunk, used := f.used + width chunk, started := true }
  else if word ≤ cells || overlong == .cutOff then
    { finished := f.breakLine, line := chunk, used := width chunk, started := true }
  else
    let parts := piecesFrom cells [] 0 chunk
    let last := parts.getLast?.getD []
    { finished := f.breakLine ++ parts.dropLast, line := last, used := width last, started := true }

end Filling

/-- A line without the blanks at its end that do not fit. -/
def trimExcess (cells : Nat) (cs : List Char) : List Char :=
  let blanks := cs.length - (trimEnd cs).length
  cs.take (cs.length - min blanks (cs.length - cells))

def fit (cells : Nat) (overlong : Overlong) (cs : List Char) : List Char :=
  let line := trimExcess cells cs
  if width line ≤ cells then line
  else
    match overlong with
    | .fold => cut cells line
    | .cutOff => cut (cells - 1) line ++ ['…']

def wrapLine (cells : Nat) (overlong : Overlong) (cs : List Char) : List (List Char) :=
  let f := (joinLeading (chunks cs)).foldl (Filling.place cells overlong) {}
  (f.finished ++ [f.line]).map (fit cells overlong)

def wrap (cells : Nat) (overlong : Overlong) (cs : List Char) : List (List Char) :=
  (splitOnChar '\n' (displayed cs)).flatMap (wrapLine cells overlong)

end LintRunner.Text
