import LintRunner.Failure
import LintRunner.Markup
import LintRunner.Table.Narrow
import LintRunner.Text.Wrap

/-!
# Tables

Sheets are what a printer is given: tables of text, and lines. How they are shown is up to the printer; it may
refuse a sheet for the markup of its texts. The printer for terminals makes a column as wide as its widest
cell, if the screen has room for all columns, with a space on both sides of every cell. It knows tags of
attributes, colours, backgrounds and links; it does not look into tags that begin with an at sign, a mixture
of colours without numbers is no style to it, and it leaves the short names of emoji as they are.
-/

set_option autoImplicit false

namespace LintRunner

open Text

namespace Table

/-! ## Cells -/

inductive Cell where
  | plain (s : String)
  | marked (s : String)
  deriving DecidableEq, Repr

def readMarked (s : String) : Except PrintProblem (List Char) :=
  match Markup.read? s with
  | some cs => .ok (audible cs)
  | none => .error .unbalancedMarkup

def Cell.read : Cell → Except PrintProblem (List Char)
  | plain s => .ok (audible s.toList)
  | marked s => readMarked s

/-- A column: its title, the side that its cells are pushed to, and what becomes of words that are too
wide. -/
structure Column where
  title : String
  alignRight : Bool := false
  overlong : Overlong := .cutOff
  deriving DecidableEq, Repr

def Column.align (column : Column) (cells : Nat) (line : List Char) : List Char :=
  if column.alignRight then fillLeft cells line else fillRight cells line

/-! ## Frames -/

/-- What stands to the left of, between and to the right of the columns. -/
structure Bars where
  left : List Char
  between : List Char
  right : List Char
  deriving DecidableEq, Repr

def Bars.join (bars : Bars) (parts : List (List Char)) : List Char :=
  bars.left ++ List.intercalate bars.between parts ++ bars.right

structure Rule where
  stroke : Char
  bars : Bars
  deriving DecidableEq, Repr

def Rule.draw (rule : Rule) (widths : List Nat) : List Char :=
  rule.bars.join (widths.map fun cells => List.replicate cells rule.stroke)

/-- The lines of a table: rules above, below the titles and below, and the bars of both parts. -/
structure Frame where
  top : Option Rule
  titles : Bars
  middle : Rule
  rows : Bars
  bottom : Option Rule
  deriving DecidableEq, Repr

def Bars.width (bars : Bars) (columns : Nat) : Nat :=
  bars.left.length + (columns - 1) * bars.between.length + bars.right.length

def bars (left between right : String) : Bars :=
  { left := left.toList, between := between.toList, right := right.toList }

def Frame.open : Frame :=
  { top := none
    titles := bars "" " " ""
    middle := { stroke := '─', bars := bars "" "─" "" }
    rows := bars "" " " ""
    bottom := none }

def Frame.boxed : Frame :=
  { top := some { stroke := '━', bars := bars "┏" "┳" "┓" }
    titles := bars "┃" "┃" "┃"
    middle := { stroke := '━', bars := bars "┡" "╇" "┩" }
    rows := bars "│" "│" "│"
    bottom := some { stroke := '─', bars := bars "└" "┴" "┘" } }

/-! ## Layout -/

/-- The cells that each column asks for: those of its title or of its widest cell, and the spaces on
both sides. -/
def wantedWidths (columns : List Column) (rows : List (List (List Char))) : List Nat :=
  let titles := columns.map fun column => measured column.title.toList
  let widths := rows.foldl (fun widths row => List.zipWith max widths (row.map measured)) titles
  widths.map (· + 2)

def columnWidths (room : Nat) (columns : List Column) (rows : List (List (List Char))) : List Nat :=
  narrow room ((wantedWidths columns rows).map (min room))

def cellLines (column : Column) (cells : Nat) (cs : List Char) : List (List Char) :=
  (wrap (cells - 2) column.overlong cs).map fun line =>
    ' ' :: column.align (cells - 2) line ++ [' ']

/-- The lines of a row; short cells are filled up with blank lines. -/
def rowLines (frameBars : Bars) (columns : List Column) (widths : List Nat)
    (row : List (List Char)) : List (List Char) :=
  let cells := List.zipWith (fun (column : Column × Nat) cs => cellLines column.1 column.2 cs)
    (columns.zip widths) row
  let height := (cells.map List.length).foldl max 0
  (List.range height).map fun i =>
    frameBars.join (List.zipWith
      (fun cells lines => (lines[i]?).getD (List.replicate cells ' ')) widths cells)

/-- The lines of a title above a table of the given width. An empty title has none; blanks behind a
title that stick out are dropped. -/
def titleLines (cells : Nat) (title : String) : List (List Char) :=
  match displayed title.toList with
  | [] => []
  | cs => (splitOnChar '\n' cs).map (trimExcess cells)

end Table

/-! ## Sheets -/

structure Table where
  frame : Table.Frame
  title : String := ""
  columns : List Table.Column
  rows : List (List Table.Cell)
  deriving DecidableEq, Repr

/-- Something to print: a table, or a line of text with markup. -/
inductive Sheet where
  | table (table : Table)
  | line (s : String)
  deriving DecidableEq, Repr

def Sheet.marked : Sheet → List String
  | table t => t.rows.flatten.filterMap fun cell =>
      match cell with
      | .plain _ => none
      | .marked s => some s
  | line s => [s]

/-- How sheets are shown. -/
abbrev Printer := Sheet → Except PrintProblem String

namespace Table

/-! ## Terminals -/

def layout (screen : Nat) (frame : Frame) (title : String) (columns : List Column)
    (rows : List (List (List Char))) : List (List Char) :=
  let barCells := frame.rows.width columns.length
  let widths := columnWidths (screen - barCells) columns rows
  let rule := fun rule : Rule => rule.draw widths
  titleLines (totalWidth widths + barCells) title ++ (frame.top.map rule).toList ++
    rowLines frame.titles columns widths (columns.map fun column => column.title.toList) ++
    [rule frame.middle] ++ rows.flatMap (rowLines frame.rows columns widths) ++
    (frame.bottom.map rule).toList

def linesText (lines : List (List Char)) : String :=
  String.ofList (lines.flatMap fun line => line ++ ['\n'])

def text (screen : Nat) (table : Table) : Except PrintProblem String := do
  let cells ← table.rows.mapM fun row => row.mapM Cell.read
  return linesText (layout screen table.frame table.title table.columns cells)

end Table

def Printer.terminal (screen : Nat) : Printer
  | .table table => table.text screen
  | .line s => do return Table.linesText (wrap screen .fold (← Table.readMarked s))

end LintRunner
