/-!
# Narrow tables

Columns that are too wide together are made narrower: the widest ones down to the next width below, and
so on until there is room for all.
-/

set_option autoImplicit false

namespace LintRunner.Table

def totalWidth (widths : List Nat) : Nat := widths.foldl (· + ·) 0

def widestOf (widths : List Nat) : Nat := widths.foldl max 0

/-- A number divided into parts, rounded to the nearest; a half goes to the even neighbour. -/
def share (total parts : Nat) : Nat :=
  let quotient := total / parts
  let rest := 2 * (total % parts)
  if parts < rest || (rest == parts && quotient % 2 == 1) then quotient + 1 else quotient

/-- Takes cells away from the columns of the given width, of which so many are left; none gives more
than `most`. -/
def takeAway (widest most : Nat) : Nat → Nat → List Nat → List Nat
  | _, _, [] => []
  | excess, count, cells :: rest =>
      if cells = widest then
        let taken := min most (share excess count)
        (cells - taken) :: takeAway widest most (excess - taken) (count - 1) rest
      else cells :: takeAway widest most excess count rest

/-- Makes columns narrower in a number of rounds, until their cells are at most `room`. -/
def narrowIn : Nat → Nat → List Nat → List Nat
  | 0, _, widths => widths
  | rounds + 1, room, widths =>
      let excess := totalWidth widths - room
      if excess = 0 then widths
      else
        let widest := widestOf widths
        let next := widestOf (widths.filter fun cells => cells != widest)
        narrowIn rounds room
          (takeAway widest (min excess (widest - next)) excess (widths.count widest) widths)

/-- The widths of columns for which there are `room` cells. Each round takes away a cell at least. -/
def narrow (room : Nat) (widths : List Nat) : List Nat := narrowIn (totalWidth widths) room widths

end LintRunner.Table
