import LintRunner.Regex.Construct

/-!
# Reading patterns

`Pattern.read` turns the text of a pattern into a tree. The reader takes construct by construct from
the text and keeps the groups that are still open on a stack, so that reading a text in two parts is
reading the first part and going on with the second.

A sequence is read as *pieces*. A plain group contributes its pieces to the sequence around it once
it is known that it is not repeated as a whole; a group that sets flags stays one sealed piece.
-/

set_option autoImplicit false

namespace LintRunner.Regex

open LintRunner.Text

/-- A pattern as a tree, with the numbers of its named groups. -/
structure Pattern where
  node : Node
  names : List (List Char × Nat)
  deriving DecidableEq, Repr

/-! ## Pieces and open groups -/

/-- A part of a sequence; a sealed part is a group with flags of its own. -/
structure Piece where
  node : Node
  isSealed : Bool := false
  deriving DecidableEq, Repr

/-- What a repetition sign repeats: one piece, or the pieces of a plain group. -/
structure Item where
  pieces : List Piece
  isGroup : Bool := false
  deriving DecidableEq, Repr

/-- Whether an item cannot be repeated: a position, or a repetition. -/
def Item.isFinal : Item → Bool
  | { pieces := [{ node := .anchor _, isSealed := false }], isGroup := false } => true
  | { pieces := [{ node := .times .., isSealed := false }], isGroup := false } => true
  | _ => false

inductive Opened where
  | plain
  | flags
  | capture (group : Nat)
  | atomic
  | ahead (negated : Bool)
  /-- A look behind, and whether it lies in no other look behind. -/
  | behind (negated outermost : Bool)
  | given (group : Nat)
  | otherwise (group : Nat) (yes : Node)
  deriving DecidableEq, Repr

/-- A group that is still open: its kind, and the sequence, the finished alternatives and the flags
around it. Sequences and alternatives are kept with the newest part first. -/
structure Level where
  opened : Opened
  items : List Item
  branches : List (List Piece)
  scope : Scope
  deriving DecidableEq, Repr

structure Reading where
  levels : List Level := []
  items : List Item := []
  branches : List (List Piece) := []
  scope : Scope := {}
  /-- The letters of the flags that have been set for the whole pattern. -/
  flags : List Char := []
  /-- How many groups have been opened. -/
  groups : Nat := 0
  names : List (List Char × Nat) := []
  /-- The closed groups with their widths. -/
  closed : List (Nat × Nat × Nat) := []
  /-- Inside a look behind, the groups above this number cannot be referred to. -/
  behindLimit : Option Nat := none
  /-- The greatest group number that a condition asked for. -/
  asked : Nat := 0
  /-- A fault that is reported only once the whole text has been read. -/
  late : Bool := false
  deriving DecidableEq, Repr

namespace Reading

def push (st : Reading) (item : Item) : Reading := { st with items := item :: st.items }

def pushNode (st : Reading) (node : Node) : Reading := st.push { pieces := [{ node }] }

def pieces (st : Reading) : List Piece := st.items.reverse.flatMap Item.pieces

def openLevel (st : Reading) (opened : Opened) (scope : Scope) : Reading :=
  { st with
    levels := { opened, items := st.items, branches := st.branches, scope := st.scope } :: st.levels
    items := []
    branches := []
    scope }

/-- Whether a reference to a group is allowed here: the group is closed, and inside a look behind it
was closed before that. -/
def canRefer (st : Reading) (group : Nat) : Bool :=
  (st.closed.lookup group).isSome &&
    match st.behindLimit with
    | none => true
    | some limit => group ≤ limit

def canAsk (st : Reading) (group : Nat) : Bool :=
  st.behindLimit.isNone || st.canRefer group

end Reading

/-! ## Alternatives -/

def nodeOfPieces (pieces : List Piece) : Node := Node.ofList (pieces.map Piece.node)

/-- The first piece of all alternatives, if it is one and the same node that matches in one way. -/
def commonHead? : List (List Piece) → Option Piece
  | [] => none
  | [] :: _ => none
  | (head :: _) :: rest =>
      if !head.isSealed && head.node.isPlain && rest.all fun branch => branch.head? == some head
      then some head
      else none

/-- Takes equal first pieces out of all alternatives. The first argument bounds their number. -/
def factorHeads : Nat → List (List Piece) → List Piece × List (List Piece)
  | 0, branches => ([], branches)
  | n + 1, branches =>
      match commonHead? branches with
      | none => ([], branches)
      | some head =>
          let (heads, rest) := factorHeads n (branches.map List.tail)
          (head :: heads, rest)

/-- The members that an alternative adds to a set, if it is a single character or set. -/
def membersOf? : List Piece → Option (List Member × CaseRule)
  | [{ node := .code n false rule, isSealed := false }] => some ([.code n], rule)
  | [{ node := .set members false rule, isSealed := false }] => some (members, rule)
  | _ => none

/-- Alternatives that are single characters or sets as one set. -/
def mergeSets? : List (List Piece) → Option (List Member × CaseRule)
  | [] => none
  | [branch] => membersOf? branch
  | branch :: rest => do
      let (members, rule) ← membersOf? branch
      let (others, _) ← mergeSets? rest
      return (members ++ others, rule)

def piecesOfBranches : List (List Piece) → List Piece
  | [] => []
  | [branch] => branch
  | branches =>
      let (heads, rest) := factorHeads ((branches.map List.length).foldl max 0) branches
      match mergeSets? rest with
      | some (members, rule) => heads ++ [{ node := .set members.eraseDups false rule }]
      | none => heads ++ [{ node := Node.ofAlternatives (rest.map nodeOfPieces) }]

/-- The pieces of what the innermost parenthesis holds. -/
def Reading.contents (st : Reading) : List Piece :=
  piecesOfBranches ((st.pieces :: st.branches).reverse)

/-! ## Repetitions -/

def Reading.repeatLast (st : Reading) (greed : Greed) (least : Nat) (most : Option Nat) :
    Except Fault Reading :=
  match st.items with
  | [] => .error .malformed
  | item :: before =>
      if item.isFinal then .error .malformed
      else
        let node := Node.times greed least most (nodeOfPieces item.pieces)
        .ok { st with
          items := { pieces := [{ node }] } :: before
          late := st.late || st.scope.unrepeated }

/-! ## References -/

def Reading.refer (st : Reading) (group : Nat) : Except Fault Reading :=
  if st.canRefer group then .ok (st.pushNode (.same group st.scope.rule)) else .error .malformed

/-! ## Groups -/

/-- Begins a look behind. Inside it only the groups before the outermost one can be referred to. -/
def Reading.openBehind (st : Reading) (negated : Bool) : Reading :=
  { st.openLevel (.behind negated st.behindLimit.isNone) st.scope with
    behindLimit := some (st.behindLimit.getD st.groups) }

def Reading.openCapture (st : Reading) (name : Option (List Char)) : Except Fault Reading :=
  let group := st.groups + 1
  let st' := { st.openLevel (.capture group) st.scope with groups := group }
  match name with
  | none => .ok st'
  | some name =>
      if (st.names.lookup name).isSome then .error .malformed
      else .ok { st' with names := (name, group) :: st'.names }

/-- Group numbers in conditions end here. -/
def groupEnd : Nat := 1073741823

/-- Begins a condition on the group that is named or numbered by a text. -/
def Reading.openGiven (st : Reading) (name : List Char) : Except Fault Reading := do
  let (group, asked) ←
    if isIdentifier name then
      match st.names.lookup name with
      | some group => pure (group, st.asked)
      | none => throw .malformed
    else
      match integer? name with
      | some (.ofNat n) =>
          if n = 0 || groupEnd ≤ n then throw Fault.malformed else pure (n, max st.asked n)
      | _ => throw .malformed
  if st.canAsk group then return { st.openLevel (.given group) st.scope with asked }
  else throw .malformed

/-- Sets flags for the whole pattern, which is allowed only at its start. Once the text has been read, the
two alphabets exclude each other. -/
def Reading.setFlags (st : Reading) (add : List Char) : Except Fault Reading :=
  if st.levels.isEmpty && st.branches.isEmpty && st.items.isEmpty then
    let flags := st.flags ++ add
    let late := st.late || (flags.contains 'a' && flags.contains 'u')
    .ok { st with scope := st.scope.adjust add [], flags, late }
  else .error .malformed

/-- The greatest width that a look behind may have. -/
def behindEnd : Nat := 4294967295

def Reading.closeLevel (st : Reading) : Except Fault Reading :=
  match st.levels with
  | [] => .error .malformed
  | level :: levels =>
      let pieces := st.contents
      let body := nodeOfPieces pieces
      let outer := { st with
        levels, items := level.items, branches := level.branches, scope := level.scope }
      match level.opened with
      | .plain => .ok (outer.push { pieces, isGroup := true })
      | .flags => .ok (outer.push { pieces := [{ node := body, isSealed := true }] })
      | .capture group =>
          .ok { outer.pushNode (.capture group body) with
            closed := (group, body.width st.closed) :: st.closed }
      | .atomic => .ok (outer.pushNode (.atomic body))
      | .ahead negated => .ok (outer.pushNode (.ahead negated body))
      | .behind negated outermost =>
          let (lo, hi) := body.width st.closed
          .ok { outer.pushNode (.behind lo negated body) with
            behindLimit := if outermost then none else st.behindLimit
            late := st.late || lo != hi || behindEnd < lo }
      | .given group => .ok (outer.pushNode (.given group body .empty))
      | .otherwise group yes => .ok (outer.pushNode (.given group yes body))

/-- Begins the next alternative of the innermost group. A condition has two of them at most. -/
def Reading.nextBranch (st : Reading) : Except Fault Reading :=
  match st.levels with
  | { opened := .given group, items, branches, scope } :: levels =>
      let yes := nodeOfPieces st.pieces
      .ok { st with
        levels := { opened := .otherwise group yes, items, branches, scope } :: levels, items := [] }
  | { opened := .otherwise .., .. } :: _ => .error .malformed
  | _ => .ok { st with branches := st.pieces :: st.branches, items := [] }

/-! ## Whole patterns -/

def Reading.perform (st : Reading) : Construct → Except Fault Reading
  | .skip => .ok st
  | .atom node => .ok (st.pushNode node)
  | .refer group => st.refer group
  | .referTo name =>
      match st.names.lookup name with
      | some group => st.refer group
      | none => .error .malformed
  | .repetition greed least most => st.repeatLast greed least most
  | .plainGroup => .ok (st.openLevel .plain st.scope)
  | .flagGroup add del => .ok (st.openLevel .flags (st.scope.adjust add del))
  | .captureGroup name => st.openCapture name
  | .atomicGroup => .ok (st.openLevel .atomic st.scope)
  | .lookAhead negated => .ok (st.openLevel (.ahead negated) st.scope)
  | .lookBehind negated => .ok (st.openBehind negated)
  | .condition name => st.openGiven name
  | .close => st.closeLevel
  | .branch => st.nextBranch
  | .flags add => st.setFlags add

def Reading.step (st : Reading) (s : Symbol) (rest : List Symbol) :
    Except Fault (Reading × List Symbol) := do
  let (construct, rest') ← readConstruct st.scope s rest
  return (← st.perform construct, rest')

/-- Takes constructs until the text ends. The first argument bounds their number. -/
def Reading.run : Nat → Reading → List Symbol → Except Fault Reading
  | _, st, [] => .ok st
  | 0, _, _ => .error .malformed
  | fuel + 1, st, s :: rest => do
      let (st', rest') ← st.step s rest
      Reading.run fuel st' rest'

/-- The pattern that has been read, if every group is closed and every reference is met. -/
def Reading.finish (st : Reading) : Except Fault Pattern :=
  if !st.levels.isEmpty || st.groups < st.asked || st.late then .error .malformed
  else .ok { node := nodeOfPieces st.contents, names := st.names }

def Pattern.read (cs : List Char) : Except Fault Pattern := do
  let symbols ← orMalformed (Symbol.ofText? cs)
  let st ← Reading.run symbols.length {} symbols
  st.finish

end LintRunner.Regex
