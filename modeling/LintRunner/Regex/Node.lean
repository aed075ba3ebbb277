import LintRunner.Regex.CharSet

/-!
# Patterns as trees

A pattern is a tree of the constructs that the search understands. All flags are resolved when a
pattern is read, so a node means the same wherever it stands. `Node.width` bounds how many characters
a node can take, which decides whether a look behind is possible.
-/

set_option autoImplicit false

namespace LintRunner.Regex

/-- Conditions on a position. The ends of a line lie at line feeds; the end of the text also counts
as reached before a final line feed. -/
inductive Anchor where
  | textStart
  | textEnd
  | finalEnd
  | lineStart
  | lineEnd
  | boundary (negated ascii : Bool)
  deriving DecidableEq, Repr

/-- How a repetition chooses between going on and stopping: as long as possible, as short as
possible, or as long as possible without giving anything back. -/
inductive Greed where
  | greedy
  | lazy
  | possessive
  deriving DecidableEq, Repr

/-- Patterns. Groups are numbered from one. -/
inductive Node where
  | empty
  | code (n : Nat) (negated : Bool) (rule : CaseRule)
  | set (members : List Member) (negated : Bool) (rule : CaseRule)
  | any (newline : Bool)
  | anchor (a : Anchor)
  | cat (first second : Node)
  | alt (first second : Node)
  | times (greed : Greed) (least : Nat) (most : Option Nat) (body : Node)
  | capture (group : Nat) (body : Node)
  | atomic (body : Node)
  | ahead (negated : Bool) (body : Node)
  | behind (width : Nat) (negated : Bool) (body : Node)
  | same (group : Nat) (rule : CaseRule)
  | given (group : Nat) (yes no : Node)
  deriving DecidableEq, Repr

namespace Node

def ofList (nodes : List Node) : Node := nodes.foldr cat empty

def ofAlternatives : List Node → Node
  | [] => empty
  | [node] => node
  | node :: rest => alt node (ofAlternatives rest)

/-- Whether two equal occurrences of a node at the start of all alternatives are taken out of them:
nodes that can match in one way only. -/
def isPlain : Node → Bool
  | code .. | set .. | any .. | anchor .. | same .. => true
  | _ => false

/-- What a node accepts if it always takes exactly one character. -/
def single? : Node → Option (Char → Bool)
  | code n negated rule => some (codeAccepts n negated rule)
  | set members negated rule => some (setAccepts members negated rule)
  | any newline => some fun c => newline || c != '\n'
  | cat first .empty => single? first
  | _ => none

/-! ## Width -/

/-- Stands for no upper bound; larger than every width that a look behind allows. -/
def unbounded : Nat := Nat.pow 2 64

/-- The least and the greatest number of characters that a node takes, given those of the groups
closed so far. -/
def width (groups : List (Nat × Nat × Nat)) : Node → Nat × Nat
  | empty | anchor _ | ahead .. | behind .. => (0, 0)
  | code .. | set .. | any _ => (1, 1)
  | cat first second =>
      let a := first.width groups
      let b := second.width groups
      (a.1 + b.1, a.2 + b.2)
  | alt first second | given _ first second =>
      let a := first.width groups
      let b := second.width groups
      (min a.1 b.1, max a.2 b.2)
  | times _ least most body =>
      let w := body.width groups
      (w.1 * least,
        match most with
        | some n => w.2 * n
        | none => if w.2 = 0 then 0 else unbounded)
  | capture _ body | atomic body => body.width groups
  | same group _ => (groups.lookup group).getD (0, 0)

end Node

end LintRunner.Regex
