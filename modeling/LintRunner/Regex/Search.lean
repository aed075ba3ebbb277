import LintRunner.Regex.Reader

/-!
# Matching

`Node.search` tries a node at a place of a text and goes on with what follows it; if that fails it
tries the next way in which the node can match. The ways are tried in order of preference, so the
first success is the preferred match. What follows is a function from places to results, which makes
the search a recursion on the tree.

A place keeps the text on both sides, so that looking back and giving back a character are one step.
-/

set_option autoImplicit false

namespace LintRunner.Regex

open LintRunner.Text

/-! ## Places -/

/-- A position in a text: the characters before it, nearest first, those after it, and the number of
the former. -/
structure Place where
  before : List Char
  after : List Char
  offset : Nat
  deriving DecidableEq, Repr

namespace Place

def start (cs : List Char) : Place := ⟨[], cs, 0⟩

/-- One character back; the start stays. -/
def back (p : Place) : Place :=
  match p.before with
  | [] => p
  | c :: before => ⟨before, c :: p.after, p.offset - 1⟩

def backBy : Nat → Place → Place
  | 0, p => p
  | n + 1, p => backBy n p.back

def advance? (accepts : Char → Bool) (p : Place) : Option Place :=
  match p.after with
  | [] => none
  | c :: after => if accepts c then some ⟨c :: p.before, after, p.offset + 1⟩ else none

/-- Whether a limit on a count leaves room for one more. -/
def below (most : Option Nat) (count : Nat) : Bool :=
  match most with
  | none => true
  | some n => count < n

def advanceWhile (accepts : Char → Bool) (most : Option Nat) :
    List Char → Nat → Nat → List Char → Place × Nat
  | before, offset, count, [] => (⟨before, [], offset⟩, count)
  | before, offset, count, c :: after =>
      if below most count && accepts c then
        advanceWhile accepts most (c :: before) (offset + 1) (count + 1) after
      else (⟨before, c :: after, offset⟩, count)

/-- Whether the characters around a position differ in belonging to a word. A text without
characters has no word boundaries and no other positions either. -/
def onBoundary (negated ascii : Bool) (p : Place) : Bool :=
  let isW := if ascii then isAsciiWord else isWord
  if p.before.isEmpty && p.after.isEmpty then false
  else (p.before.head?.any isW != p.after.head?.any isW) != negated

def satisfies (p : Place) : Anchor → Bool
  | .textStart => p.before.isEmpty
  | .textEnd => p.after.isEmpty
  | .finalEnd => p.after.isEmpty || p.after == ['\n']
  | .lineStart => p.before.isEmpty || p.before.head? == some '\n'
  | .lineEnd => p.after.isEmpty || p.after.head? == some '\n'
  | .boundary negated ascii => p.onBoundary negated ascii

end Place

/-! ## Captures -/

structure Captures where
  starts : List (Nat × Nat) := []
  stops : List (Nat × Nat) := []
  deriving DecidableEq, Repr

namespace Captures

def put (entries : List (Nat × Nat)) (key value : Nat) : List (Nat × Nat) :=
  (key, value) :: entries.filter fun entry => entry.1 != key

def setStart (caps : Captures) (group offset : Nat) : Captures :=
  { caps with starts := put caps.starts group offset }

def setStop (caps : Captures) (group offset : Nat) : Captures :=
  { caps with stops := put caps.stops group offset }

/-- Start and end of a group that took part in the match. A group that has begun again and not yet
ended has its new start and its former end. -/
def span? (caps : Captures) (group : Nat) : Option (Nat × Nat) := do
  let start ← caps.starts.lookup group
  let stop ← caps.stops.lookup group
  if start ≤ stop then some (start, stop) else none

end Captures

/-- A place of the search together with the captures so far. -/
structure Trail where
  place : Place
  captures : Captures := {}
  deriving DecidableEq, Repr

/-- What follows a node: the result of the search from a trail on. -/
abbrev Next := Trail → Option Trail

/-! ## Repetitions of one character -/

/-- Tries what follows, and on failure gives back one character after the other. -/
def retreat (k : Next) (caps : Captures) : Nat → Place → Option Trail
  | 0, p => k ⟨p, caps⟩
  | n + 1, p =>
      match k ⟨p, caps⟩ with
      | some result => some result
      | none => retreat k caps n p.back

/-- Tries what follows, and on failure takes one more character of a class. -/
def extend (accepts : Char → Bool) (most : Option Nat) (k : Next) (caps : Captures) :
    List Char → Nat → Nat → List Char → Option Trail
  | before, offset, _, [] => k ⟨⟨before, [], offset⟩, caps⟩
  | before, offset, count, c :: after =>
      match k ⟨⟨before, c :: after, offset⟩, caps⟩ with
      | some result => some result
      | none =>
          if Place.below most count && accepts c then
            extend accepts most k caps (c :: before) (offset + 1) (count + 1) after
          else none

def repeatOne (greed : Greed) (least : Nat) (most : Option Nat) (accepts : Char → Bool) (k : Next)
    (t : Trail) : Option Trail :=
  let run := fun limit => Place.advanceWhile accepts limit t.place.before t.place.offset 0 t.place.after
  match greed with
  | .greedy =>
      let (p, count) := run most
      if count < least then none else retreat k t.captures (count - least) p
  | .possessive =>
      let (p, count) := run most
      if count < least then none else k ⟨p, t.captures⟩
  | .lazy =>
      let (p, count) := run (some least)
      if count < least then none
      else extend accepts most k t.captures p.before p.offset count p.after

/-! ## Repetitions of a pattern

`body` is the search of the repeated node. A round that would begin where the round before it began
is not tried again. The first argument bounds the number of rounds. -/

def repeatGreedy (body : Next → Next) (least : Nat) (most : Option Nat) (k : Next) :
    Nat → Nat → Option Nat → Next
  | 0, _, _, _ => none
  | fuel + 1, count, last, t =>
      if count < least then body (repeatGreedy body least most k fuel (count + 1) last) t
      else if Place.below most count && last != some t.place.offset then
        match body (repeatGreedy body least most k fuel (count + 1) (some t.place.offset)) t with
        | some result => some result
        | none => k t
      else k t

def repeatLazy (body : Next → Next) (least : Nat) (most : Option Nat) (k : Next) :
    Nat → Nat → Option Nat → Next
  | 0, _, _, _ => none
  | fuel + 1, count, last, t =>
      if count < least then body (repeatLazy body least most k fuel (count + 1) last) t
      else
        match k t with
        | some result => some result
        | none =>
            if Place.below most count && last != some t.place.offset then
              body (repeatLazy body least most k fuel (count + 1) (some t.place.offset)) t
            else none

/-- As long as possible, each round in its preferred way and for good. -/
def repeatPossessive (body : Next → Next) (least : Nat) (most : Option Nat) (k : Next) :
    Nat → Nat → Option Nat → Next
  | 0, _, _, _ => none
  | fuel + 1, count, last, t =>
      if count < least then
        match body some t with
        | some t' => repeatPossessive body least most k fuel (count + 1) last t'
        | none => none
      else if Place.below most count && last != some t.place.offset then
        match body some t with
        | some t' => repeatPossessive body least most k fuel (count + 1) (some t.place.offset) t'
        | none => k t
      else k t

/-- Repeats a pattern. After the required rounds every round but the last moves on. -/
def repeatBody (greed : Greed) (least : Nat) (most : Option Nat) (body : Next → Next) (k : Next)
    (t : Trail) : Option Trail :=
  let fuel := least + t.place.after.length + 3
  match greed with
  | .greedy => repeatGreedy body least most k fuel 0 none t
  | .lazy => repeatLazy body least most k fuel 0 none t
  | .possessive => repeatPossessive body least most k fuel 0 none t

/-! ## The search -/

/-- Steps over an earlier capture that is repeated here. -/
def repeatSpan (rule : CaseRule) : List Char → Place → Option Place
  | [], p => some p
  | c :: rest, p =>
      match p.advance? fun d => rule.normal d == rule.normal c with
      | some p' => repeatSpan rule rest p'
      | none => none

def Place.slice (p : Place) (start stop : Nat) : List Char :=
  ((p.before.reverse ++ p.after).drop start).take (stop - start)

/-- Tries a node and then what follows. -/
def Node.search : Node → Next → Next
  | .empty, k, t => k t
  | .code n negated rule, k, t =>
      match t.place.advance? (codeAccepts n negated rule) with
      | some p => k { t with place := p }
      | none => none
  | .set members negated rule, k, t =>
      match t.place.advance? (setAccepts members negated rule) with
      | some p => k { t with place := p }
      | none => none
  | .any newline, k, t =>
      match t.place.advance? fun c => newline || c != '\n' with
      | some p => k { t with place := p }
      | none => none
  | .anchor a, k, t => if t.place.satisfies a then k t else none
  | .cat first second, k, t => first.search (second.search k) t
  | .alt first second, k, t =>
      match first.search k t with
      | some result => some result
      | none => second.search k t
  | .times greed least most body, k, t =>
      match body.single? with
      | some accepts => repeatOne greed least most accepts k t
      | none => repeatBody greed least most body.search k t
  | .capture group body, k, t =>
      body.search
        (fun t' => k { t' with captures := t'.captures.setStop group t'.place.offset })
        { t with captures := t.captures.setStart group t.place.offset }
  | .atomic body, k, t =>
      match body.search some t with
      | some t' => k t'
      | none => none
  | .ahead negated body, k, t =>
      match body.search some t with
      | some t' => if negated then none else k { t with captures := t'.captures }
      | none => if negated then k t else none
  | .behind width negated body, k, t =>
      if t.place.offset < width then (if negated then k t else none)
      else
        match body.search some { t with place := t.place.backBy width } with
        | some t' => if negated then none else k { t with captures := t'.captures }
        | none => if negated then k t else none
  | .same group rule, k, t =>
      match t.captures.span? group with
      | none => none
      | some (start, stop) =>
          match repeatSpan rule (t.place.slice start stop) t.place with
          | some p => k { t with place := p }
          | none => none
  | .given group yes no, k, t =>
      if (t.captures.span? group).isSome then yes.search k t else no.search k t

/-! ## Whole texts -/

structure Match where
  text : List Char
  names : List (List Char × Nat)
  captures : Captures
  deriving DecidableEq, Repr

/-- The preferred match of a pattern with a whole text. That nothing is left over is a condition on
the match and not only on the preferred way to begin it. -/
def Pattern.fullMatch? (pattern : Pattern) (cs : List Char) : Option Match :=
  let atEnd : Next := fun t => if t.place.after.isEmpty then some t else none
  (pattern.node.search atEnd ⟨Place.start cs, {}⟩).map fun t =>
    { text := cs, names := pattern.names, captures := t.captures }

/-- What a named group captured: `none` if the pattern has no group of that name, `some none` if
the group took no part in the match. -/
def Match.group? (m : Match) (name : List Char) : Option (Option (List Char)) :=
  (m.names.lookup name).map fun group =>
    (m.captures.span? group).map fun (start, stop) => (m.text.drop start).take (stop - start)

end LintRunner.Regex
