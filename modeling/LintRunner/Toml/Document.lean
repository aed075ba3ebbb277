import LintRunner.Toml.Scalar
import LintRunner.Ordered

/-!
# TOML documents

`Toml.read` reads a document as a table. While it goes on it remembers which tables were opened by a
header, so that none is opened twice, and which values were written in place, so that none is added
to later.
-/

set_option autoImplicit false

namespace LintRunner.Toml

open LintRunner.Text

abbrev Key := List String

abbrev Entries := List (String × Value)

/-! ## Places in a table -/

/-- Changes the table at a key, which is created if it is not there. A list stands for its last
item where `lists` allows it. The result is `none` if something else is in the way. -/
def changeAt (lists : Bool) (change : Entries → Option Entries) : Key → Entries → Option Entries
  | [], entries => change entries
  | part :: rest, entries => do
      match entries.lookup part with
      | none => return Ordered.put part (.table (← changeAt lists change rest [])) entries
      | some (.table inner) =>
          return Ordered.put part (.table (← changeAt lists change rest inner)) entries
      | some (.list items) =>
          match items.getLast? with
          | some (.table inner) =>
              if lists then
                let inner' ← changeAt lists change rest inner
                return Ordered.put part (.list (items.dropLast ++ [.table inner'])) entries
              else none
          | _ => none
      | some _ => none

def addEntry (name : String) (value : Value) (entries : Entries) : Option Entries :=
  if (entries.lookup name).isSome then none else some (entries ++ [(name, value)])

def addItem (name : String) (entries : Entries) : Option Entries :=
  match entries.lookup name with
  | none => some (entries ++ [(name, .list [.table []])])
  | some (.list items) => some (Ordered.put name (.list (items ++ [.table []])) entries)
  | some _ => none

/-- Whether a key or one of its beginnings is in a list. -/
def covers (keys : List Key) (key : Key) : Bool := keys.any fun start => start.isPrefixOf key

/-- Whether a value may not be added to once it has been written. -/
def isCompound : Value → Bool
  | .list _ | .table _ => true
  | _ => false

/-! ## Gaps and keys -/

def skipComment (cs : List Char) : Except Fault (List Char) :=
  match cs with
  | '#' :: rest =>
      if (rest.takeWhile fun c => c != '\n').any isControl then .error .malformed
      else .ok (rest.dropWhile fun c => c != '\n')
  | _ => .ok cs

/-- Drops blanks, line ends and comments. The first argument bounds the number of comments. -/
def skipLines : Nat → List Char → Except Fault (List Char)
  | 0, cs => .ok cs
  | fuel + 1, cs =>
      match cs.dropWhile fun c => isGap c || c == '\n' with
      | '#' :: rest => do skipLines fuel (← skipComment ('#' :: rest))
      | rest => .ok rest

def isKeyChar (c : Char) : Bool := isAsciiLetter c || isAsciiDigit c || c == '-' || c == '_'

def readKeyPart : List Char → Except Fault (String × List Char)
  | [] => .error .malformed
  | c :: rest =>
      if isKeyChar c then
        .ok (String.ofList ((c :: rest).takeWhile isKeyChar), (c :: rest).dropWhile isKeyChar)
      else if c == '"' || c == '\'' then
        (readLineString c rest).map fun (text, rest') => (String.ofList text, rest')
      else .error .malformed

/-- Reads a dotted key and the gap behind it. The first argument bounds the number of parts. -/
def readKey : Nat → List Char → Except Fault (Key × List Char)
  | 0, _ => .error .malformed
  | fuel + 1, cs => do
      let (part, rest) ← readKeyPart cs
      match skipGap rest with
      | '.' :: rest' =>
          let (more, rest'') ← readKey fuel (skipGap rest')
          return (part :: more, rest'')
      | rest' => return ([part], rest')

def readKeyEquals (cs : List Char) : Except Fault (Key × List Char) := do
  match ← readKey (cs.length + 1) cs with
  | (key, '=' :: rest) => return (key, skipGap rest)
  | _ => throw .malformed

/-! ## Values -/

def readScalar (cs : List Char) : Except Fault (Value × List Char) :=
  match cs with
  | [] => .error .malformed
  | c :: rest =>
      if c == '"' || c == '\'' then
        (readString c rest).map fun (text, rest') => (.string (String.ofList text), rest')
      else
        match dropText? "true".toList cs, dropText? "false".toList cs with
        | some rest', _ => .ok (.bool true, rest')
        | _, some rest' => .ok (.bool false, rest')
        | none, none => do
            match ← readMoment cs with
            | some (moment, rest') => return (.moment moment, rest')
            | none =>
                match readBased? cs with
                | some result => return result
                | none =>
                    match ← readDecimal cs with
                    | some result => return result
                    | none =>
                        match readSpecial? cs with
                        | some result => return result
                        | none => throw .malformed

mutual

/-- Reads a value. The first argument bounds the number of steps. -/
def readValue : Nat → List Char → Except Fault (Value × List Char)
  | 0, _ => .error .malformed
  | fuel + 1, '[' :: rest => do
      match ← skipLines rest.length rest with
      | ']' :: rest' => return (.list [], rest')
      | rest' => readItems fuel [] rest'
  | fuel + 1, '\x7b' :: rest =>
      match skipGap rest with
      | '\x7d' :: rest' => .ok (.table [], rest')
      | rest' => readEntries fuel [] [] rest'
  | _ + 1, cs => readScalar cs

/-- Reads the items of a list, those so far given last first. -/
def readItems : Nat → List Value → List Char → Except Fault (Value × List Char)
  | 0, _, _ => .error .malformed
  | fuel + 1, items, cs => do
      let (item, rest) ← readValue fuel cs
      match ← skipLines rest.length rest with
      | ']' :: rest' => return (.list (item :: items).reverse, rest')
      | ',' :: rest' =>
          match ← skipLines rest'.length rest' with
          | ']' :: rest'' => return (.list (item :: items).reverse, rest'')
          | rest'' => readItems fuel (item :: items) rest''
      | _ => throw .malformed

/-- Reads the entries of a table that is written in place, given the compound values so far. -/
def readEntries : Nat → List Key → Entries → List Char → Except Fault (Value × List Char)
  | 0, _, _, _ => .error .malformed
  | fuel + 1, frozen, entries, cs => do
      let (key, rest) ← readKeyEquals cs
      let (value, rest') ← readValue fuel rest
      if covers frozen key then throw .malformed
      match changeAt false (addEntry (key.getLast?.getD "") value) key.dropLast entries with
      | none => throw .malformed
      | some entries' =>
          match skipGap rest' with
          | '\x7d' :: rest'' => return (.table entries', rest'')
          | ',' :: rest'' =>
              let frozen' := if isCompound value then key :: frozen else frozen
              readEntries fuel frozen' entries' (skipGap rest'')
          | _ => throw .malformed

end

/-! ## Statements -/

structure Building where
  entries : Entries := []
  /-- The table that entries are added to. -/
  header : Key := []
  /-- Tables that no header may open any more. -/
  opened : List Key := []
  /-- Tables that no header may open once the current section has ended. -/
  pending : List Key := []
  /-- Values that nothing may be added to. -/
  frozen : List Key := []

/-- The beginnings of a key that are shorter than the key and not empty. -/
def properStarts (key : Key) : List Key :=
  (List.range (key.length - 1)).map fun n => key.take (n + 1)

def Building.addValue (b : Building) (key : Key) (value : Value) : Option Building :=
  let starts := (properStarts key).map (b.header ++ ·)
  let parent := b.header ++ key.dropLast
  if starts.any b.opened.contains || covers b.frozen parent then none
  else do
    let entries ← changeAt true (addEntry (key.getLast?.getD "") value) parent b.entries
    return { b with
      entries
      pending := starts ++ b.pending
      frozen := if isCompound value then (b.header ++ key) :: b.frozen else b.frozen }

def Building.endSection (b : Building) : Building :=
  { b with opened := b.pending ++ b.opened, pending := [] }

def Building.openTable (b : Building) (key : Key) : Option Building :=
  if b.opened.contains key || covers b.frozen key then none
  else do
    let entries ← changeAt true some key b.entries
    return { b with entries, header := key, opened := key :: b.opened }

/-- Opens a new item of a list of tables. What was opened in the item before it is free again. -/
def Building.openItem (b : Building) (key : Key) : Option Building :=
  if covers b.frozen key then none
  else do
    let entries ← changeAt true (addItem (key.getLast?.getD "")) key.dropLast b.entries
    let free := fun keys : List Key => keys.filter fun other => !key.isPrefixOf other
    return { b with entries, header := key, opened := key :: free b.opened, frozen := free b.frozen }

def orFault {α : Type} : Option α → Except Fault α
  | some a => .ok a
  | none => .error .malformed

def Building.readStatement (b : Building) (cs : List Char) : Except Fault (Building × List Char) := do
  match cs with
  | '[' :: '[' :: rest =>
      let (key, rest') ← readKey (rest.length + 1) (skipGap rest)
      let b' ← orFault (b.endSection.openItem key)
      return (b', ← orFault (dropText? [']', ']'] rest'))
  | '[' :: rest =>
      let (key, rest') ← readKey (rest.length + 1) (skipGap rest)
      let b' ← orFault (b.endSection.openTable key)
      return (b', ← orFault (dropText? [']'] rest'))
  | '#' :: _ => return (b, cs)
  | _ =>
      let (key, rest) ← readKeyEquals cs
      let (value, rest') ← readValue (2 * rest.length + 2) rest
      return (← orFault (b.addValue key value), rest')

/-- Reads statements up to the end of the text. The first argument bounds their number. -/
def readStatements : Nat → Building → List Char → Except Fault Building
  | 0, b, _ => .ok b
  | fuel + 1, b, cs =>
      match skipGap cs with
      | [] => .ok b
      | '\n' :: rest => readStatements fuel b rest
      | cs' => do
          let (b', rest) ← b.readStatement cs'
          match ← skipComment (skipGap rest) with
          | [] => return b'
          | '\n' :: rest' => readStatements fuel b' rest'
          | _ => throw .malformed

def unifyLineEnds : List Char → List Char
  | '\r' :: '\n' :: rest => '\n' :: unifyLineEnds rest
  | c :: rest => c :: unifyLineEnds rest
  | [] => []

def read (cs : List Char) : Except Fault Entries := do
  let text := unifyLineEnds cs
  return (← readStatements (text.length + 1) {} text).entries

end LintRunner.Toml
