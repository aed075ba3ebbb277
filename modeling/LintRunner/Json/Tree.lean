import LintRunner.Failure
import LintRunner.Text.CharClass

/-!
# JSON

Documents of JSON as trees, and their text in ASCII with one member or item on a line. A document whose
numbers have too many digits is not written.
-/

set_option autoImplicit false

namespace LintRunner

/-- A document of JSON; its numbers are natural. -/
inductive Json where
  | null
  | number (n : Nat)
  | string (s : String)
  | array (items : List Json)
  | object (members : List (String × Json))
  deriving Repr

namespace Json

/-! ## Strings -/

/-- A unit of sixteen bits by its number. -/
def unitEscape (n : Nat) : List Char := '\\' :: 'u' :: Text.hexDigits 4 n

/-- A character between quotes. What is not visible ASCII is written by its number, and beyond the
first plane as two halves. -/
def escapeChar (c : Char) : List Char :=
  match c with
  | '"' => ['\\', '"']
  | '\\' => ['\\', '\\']
  | '\n' => ['\\', 'n']
  | '\r' => ['\\', 'r']
  | '\t' => ['\\', 't']
  | '\x08' => ['\\', 'b']
  | '\x0c' => ['\\', 'f']
  | c =>
      if ' ' ≤ c && c ≤ '~' then [c]
      else if c.toNat < 0x10000 then unitEscape c.toNat
      else
        unitEscape (0xD800 + (c.toNat - 0x10000) / 0x400) ++
          unitEscape (0xDC00 + (c.toNat - 0x10000) % 0x400)

def quote (s : String) : List Char := '"' :: s.toList.flatMap escapeChar ++ ['"']

/-! ## Trees -/

def newline (depth : Nat) : List Char := '\n' :: List.replicate (2 * depth) ' '

/-- Parts between brackets, each on a line of its own; the brackets of nothing stay together. -/
def bracket (depth : Nat) (opening closing : Char) (parts : List (List Char)) : List Char :=
  if parts.isEmpty then [opening, closing]
  else
    opening :: newline (depth + 1) ++
      List.intercalate (',' :: newline (depth + 1)) parts ++ newline depth ++ [closing]

mutual

def render (depth : Nat) : Json → List Char
  | null => "null".toList
  | number n => Text.digits n
  | string s => quote s
  | array items => bracket depth '[' ']' (renderItems depth items)
  | object members => bracket depth '\x7b' '\x7d' (renderMembers depth members)

def renderItems (depth : Nat) : List Json → List (List Char)
  | [] => []
  | item :: rest => render (depth + 1) item :: renderItems depth rest

def renderMembers (depth : Nat) : List (String × Json) → List (List Char)
  | [] => []
  | (key, value) :: rest =>
      (quote key ++ [':', ' '] ++ render (depth + 1) value) :: renderMembers depth rest

end

def text (json : Json) : String := String.ofList (render 0 json)

/-! ## Writing -/

mutual

def isWritable : Json → Bool
  | null | string _ => true
  | number n => Text.isWritable n
  | array items => itemsWritable items
  | object members => membersWritable members

def itemsWritable : List Json → Bool
  | [] => true
  | item :: rest => isWritable item && itemsWritable rest

def membersWritable : List (String × Json) → Bool
  | [] => true
  | (_, value) :: rest => isWritable value && membersWritable rest

end

def write (json : Json) : Except Failure String :=
  if json.isWritable then .ok json.text else .error (.digitLimit none)

end Json

end LintRunner
