import LintRunner.Ordered
import LintRunner.Toml.Scalar

/-!
# Reading JSON

`Json.read?` reads the text of a document as a value. Strings may hold any character but controls, and
escapes; characters beyond the first plane may be written in two halves, and a half without the other one
is refused, as is a whole number with too many digits. A member that comes again replaces the earlier one.
-/

set_option autoImplicit false

namespace LintRunner.Json

open LintRunner.Text

def isGap (c : Char) : Bool := c == ' ' || c == '\t' || c == '\n' || c == '\r'

def skipGap (cs : List Char) : List Char := cs.dropWhile isGap

/-! ## Strings -/

def escapeOf? (c : Char) : Option Char :=
  [('"', '"'), ('\\', '\\'), ('/', '/'), ('b', '\x08'), ('f', '\x0c'), ('n', '\n'), ('r', '\r'),
    ('t', '\t')].lookup c

def unitOf? (ds : List Char) : Option Nat :=
  (ds.mapM hexValue?).map fun values => values.foldl (fun n d => 16 * n + d) 0

/-- Reads a string up to the quote at its end, as the numbers of its characters and halves. -/
def readUnits? : List Char → Option (List Nat × List Char)
  | [] => none
  | '"' :: rest => some ([], rest)
  | '\\' :: 'u' :: a :: b :: c :: d :: rest =>
      (unitOf? [a, b, c, d]).bind fun unit =>
        (readUnits? rest).map fun (units, rest') => (unit :: units, rest')
  | '\\' :: c :: rest =>
      (escapeOf? c).bind fun e => (readUnits? rest).map fun (units, rest') => (e.toNat :: units, rest')
  | c :: rest =>
      if c.toNat < 32 then none
      else (readUnits? rest).map fun (units, rest') => (c.toNat :: units, rest')

def isFirstHalf (n : Nat) : Bool := 0xD800 ≤ n && n < 0xDC00

def isSecondHalf (n : Nat) : Bool := 0xDC00 ≤ n && n < 0xE000

/-- The characters of numbers, of which two may be the halves of one. -/
def charsOf? : List Nat → Option (List Char)
  | [] => some []
  | [n] => if n.isValidChar then some [Char.ofNat n] else none
  | n :: m :: rest =>
      if isFirstHalf n && isSecondHalf m then
        (charsOf? rest).map fun cs => Char.ofNat (0x10000 + 0x400 * (n - 0xD800) + (m - 0xDC00)) :: cs
      else if n.isValidChar then (charsOf? (m :: rest)).map fun cs => Char.ofNat n :: cs
      else none

/-- Reads a string whose first quote has been taken. -/
def readString? (cs : List Char) : Option (String × List Char) := do
  let (units, rest) ← readUnits? cs
  let text ← charsOf? units
  return (String.ofList text, rest)

/-! ## Numbers and words -/

def takeMinus : List Char → Bool × List Char
  | '-' :: rest => (true, rest)
  | cs => (false, cs)

def takeDigits (cs : List Char) : List Char × List Char :=
  (cs.takeWhile isAsciiDigit, cs.dropWhile isAsciiDigit)

def numberOf (ds : List Char) : Nat := ofDigits (ds.map fun c => c.toNat - 48)

/-- Takes the digits of a whole number, which has no zeros in front. -/
def takeWhole : List Char → List Char × List Char
  | '0' :: rest => (['0'], rest)
  | cs => takeDigits cs

def takeFraction : List Char → List Char × List Char
  | '.' :: rest => if (takeDigits rest).1.isEmpty then ([], '.' :: rest) else takeDigits rest
  | cs => ([], cs)

def takeExponent : List Char → Option Int × List Char
  | c :: rest =>
      if c == 'e' || c == 'E' then
        let (negative, rest₁) := Toml.takeSign rest
        let (ds, rest₂) := takeDigits rest₁
        if ds.isEmpty then (none, c :: rest)
        else
          let n : Int := numberOf ds
          (some (if negative then -n else n), rest₂)
      else (none, c :: rest)
  | [] => (none, [])

/-- Reads a number; one with a fraction or a power of ten is a floating-point number. -/
def readNumber? (cs : List Char) : Option (Value × List Char) :=
  let (negative, rest₁) := takeMinus cs
  let (whole, rest₂) := takeWhole rest₁
  let (fraction, rest₃) := takeFraction rest₂
  let (exponent, rest₄) := takeExponent rest₃
  if whole.isEmpty then none
  else if fraction.isEmpty && exponent.isNone then
    let n : Int := numberOf whole
    if maxDigits < whole.length then none else some (.int (if negative then -n else n), rest₄)
  else
    let e := exponent.getD 0 - fraction.length
    some (.float (Toml.bitsOf negative (whole ++ fraction) e), rest₄)

def words : List (String × Value) := [("null", .null), ("true", .bool true), ("false", .bool false)]

def readWord? (cs : List Char) : Option (Value × List Char) :=
  words.findSome? fun (word, value) =>
    (Toml.dropText? word.toList cs).map fun rest => (value, rest)

/-! ## Documents -/

section

variable {α : Type} (readPart? : List Char → Option (α × List Char)) (closing : Char)

/-- Reads parts with commas between them, the first of which is there, up to a closing bracket. The number
bounds how many parts there are. -/
def readParts? : Nat → List Char → Option (List α × List Char)
  | 0, _ => none
  | bound + 1, cs => do
      let (part, rest) ← readPart? cs
      match skipGap rest with
      | [] => none
      | c :: rest' =>
          if c = closing then some ([part], rest')
          else if c = ',' then
            (readParts? bound (skipGap rest')).map fun (parts, rest'') => (part :: parts, rest'')
          else none

/-- Reads parts up to a closing bracket; the opening one has been taken. -/
def readBracket? (cs : List Char) : Option (List α × List Char) :=
  match skipGap cs with
  | [] => none
  | c :: rest =>
      if c = closing then some ([], rest)
      else readParts? readPart? closing (rest.length + 1) (c :: rest)

end

def readMember? (readValue? : List Char → Option (Value × List Char)) :
    List Char → Option ((String × Value) × List Char)
  | '"' :: cs => do
      let (key, rest) ← readString? cs
      match skipGap rest with
      | ':' :: rest' =>
          (readValue? (skipGap rest')).map fun (value, rest'') => ((key, value), rest'')
      | _ => none
  | _ => none

/-- Reads a value. The number bounds how deep brackets are nested. -/
def readValue? : Nat → List Char → Option (Value × List Char)
  | 0, _ => none
  | _ + 1, '"' :: cs => (readString? cs).map fun (s, rest) => (.string s, rest)
  | depth + 1, '[' :: cs =>
      (readBracket? (readValue? depth) ']' cs).map fun (items, rest) => (.list items, rest)
  | depth + 1, '\x7b' :: cs =>
      (readBracket? (readMember? (readValue? depth)) '\x7d' cs).map fun (members, rest) =>
        (.table (Ordered.ofList members), rest)
  | _ + 1, cs => (readWord? cs).or (readNumber? cs)

def read? (text : String) : Option Value := do
  let (value, rest) ← readValue? (text.length + 1) (skipGap text.toList)
  if (skipGap rest).isEmpty then some value else none

end LintRunner.Json
