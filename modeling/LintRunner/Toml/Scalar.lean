import LintRunner.Value

/-!
# Scalars of TOML

Readers for the lexemes of TOML 1.0: strings, numbers, dates and times. A reader takes its lexeme
from the front of a text and returns what is left.
-/

set_option autoImplicit false

namespace LintRunner.Toml

open LintRunner.Text

inductive Fault where
  /-- The text does not follow the grammar, or defines something twice. -/
  | malformed
  /-- A decimal number has more digits than a number may have. -/
  | digitLimit (digits : Nat)
  deriving DecidableEq, Repr

def isGap (c : Char) : Bool := c == ' ' || c == '\t'

/-- Controls, which may not stand in a document; a tab may. -/
def isControl (c : Char) : Bool := (c.toNat < 32 && c != '\t') || c.toNat = 127

def skipGap (cs : List Char) : List Char := cs.dropWhile isGap

def dropText? : List Char → List Char → Option (List Char)
  | [], cs => some cs
  | c :: text, d :: cs => if c == d then dropText? text cs else none
  | _ :: _, [] => none

/-! ## Strings -/

def escapeOf? (c : Char) : Option Char :=
  [('b', '\x08'), ('t', '\t'), ('n', '\n'), ('f', '\x0c'), ('r', '\r'), ('"', '"'),
    ('\\', '\\')].lookup c

def readCodePoint (width : Nat) (cs : List Char) : Except Fault (Char × List Char) :=
  let ds := cs.take width
  let n := ds.foldl (fun n c => 16 * n + (hexValue? c).getD 0) 0
  if ds.length = width && ds.all (fun c => (hexValue? c).isSome) && n.isValidChar then
    .ok (Char.ofNat n, cs.drop width)
  else .error .malformed

/-- Drops the rest of a line behind a backslash and the blanks up to the next text. -/
def readLineJoin (cs : List Char) : Except Fault (List Char) :=
  match skipGap cs with
  | [] => .ok []
  | '\n' :: rest => .ok (rest.dropWhile fun c => isGap c || c == '\n')
  | _ => .error .malformed

def readEscape (multiline : Bool) : List Char → Except Fault (List Char × List Char)
  | [] => .error .malformed
  | c :: rest =>
      if multiline && (isGap c || c == '\n') then
        (readLineJoin (c :: rest)).map fun rest' => ([], rest')
      else if c == 'u' then (readCodePoint 4 rest).map fun (d, rest') => ([d], rest')
      else if c == 'U' then (readCodePoint 8 rest).map fun (d, rest') => ([d], rest')
      else
        match escapeOf? c with
        | some d => .ok ([d], rest)
        | none => .error .malformed

/-- Reads the text of a string between double quotes. The characters so far are given last first;
the first argument bounds the number of characters and escapes. -/
def readBasic (multiline : Bool) : Nat → List Char → List Char → Except Fault (List Char × List Char)
  | 0, _, _ => .error .malformed
  | _, _, [] => .error .malformed
  | fuel + 1, done, '"' :: rest =>
      if !multiline then .ok (done.reverse, rest)
      else
        match dropText? ['"', '"'] rest with
        | some rest' => .ok (done.reverse, rest')
        | none => readBasic multiline fuel ('"' :: done) rest
  | fuel + 1, done, '\\' :: rest => do
      let (text, rest') ← readEscape multiline rest
      readBasic multiline fuel (text.reverse ++ done) rest'
  | fuel + 1, done, c :: rest =>
      if isControl c && !(multiline && c == '\n') then .error .malformed
      else readBasic multiline fuel (c :: done) rest

def splitAtText? (mark : List Char) : List Char → Option (List Char × List Char)
  | [] => none
  | c :: rest =>
      match dropText? mark (c :: rest) with
      | some rest' => some ([], rest')
      | none => (splitAtText? mark rest).map fun (text, rest') => (c :: text, rest')

def readLiteral (multiline : Bool) (cs : List Char) : Except Fault (List Char × List Char) :=
  match splitAtText? (if multiline then ['\'', '\'', '\''] else ['\'']) cs with
  | none => .error .malformed
  | some (text, rest) =>
      if text.any fun c => isControl c && !(multiline && c == '\n') then .error .malformed
      else .ok (text, rest)

/-- Up to two more quotes right behind the end of a string of several lines belong to its text. -/
def takeFinalQuotes (quote : Char) (text rest : List Char) : List Char × List Char :=
  match rest with
  | c :: d :: rest' =>
      if c == quote && d == quote then (text ++ [quote, quote], rest')
      else if c == quote then (text ++ [quote], d :: rest')
      else (text, rest)
  | [c] => if c == quote then (text ++ [quote], []) else (text, rest)
  | [] => (text, rest)

def dropLineFeed : List Char → List Char
  | '\n' :: rest => rest
  | cs => cs

def readLineString (quote : Char) (cs : List Char) : Except Fault (List Char × List Char) :=
  if quote == '"' then readBasic false (cs.length + 1) [] cs else readLiteral false cs

def readString (quote : Char) (cs : List Char) : Except Fault (List Char × List Char) :=
  match dropText? [quote, quote] cs with
  | none => readLineString quote cs
  | some rest => do
      let body := dropLineFeed rest
      let (text, rest') ←
        if quote == '"' then readBasic true (body.length + 1) [] body else readLiteral true body
      return takeFinalQuotes quote text rest'

/-! ## Numbers -/

/-- Digits of a class with single low lines between them. -/
def takeDigits (p : Char → Bool) : List Char → List Char × List Char
  | [] => ([], [])
  | c :: '_' :: d :: rest =>
      if !p c then ([], c :: '_' :: d :: rest)
      else if !p d then ([c], '_' :: d :: rest)
      else
        let (ds, rest') := takeDigits p (d :: rest)
        (c :: ds, rest')
  | c :: rest =>
      if p c then
        let (ds, rest') := takeDigits p rest
        (c :: ds, rest')
      else ([], c :: rest)

def numberOf (base : Nat) (ds : List Char) : Nat :=
  ds.foldl (fun n c => base * n + (hexValue? c).getD 0) 0

def baseOf? (c : Char) : Option Nat := [('x', 16), ('o', 8), ('b', 2)].lookup c

def isDigitOf (base : Nat) (c : Char) : Bool :=
  match hexValue? c with
  | some n => n < base
  | none => false

def readBased? : List Char → Option (Value × List Char)
  | '0' :: c :: rest => do
      let base ← baseOf? c
      let (ds, rest') := takeDigits (isDigitOf base) rest
      if ds.isEmpty then none else some (.int (numberOf base ds), rest')
  | _ => none

def takeSign : List Char → Bool × List Char
  | '-' :: rest => (true, rest)
  | '+' :: rest => (false, rest)
  | cs => (false, cs)

/-- Takes the digits of a whole number, which has no zeros in front. -/
def takeWhole : List Char → List Char × List Char
  | '0' :: rest => (['0'], rest)
  | cs => takeDigits isAsciiDigit cs

def takeFraction : List Char → List Char × List Char
  | '.' :: rest =>
      let (ds, rest') := takeDigits isAsciiDigit rest
      if ds.isEmpty then ([], '.' :: rest) else (ds, rest')
  | cs => ([], cs)

def takeExponent : List Char → Option Int × List Char
  | c :: rest =>
      if c == 'e' || c == 'E' then
        let (negative, rest₁) := takeSign rest
        let (ds, rest₂) := takeDigits isAsciiDigit rest₁
        if ds.isEmpty then (none, c :: rest)
        else
          let n : Int := numberOf 10 ds
          (some (if negative then -n else n), rest₂)
      else (none, c :: rest)
  | [] => (none, [])

/-- Exponents beyond this bound leave nothing but zero or infinity. -/
def exponentBound : Int := 400

def infiniteBits (negative : Bool) : UInt64 :=
  if negative then 0xFFF0000000000000 else 0x7FF0000000000000

def undefinedBits : UInt64 := 0x7FF8000000000000

/-- The bits of a decimal; one that is far out of range is not computed. -/
def bitsOf (negative : Bool) (ds : List Char) (exponent : Int) : UInt64 :=
  let m := numberOf 10 ds
  let size : Int := (digits m).length + exponent
  if m = 0 || size < -exponentBound then Decimal.bitsOfDecimal negative 0 0
  else if exponentBound < size then infiniteBits negative
  else Decimal.bitsOfDecimal negative m exponent

def readDecimal (cs : List Char) : Except Fault (Option (Value × List Char)) :=
  let (negative, rest₁) := takeSign cs
  let (whole, rest₂) := takeWhole rest₁
  if whole.isEmpty then .ok none
  else
    let (fraction, rest₃) := takeFraction rest₂
    let (exponent, rest₄) := takeExponent rest₃
    if fraction.isEmpty && exponent.isNone then
      if maxDigits < whole.length then .error (.digitLimit whole.length)
      else
        let n : Int := numberOf 10 whole
        .ok (some (.int (if negative then -n else n), rest₄))
    else
      let e := exponent.getD 0 - fraction.length
      .ok (some (.float (bitsOf negative (whole ++ fraction) e), rest₄))

def readSpecial? (cs : List Char) : Option (Value × List Char) :=
  let (negative, rest) := takeSign cs
  match dropText? "inf".toList rest, dropText? "nan".toList rest with
  | some rest', _ => some (.float (infiniteBits negative), rest')
  | _, some rest' => some (.float undefinedBits, rest')
  | none, none => none

/-! ## Dates and times -/

/-- Reads a number of exactly so many ASCII digits within bounds. -/
def readField? (width least greatest : Nat) (cs : List Char) : Option (Nat × List Char) :=
  let ds := cs.take width
  let n := numberOf 10 ds
  if ds.length = width && ds.all isAsciiDigit && least ≤ n && n ≤ greatest then
    some (n, cs.drop width)
  else none

/-- Reads digits behind a point as millionths; the seventh digit and those behind it are dropped. -/
def takeMicros : List Char → Nat × List Char
  | '.' :: rest =>
      let ds := rest.takeWhile isAsciiDigit
      if ds.isEmpty then (0, '.' :: rest)
      else
        let six := ds.take 6
        (numberOf 10 six * Nat.pow 10 (6 - six.length), rest.dropWhile isAsciiDigit)
  | cs => (0, cs)

def readTime? (cs : List Char) : Option (Time × List Char) := do
  let (hour, rest₁) ← readField? 2 0 23 cs
  let (minute, rest₂) ← readField? 2 0 59 (← dropText? [':'] rest₁)
  let (second, rest₃) ← readField? 2 0 59 (← dropText? [':'] rest₂)
  let (micros, rest₄) := takeMicros rest₃
  return ({ hour, minute, second, micros }, rest₄)

def readOffset? : List Char → Option (Int × List Char)
  | c :: rest =>
      if c == 'Z' || c == 'z' then some (0, rest)
      else if c == '+' || c == '-' then do
        let (hours, rest₁) ← readField? 2 0 23 rest
        let (minutes, rest₂) ← readField? 2 0 59 (← dropText? [':'] rest₁)
        let n : Int := 60 * hours + minutes
        return (if c == '-' then -n else n, rest₂)
      else none
  | [] => none

def daysOfMonth (year month : Nat) : Nat :=
  if month = 2 then
    if (year % 4 = 0 && year % 100 != 0) || year % 400 = 0 then 29 else 28
  else if [4, 6, 9, 11].contains month then 30
  else 31

/-- Reads a day, possibly with a time of day and an offset. The result is `none` if the text is no
date, and a fault if the day is not on the calendar. -/
def readMoment (cs : List Char) : Except Fault (Option (Moment × List Char)) :=
  let date? : Option (Date × List Char) := do
    let (year, rest₁) ← readField? 4 0 9999 cs
    let (month, rest₂) ← readField? 2 1 12 (← dropText? ['-'] rest₁)
    let (day, rest₃) ← readField? 2 1 31 (← dropText? ['-'] rest₂)
    return ({ year, month, day }, rest₃)
  match date? with
  | none => .ok ((readTime? cs).map fun (time, rest) => (.time time, rest))
  | some (date, rest) =>
      if date.year = 0 || daysOfMonth date.year date.month < date.day then .error .malformed
      else
        let time? : Option (Time × List Char) :=
          match rest with
          | c :: rest' => if c == 'T' || c == 't' || c == ' ' then readTime? rest' else none
          | [] => none
        match time? with
        | none => .ok (some (.date date, rest))
        | some (time, rest₁) =>
            match readOffset? rest₁ with
            | some (offset, rest₂) => .ok (some (.dateTime date time (some offset), rest₂))
            | none => .ok (some (.dateTime date time none, rest₁))

end LintRunner.Toml
