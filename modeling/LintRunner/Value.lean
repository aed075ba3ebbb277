import LintRunner.Decimal.Shortest
import LintRunner.Text.Quoted

/-!
# Values

Documents as trees: scalars, dates and times, lists and tables. Tables keep the order of their keys.
`Value.shown` and `Value.text` are the two ways in which messages and texts made from a value spell
it; they differ for strings, dates and times that stand alone.
-/

set_option autoImplicit false

namespace LintRunner

/-! ## Dates and times -/

structure Date where
  year : Nat
  month : Nat
  day : Nat
  deriving DecidableEq, Repr

structure Time where
  hour : Nat
  minute : Nat
  second : Nat
  micros : Nat
  deriving DecidableEq, Repr

/-- A day or a time of day or both; both may have an offset from universal time in minutes. -/
inductive Moment where
  | date (date : Date)
  | time (time : Time)
  | dateTime (date : Date) (time : Time) (offset : Option Int)
  deriving DecidableEq, Repr

def paddedDigits (width n : Nat) : String :=
  let ds := Text.digits n
  String.ofList (List.replicate (width - ds.length) '0' ++ ds)

def Date.text (d : Date) : String :=
  paddedDigits 4 d.year ++ "-" ++ paddedDigits 2 d.month ++ "-" ++ paddedDigits 2 d.day

def Time.text (t : Time) : String :=
  paddedDigits 2 t.hour ++ ":" ++ paddedDigits 2 t.minute ++ ":" ++ paddedDigits 2 t.second ++
    (if t.micros = 0 then "" else "." ++ paddedDigits 6 t.micros)

def offsetText (minutes : Int) : String :=
  (if minutes < 0 then "-" else "+") ++ paddedDigits 2 (minutes.natAbs / 60) ++ ":" ++
    paddedDigits 2 (minutes.natAbs % 60)

def Date.arguments (d : Date) : List String :=
  [Text.numberText d.year, Text.numberText d.month, Text.numberText d.day]

/-- The arguments that a time of day is shown with; zeros at the end are left out. -/
def Time.arguments (t : Time) : List String :=
  [Text.numberText t.hour, Text.numberText t.minute] ++
    (if t.micros = 0 then (if t.second = 0 then [] else [Text.numberText t.second])
      else [Text.numberText t.second, Text.numberText t.micros])

/-- An offset from universal time as it is shown; a negative one counts from the day before. -/
def offsetShown (minutes : Int) : String :=
  if minutes = 0 then "datetime.timezone.utc"
  else if minutes < 0 then
    "datetime.timezone(datetime.timedelta(days=-1, seconds=" ++
      Text.numberText (86400 + 60 * minutes).toNat ++ "))"
  else "datetime.timezone(datetime.timedelta(seconds=" ++ Text.numberText (60 * minutes).toNat ++ "))"

def commaSeparated (parts : List String) : String := String.intercalate ", " parts

namespace Moment

def text : Moment → String
  | date d => d.text
  | time t => t.text
  | dateTime d t offset => d.text ++ " " ++ t.text ++ (offset.map offsetText).getD ""

def shown : Moment → String
  | date d => "datetime.date(" ++ commaSeparated d.arguments ++ ")"
  | time t => "datetime.time(" ++ commaSeparated t.arguments ++ ")"
  | dateTime d t offset =>
      let zone := offset.toList.map fun minutes => "tzinfo=" ++ offsetShown minutes
      "datetime.datetime(" ++ commaSeparated (d.arguments ++ t.arguments ++ zone) ++ ")"

end Moment

/-! ## Values -/

/-- A document or a part of one. Floating-point numbers are given by their bits. -/
inductive Value where
  | null
  | bool (b : Bool)
  | int (i : Int)
  | float (bits : UInt64)
  | string (s : String)
  | moment (m : Moment)
  | list (items : List Value)
  | table (entries : List (String × Value))
  deriving Repr, Inhabited

namespace Value

def boolText (b : Bool) : String := if b then "True" else "False"

mutual

def shown : Value → String
  | null => "None"
  | bool b => boolText b
  | int i => String.ofList (Text.signedDigits i)
  | float bits => String.ofList (Decimal.floatText bits)
  | string s => Text.quoted s
  | moment m => m.shown
  | list items => "[" ++ commaSeparated (shownItems items) ++ "]"
  | table entries => "\x7b" ++ commaSeparated (shownEntries entries) ++ "\x7d"

def shownItems : List Value → List String
  | [] => []
  | item :: rest => shown item :: shownItems rest

def shownEntries : List (String × Value) → List String
  | [] => []
  | (key, value) :: rest => (Text.quoted key ++ ": " ++ shown value) :: shownEntries rest

end

/-- The text of a value: strings and moments as they are, all else as it is shown. -/
def text : Value → String
  | string s => s
  | moment m => m.text
  | value => value.shown

mutual

/-- Whether all numbers of a value can be written, since none has too many digits. -/
def isWritable : Value → Bool
  | int i => (Text.digits i.natAbs).length ≤ Text.maxDigits
  | list items => allWritable items
  | table entries => allEntriesWritable entries
  | _ => true

def allWritable : List Value → Bool
  | [] => true
  | item :: rest => isWritable item && allWritable rest

def allEntriesWritable : List (String × Value) → Bool
  | [] => true
  | (_, value) :: rest => isWritable value && allEntriesWritable rest

end

/-- Whether a value counts as yes: everything but zero and what is empty. -/
def isTruthy : Value → Bool
  | null => false
  | bool b => b
  | int i => i != 0
  | float bits => bits != 0 && bits != 0x8000000000000000
  | string s => !s.isEmpty
  | moment _ => true
  | list items => !items.isEmpty
  | table entries => !entries.isEmpty

def get? (value : Value) (key : String) : Option Value :=
  match value with
  | table entries => entries.lookup key
  | _ => none

end Value

end LintRunner
