import LintRunner.Issue
import LintRunner.Ordered
import LintRunner.Text.Lines
import LintRunner.Value

/-!
# Checking documents

A check turns a value into data or lists what is wrong with it. Checks of the parts of a document are
put together so that the issues of all parts are listed, in the order of the parts.
-/

set_option autoImplicit false

namespace LintRunner

inductive Checked (α : Type) where
  | ok (a : α)
  | bad (issues : List Issue)
  deriving Repr

namespace Checked

variable {α β : Type}

/-- Applies a checked function to a checked argument; issues of both are listed. -/
def apply : Checked (α → β) → Checked α → Checked β
  | ok f, ok a => ok (f a)
  | ok _, bad issues => bad issues
  | bad issues, ok _ => bad issues
  | bad issues, bad more => bad (issues ++ more)

instance : Applicative Checked where
  pure := ok
  seq f a := apply f (a ())

/-- A single issue at the place that is checked. -/
def fault (kind : IssueKind) : Checked α := bad [{ kind, path := [] }]

/-- The check of a part seen from the whole. -/
def under (step : Step) : Checked α → Checked α
  | ok a => ok a
  | bad issues => bad (issues.map (Issue.under step))

def issues : Checked α → List Issue
  | ok _ => []
  | bad issues => issues

def andThen (c : Checked α) (f : α → Checked β) : Checked β :=
  match c with
  | ok a => f a
  | bad issues => bad issues

/-- Takes the result of the first check, or else of the second. Issues are listed under the names of
the two choices if both fail. -/
def either (first : String) (a : Checked α) (second : String) (b : Checked α) : Checked α :=
  match a, b with
  | ok x, _ => ok x
  | _, ok x => ok x
  | bad issues, bad more =>
      bad (issues.map (Issue.under (.key first)) ++ more.map (Issue.under (.key second)))

/-- Checks the items of a list, the first of which has the given place. -/
def itemsFrom (check : Value → Checked α) : Nat → List Value → Checked (List α)
  | _, [] => ok []
  | index, value :: rest =>
      List.cons <$> under (.item index) (check value) <*> itemsFrom check (index + 1) rest

def entriesOf (check : Value → Checked α) : List (String × Value) → Checked (List (String × α))
  | [] => ok []
  | (key, value) :: rest =>
      (fun a more => (key, a) :: more) <$> under (.key key) (check value) <*> entriesOf check rest

/-! ## Kinds of values -/

def string : Value → Checked String
  | .string s => ok s
  | _ => fault .stringType

def list (check : Value → Checked α) : Value → Checked (List α)
  | .list items => itemsFrom check 0 items
  | _ => fault .listType

def table (check : Value → Checked α) : Value → Checked (List (String × α))
  | .table entries => entriesOf check entries
  | _ => fault .dictType

/-- A table with fixed keys. -/
def record (check : List (String × Value) → Checked α) : Value → Checked α
  | .table entries => check entries
  | _ => fault .modelType

/-- One of the words of a list; the kind of issue is given. -/
def word (kind : IssueKind) (read? : String → Option α) : Value → Checked α
  | .string s =>
      match read? s with
      | some a => ok a
      | none => fault kind
  | _ => fault kind

def nullable (check : Value → Checked α) : Value → Checked (Option α)
  | .null => ok none
  | value => some <$> check value

/-! ## Whole numbers -/

/-- The digits of a whole number that is given as text: single low lines between digits and zeros
behind a point do not count. -/
def wholeDigits? (cs : List Char) : Option (List Char) :=
  let whole := cs.takeWhile fun c => c != '.'
  let rest := cs.dropWhile fun c => c != '.'
  if (rest.drop 1).all (· == '0') && whole.all (fun c => Text.isAsciiDigit c || c == '_') &&
      (Text.splitOnChar '_' whole).all (fun part => !part.isEmpty)
  then some (whole.filter Text.isAsciiDigit)
  else none

/-- A natural number that is given as text. Zeros in front do not count as digits. -/
def naturalOfText (cs : List Char) : Checked Nat :=
  match wholeDigits? cs with
  | none => fault .intParsing
  | some ds =>
      if Text.maxDigits < (ds.dropWhile (· == '0')).length then fault .intParsingSize
      else ok (Text.ofDigits (ds.map fun c => c.toNat - 48))

def wholeOfText (s : String) : Checked Int :=
  match Text.trimBoth Text.isNumberBlank s.toList with
  | '-' :: rest => (fun n : Nat => -(n : Int)) <$> naturalOfText rest
  | '+' :: rest => Int.ofNat <$> naturalOfText rest
  | rest => Int.ofNat <$> naturalOfText rest

def wholeOfFloat? (bits : UInt64) : Option Int :=
  match Decimal.Parts.ofBits bits with
  | .finite negative mantissa exponent =>
      let num := mantissa * Decimal.powNum 2 exponent
      let den := Decimal.powDen 2 exponent
      if num % den = 0 then some (if negative then -(num / den : Nat) else (num / den : Nat))
      else none
  | _ => none

/-- A whole number; truth values, floating-point numbers without fraction and decimal texts count as
whole numbers. -/
def whole : Value → Checked Int
  | .int i => ok i
  | .bool b => ok (if b then 1 else 0)
  | .float bits =>
      match wholeOfFloat? bits with
      | some i => ok i
      | none => fault .intFromFloat
  | .string s => wholeOfText s
  | _ => fault .intType

def wholeFrom (least : Nat) (value : Value) : Checked { n : Nat // least ≤ n } :=
  (whole value).andThen fun i =>
    if h : least ≤ i.toNat ∧ 0 ≤ i then ok ⟨i.toNat, h.1⟩ else fault .greaterThanEqual

/-! ## Fields of records -/

def required (entries : List (String × Value)) (name : String) (check : Value → Checked α) :
    Checked α :=
  under (.key name)
    (match entries.lookup name with
      | some value => check value
      | none => fault .missing)

def optional (entries : List (String × Value)) (name : String) (default : α)
    (check : Value → Checked α) : Checked α :=
  match entries.lookup name with
  | some value => under (.key name) (check value)
  | none => ok default

/-- One issue for every key that is not known, in the order of the keys. -/
def noOthers (known : List String) (entries : List (String × Value)) : Checked Unit :=
  match (Ordered.keys entries).filter fun key => !known.contains key with
  | [] => ok ()
  | others => bad (others.map fun key => { kind := .extraForbidden, path := [.key key] })

end Checked

end LintRunner
