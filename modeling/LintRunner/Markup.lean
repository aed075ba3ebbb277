import LintRunner.Markup.Style

/-!
# Markup

Texts with style tags in square brackets. A tag begins with a small letter, a number sign, a slash or
an at sign; a slash closes. Tags leave no trace in the text, since it is shown without styles, but
every closing tag must have an opening tag of the same style before it. A backslash in front of a
bracket makes it text.

This is how the printer for terminals reads markup. Other printers may refuse more, and theorems about
tables do not rest on it.
-/

set_option autoImplicit false

namespace LintRunner.Markup

open LintRunner.Text

/-! ## Pieces -/

inductive Piece where
  | text (cs : List Char)
  | tag (body : List Char)
  deriving DecidableEq, Repr

def isTagStart (c : Char) : Bool := ('a' ≤ c && c ≤ 'z') || c == '#' || c == '/' || c == '@'

/-- What stands between the brackets of a tag at the beginning of a text. -/
def tagBody? : List Char → Option (List Char)
  | '[' :: c :: rest =>
      if isTagStart c then
        let body := rest.takeWhile fun d => d != '[' && d != ']'
        match rest.drop body.length with
        | ']' :: _ => some (c :: body)
        | _ => none
      else none
  | _ => none

/-- A run of backslashes with a tag behind it, at the beginning of a text. -/
structure Marked where
  backslashes : Nat
  body : List Char
  deriving DecidableEq, Repr

def Marked.read? (cs : List Char) : Option Marked :=
  let backslashes := (cs.takeWhile (· == '\\')).length
  (tagBody? (cs.drop backslashes)).map fun body => { backslashes, body }

namespace Marked

def length (m : Marked) : Nat := m.backslashes + m.body.length + 2

/-- Two backslashes stand for one; a single one makes the tag behind it text. -/
def pieces (m : Marked) : List Piece :=
  let kept := if m.backslashes < 2 then [] else [.text (List.replicate (m.backslashes / 2) '\\')]
  kept ++ [if m.backslashes % 2 = 1 then .text ('[' :: m.body ++ [']']) else .tag m.body]

end Marked

/-- Drops every backslash that stands in front of an opening bracket. -/
def unescape : List Char → List Char
  | '\\' :: '[' :: rest => '[' :: unescape rest
  | c :: rest => c :: unescape rest
  | [] => []

/-- The pieces of a text of which some characters are to be skipped; the text before them is given
the last character first. -/
def scan : Nat → List Char → List Char → List Piece
  | _, before, [] => [.text (unescape before.reverse)]
  | skip + 1, before, _ :: cs => scan skip before cs
  | 0, before, c :: cs =>
      match Marked.read? (c :: cs) with
      | some m => .text (unescape before.reverse) :: m.pieces ++ scan (m.length - 1) [] cs
      | none => scan 0 (c :: before) cs

/-! ## Texts -/

def removeFirst (name : String) : List String → Option (List String)
  | [] => none
  | first :: rest => if first == name then some rest else (removeFirst name rest).map (first :: ·)

/-- The open styles after a tag, the last one first. A closing tag without a name closes the last one.
-/
def openAfter (styles : List String) (body : List Char) : Option (List String) :=
  match body.takeWhile fun c => c != '=' with
  | '/' :: name =>
      if (trim name).isEmpty then
        match styles with
        | [] => none
        | _ :: rest => some rest
      else removeFirst (styleName (trim name)) styles
  | name => some (styleName name :: styles)

/-- The text of pieces, if every closing tag closes something. -/
def assemble : List String → List Piece → Option (List Char)
  | _, [] => some []
  | styles, .text cs :: rest => (assemble styles rest).map (cs ++ ·)
  | styles, .tag body :: rest =>
      match openAfter styles body with
      | none => none
      | some styles' => assemble styles' rest

def read? (s : String) : Option (List Char) := assemble [] (scan 0 [] s.toList)

end LintRunner.Markup
