import LintRunner.Markup.Color
import LintRunner.Text.Case

/-!
# Styles

What the words of a tag say about the text behind it: attributes that are switched on or off, a colour,
a background and a link. Two tags mean the same style if they have the same name, which lists the
parts of the style in a fixed order, and which for words without a meaning is the words themselves.
-/

set_option autoImplicit false

namespace LintRunner.Markup

open LintRunner.Text

/-! ## Attributes -/

/-- The attributes of styles in their order, with their short names. -/
def attributes : List (String × List String) :=
  [("bold", ["b"]), ("dim", ["d"]), ("italic", ["i"]), ("underline", ["u"]), ("blink", []),
    ("blink2", []), ("reverse", ["r"]), ("conceal", ["c"]), ("strike", ["s"]),
    ("underline2", ["uu"]), ("frame", []), ("encircle", []), ("overline", ["o"])]

def attribute? (word : List Char) : Option String :=
  let name := String.ofList word
  (attributes.find? fun entry => entry.1 == name || entry.2.contains name).map Prod.fst

/-! ## Styles -/

/-- A style. Of the settings of an attribute the first one in the list counts. -/
structure Style where
  settings : List (String × Bool) := []
  color : Option (List Char) := none
  background : Option (List Char) := none
  link : Option (List Char) := none
  deriving DecidableEq, Repr

namespace Style

def extend (style : Style) : List (List Char) → Option Style
  | [] => some style
  | word :: rest =>
      match String.ofList (lower word), rest with
      | "on", color :: rest =>
          if isColor (lower color) then { style with background := some (lower color) }.extend rest
          else none
      | "not", word :: rest => do
          let name ← attribute? word
          { style with settings := (name, false) :: style.settings }.extend rest
      | "link", target :: rest => { style with link := some target }.extend rest
      | _, rest =>
          match attribute? (lower word) with
          | some name => { style with settings := (name, true) :: style.settings }.extend rest
          | none =>
              if isColor (lower word) then { style with color := some (lower word) }.extend rest
              else none

/-- The name of an attribute that is on, and the same behind a `not` if it is off. -/
def settingText (style : Style) (name : String) : Option String :=
  (style.settings.lookup name).map fun on => if on then name else "not " ++ name

def parts (style : Style) : List String :=
  attributes.filterMap (fun entry => style.settingText entry.1) ++
    style.color.toList.map String.ofList ++
    style.background.toList.map (fun color => "on " ++ String.ofList color) ++
    style.link.toList.map fun target => "link " ++ String.ofList target

/-- The name of a style; one that says nothing is called `none`. -/
def name (style : Style) : String :=
  if style.parts.isEmpty then "none" else String.intercalate " " style.parts

end Style

/-! ## Words -/

def words (cs : List Char) : List (List Char) :=
  (cs.foldr
    (fun c acc =>
      if isBlank c then [] :: acc
      else
        match acc with
        | [] => [[c]]
        | word :: rest => (c :: word) :: rest)
    [[]]).filter fun word => !word.isEmpty

def styleName (cs : List Char) : String :=
  match ({} : Style).extend (words cs) with
  | some style => style.name
  | none => String.ofList (lower (trim cs))

end LintRunner.Markup
