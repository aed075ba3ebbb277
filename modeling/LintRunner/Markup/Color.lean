import LintRunner.Text.Integer
import LintRunner.Text.Lines

/-!
# Colours

The words that name a colour of a terminal: one of its own colours, a colour of its palette by name or
number, or a mixture of red, green and blue.
-/

set_option autoImplicit false

namespace LintRunner.Markup

open LintRunner.Text

def terminalColors : List String :=
  ["black", "red", "green", "yellow", "blue", "magenta", "cyan", "white", "bright_black",
   "bright_red", "bright_green", "bright_yellow", "bright_blue", "bright_magenta", "bright_cyan",
   "bright_white"]

def paletteColors : List String :=
  ["grey0", "gray0", "navy_blue", "dark_blue", "blue3", "blue1", "dark_green", "deep_sky_blue4",
   "dodger_blue3", "dodger_blue2", "green4", "spring_green4", "turquoise4", "deep_sky_blue3",
   "dodger_blue1", "dark_cyan", "light_sea_green", "deep_sky_blue2", "deep_sky_blue1", "green3",
   "spring_green3", "cyan3", "dark_turquoise", "turquoise2", "green1", "spring_green2",
   "spring_green1", "medium_spring_green", "cyan2", "cyan1", "purple4", "purple3", "blue_violet",
   "grey37", "gray37", "medium_purple4", "slate_blue3", "royal_blue1", "chartreuse4",
   "pale_turquoise4", "steel_blue", "steel_blue3", "cornflower_blue", "dark_sea_green4",
   "cadet_blue", "sky_blue3", "chartreuse3", "sea_green3", "aquamarine3", "medium_turquoise",
   "steel_blue1", "sea_green2", "sea_green1", "dark_slate_gray2", "dark_red", "dark_magenta",
   "orange4", "light_pink4", "plum4", "medium_purple3", "slate_blue1", "wheat4", "grey53",
   "gray53", "light_slate_grey", "light_slate_gray", "medium_purple", "light_slate_blue",
   "yellow4", "dark_sea_green", "light_sky_blue3", "sky_blue2", "chartreuse2", "pale_green3",
   "dark_slate_gray3", "sky_blue1", "chartreuse1", "light_green", "aquamarine1",
   "dark_slate_gray1", "deep_pink4", "medium_violet_red", "dark_violet", "purple",
   "medium_orchid3", "medium_orchid", "dark_goldenrod", "rosy_brown", "grey63", "gray63",
   "medium_purple2", "medium_purple1", "dark_khaki", "navajo_white3", "grey69", "gray69",
   "light_steel_blue3", "light_steel_blue", "dark_olive_green3", "dark_sea_green3", "light_cyan3",
   "light_sky_blue1", "green_yellow", "dark_olive_green2", "pale_green1", "dark_sea_green2",
   "pale_turquoise1", "red3", "deep_pink3", "magenta3", "dark_orange3", "indian_red", "hot_pink3",
   "hot_pink2", "orchid", "orange3", "light_salmon3", "light_pink3", "pink3", "plum3", "violet",
   "gold3", "light_goldenrod3", "tan", "misty_rose3", "thistle3", "plum2", "yellow3", "khaki3",
   "light_yellow3", "grey84", "gray84", "light_steel_blue1", "yellow2", "dark_olive_green1",
   "dark_sea_green1", "honeydew2", "light_cyan1", "red1", "deep_pink2", "deep_pink1", "magenta2",
   "magenta1", "orange_red1", "indian_red1", "hot_pink", "medium_orchid1", "dark_orange",
   "salmon1", "light_coral", "pale_violet_red1", "orchid2", "orchid1", "orange1", "sandy_brown",
   "light_salmon1", "light_pink1", "pink1", "plum1", "gold1", "light_goldenrod2", "navajo_white1",
   "misty_rose1", "thistle1", "yellow1", "light_goldenrod1", "khaki1", "wheat1", "cornsilk1",
   "grey100", "gray100", "grey3", "gray3", "grey7", "gray7", "grey11", "gray11", "grey15",
   "gray15", "grey19", "gray19", "grey23", "gray23", "grey27", "gray27", "grey30", "gray30",
   "grey35", "gray35", "grey39", "gray39", "grey42", "gray42", "grey46", "gray46", "grey50",
   "gray50", "grey54", "gray54", "grey58", "gray58", "grey62", "gray62", "grey66", "gray66",
   "grey70", "gray70", "grey74", "gray74", "grey78", "gray78", "grey82", "gray82", "grey85",
   "gray85", "grey89", "gray89", "grey93", "gray93"]

/-- The highest number of a colour of the palette, and the most of a part of a mixture. -/
def maxColor : Nat := 255

/-! ## Words -/

/-- The characters between what a text begins with and a closing parenthesis at its end. -/
def argument? (head : List Char) (cs : List Char) : Option (List Char) :=
  if head.isPrefixOf cs then
    match (cs.drop head.length).reverse with
    | ')' :: rest => some rest.reverse
    | _ => none
  else none

/-- A number in digits of any script that is not too high. -/
def isColorNumber (cs : List Char) : Bool :=
  !cs.isEmpty && cs.all isDigit && ofDigits (cs.filterMap digitValue?) ≤ maxColor

def isPaletteNumber (cs : List Char) : Bool :=
  cs.length ≤ 3 && cs.all isAsciiDigit && isColorNumber cs

def isColor (word : List Char) : Bool :=
  let name := String.ofList word
  name == "default" || terminalColors.contains name || paletteColors.contains name ||
    match word with
    | '#' :: digits => digits.length == 6 && digits.all fun c => (hexValue? c).isSome
    | _ =>
        ((argument? "color(".toList word).map isPaletteNumber).getD false ||
          match (argument? "rgb(".toList word).map (splitOnChar ',') with
          | some [red, green, blue] => [red, green, blue].all isColorNumber
          | _ => false

end LintRunner.Markup
