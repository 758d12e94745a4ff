import DeltaLint.Text.Blank
import DeltaLint.Text.LetterCase

/-!
# Styles

A style is written as words: attributes, each on or off, a color, a background
color after `on`, and a target after `link`. Its normal form has the attributes
in a fixed order and then the colors; words that make no style are only
trimmed and put in lower case.
-/

namespace DeltaLint
namespace Markup

/-!
## Colors

The words that name a color: those of the terminal palette, `default`, six
hexadecimal digits, a number of the palette, or three components.
-/

/-- The names of the terminal palette. -/
def colorNames : List String :=
  ["black", "red", "green", "yellow", "blue", "magenta", "cyan", "white", "bright_black",
    "bright_red", "bright_green", "bright_yellow", "bright_blue", "bright_magenta", "bright_cyan",
    "bright_white", "grey0", "gray0", "navy_blue", "dark_blue", "blue3", "blue1", "dark_green",
    "deep_sky_blue4", "dodger_blue3", "dodger_blue2", "green4", "spring_green4", "turquoise4",
    "deep_sky_blue3", "dodger_blue1", "green3", "spring_green3", "dark_cyan", "light_sea_green",
    "deep_sky_blue2", "deep_sky_blue1", "spring_green2", "cyan3", "dark_turquoise", "turquoise2",
    "green1", "spring_green1", "medium_spring_green", "cyan2", "cyan1", "dark_red", "deep_pink4",
    "purple4", "purple3", "blue_violet", "orange4", "grey37", "gray37", "medium_purple4",
    "slate_blue3", "royal_blue1", "chartreuse4", "dark_sea_green4", "pale_turquoise4",
    "steel_blue", "steel_blue3", "cornflower_blue", "chartreuse3", "cadet_blue", "sky_blue3",
    "steel_blue1", "pale_green3", "sea_green3", "aquamarine3", "medium_turquoise", "chartreuse2",
    "sea_green2", "sea_green1", "aquamarine1", "dark_slate_gray2", "dark_magenta", "dark_violet",
    "purple", "light_pink4", "plum4", "medium_purple3", "slate_blue1", "yellow4", "wheat4",
    "grey53", "gray53", "light_slate_grey", "light_slate_gray", "medium_purple",
    "light_slate_blue", "dark_olive_green3", "dark_sea_green", "light_sky_blue3", "sky_blue2",
    "dark_sea_green3", "dark_slate_gray3", "sky_blue1", "chartreuse1", "light_green",
    "pale_green1", "dark_slate_gray1", "red3", "medium_violet_red", "magenta3", "dark_orange3",
    "indian_red", "hot_pink3", "medium_orchid3", "medium_orchid", "medium_purple2",
    "dark_goldenrod", "light_salmon3", "rosy_brown", "grey63", "gray63", "medium_purple1", "gold3",
    "dark_khaki", "navajo_white3", "grey69", "gray69", "light_steel_blue3", "light_steel_blue",
    "yellow3", "dark_sea_green2", "light_cyan3", "light_sky_blue1", "green_yellow",
    "dark_olive_green2", "dark_sea_green1", "pale_turquoise1", "deep_pink3", "magenta2",
    "hot_pink2", "orchid", "medium_orchid1", "orange3", "light_pink3", "pink3", "plum3", "violet",
    "light_goldenrod3", "tan", "misty_rose3", "thistle3", "plum2", "khaki3", "light_goldenrod2",
    "light_yellow3", "grey84", "gray84", "light_steel_blue1", "yellow2", "dark_olive_green1",
    "honeydew2", "light_cyan1", "red1", "deep_pink2", "deep_pink1", "magenta1", "orange_red1",
    "indian_red1", "hot_pink", "dark_orange", "salmon1", "light_coral", "pale_violet_red1",
    "orchid2", "orchid1", "orange1", "sandy_brown", "light_salmon1", "light_pink1", "pink1",
    "plum1", "gold1", "navajo_white1", "misty_rose1", "thistle1", "yellow1", "light_goldenrod1",
    "khaki1", "wheat1", "cornsilk1", "grey100", "gray100", "grey3", "gray3", "grey7", "gray7",
    "grey11", "gray11", "grey15", "gray15", "grey19", "gray19", "grey23", "gray23", "grey27",
    "gray27", "grey30", "gray30", "grey35", "gray35", "grey39", "gray39", "grey42", "gray42",
    "grey46", "gray46", "grey50", "gray50", "grey54", "gray54", "grey58", "gray58", "grey62",
    "gray62", "grey66", "gray66", "grey70", "gray70", "grey74", "gray74", "grey78", "gray78",
    "grey82", "gray82", "grey85", "gray85", "grey89", "gray89", "grey93", "gray93"]

def isHexDigit (c : Char) : Bool :=
  ('0' ≤ c && c ≤ '9') || ('a' ≤ c && c ≤ 'f')

/-- A decimal number of at most 255, with at least one digit and at most `size`. -/
def isComponent (size : Nat) (s : List Char) : Bool :=
  !s.isEmpty && s.length ≤ size && s.all Char.isDigit &&
    s.foldl (fun n c => 10 * n + (c.toNat - 48)) 0 ≤ 255

/-- What stands in brackets after a word. -/
def inBrackets (word : String) (s : List Char) : Option (List Char) :=
  let front := word.toList ++ ['(']
  if front.isPrefixOf s && s.getLast? = some ')' then some (s.drop front.length).dropLast else none

/-- Whether a word in lower case names a color. -/
def isColor (s : List Char) : Bool :=
  let word := String.ofList s
  word = "default" || colorNames.contains word ||
    (match s with
      | '#' :: digits => digits.length = 6 && digits.all isHexDigit
      | _ => false) ||
    (inBrackets "color" s).any (isComponent 3) ||
    (inBrackets "rgb" s).any fun inner =>
      let parts := Text.splitOn ',' inner
      parts.length = 3 && parts.all fun p => isComponent p.length (Text.strip p)

/-! ## Styles -/

/-- The attributes in their order. -/
def attributes : List String :=
  ["bold", "dim", "italic", "underline", "blink", "blink2", "reverse", "conceal", "strike",
    "underline2", "frame", "encircle", "overline"]

/-- The short names of attributes. -/
def shortAttributes : List (String × String) :=
  [("d", "dim"), ("b", "bold"), ("i", "italic"), ("u", "underline"), ("r", "reverse"),
    ("c", "conceal"), ("s", "strike"), ("uu", "underline2"), ("o", "overline")]

/-- The attribute a word names. -/
def attribute? (word : String) : Option String :=
  if attributes.contains word then some word else shortAttributes.lookup word

structure Style where
  settings : List (String × Bool)
  color : Option String
  background : Option String
  link : Option String

namespace Style

def plain : Style := ⟨[], none, none, none⟩

/-- Reads words on top of a style. -/
def readWords (style : Style) : List (List Char) → Option Style
  | [] => some style
  | written :: rest =>
    let word := Text.lower written
    match String.ofList word, rest with
    | "on", [] => none
    | "on", next :: rest =>
      let color := Text.lower next
      if isColor color then readWords { style with background := some (String.ofList color) } rest
      else none
    | "not", [] => none
    | "not", next :: rest =>
      match attribute? (String.ofList next) with
      | some a => readWords { style with settings := (a, false) :: style.settings } rest
      | none => none
    | "link", [] => none
    | "link", next :: rest => readWords { style with link := some (String.ofList next) } rest
    | text, rest =>
      match attribute? text with
      | some a => readWords { style with settings := (a, true) :: style.settings } rest
      | none =>
        if isColor word then readWords { style with color := some text } rest else none

def attributeText (style : Style) (name : String) : Option String :=
  (style.settings.lookup name).map fun on => if on then name else "not " ++ name

/-- The words of a style in their fixed order. -/
def text (style : Style) : String :=
  let words := attributes.filterMap style.attributeText ++ style.color.toList ++
    (style.background.map ("on " ++ ·)).toList ++ (style.link.map ("link " ++ ·)).toList
  if words.isEmpty then "none" else String.intercalate " " words

end Style

/-- The normal form of a style. -/
def normalize (definition : List Char) : String :=
  match Style.plain.readWords (if Text.strip definition = "none".toList then []
    else Text.words definition) with
  | some style => style.text
  | none => String.ofList (Text.lower (Text.strip definition))

end Markup
end DeltaLint
