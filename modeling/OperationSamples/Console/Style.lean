import OperationSamples.Number.Literal
import OperationSamples.Text.Blank
import OperationSamples.Text.Case

/-!
Styles of console text.

A style is written as words: attributes, which may be negated, a colour, a colour behind the text, and
a link. The same style can be written in several ways; `Style.text` is the one that is kept, and
`Style.normalize` brings a written style to that form. What is no style is only trimmed and put in lower
case.
-/

namespace OperationSamples.Console

structure Style where
  attributes : List (String × Bool)
  color : Option String
  background : Option String
  link : Option String
deriving DecidableEq, Repr

namespace Style

def plain : Style := ⟨[], none, none, none⟩

/-! ### Words -/

/-- The attributes in the order in which they are written. -/
def attributeNames : List String :=
  ["bold", "dim", "italic", "underline", "blink", "blink2", "reverse", "conceal", "strike", "underline2",
    "frame", "encircle", "overline"]

def abbreviations : List (String × String) :=
  [("d", "dim"), ("b", "bold"), ("i", "italic"), ("u", "underline"), ("r", "reverse"), ("c", "conceal"),
    ("s", "strike"), ("uu", "underline2"), ("o", "overline")]

def attribute? (word : String) : Option String :=
  if attributeNames.contains word then some word else abbreviations.lookup word

def colorNames : List String := [
  "black", "red", "green", "yellow", "blue", "magenta", "cyan", "white", "bright_black",
  "bright_red", "bright_green", "bright_yellow", "bright_blue", "bright_magenta", "bright_cyan",
  "bright_white", "grey0", "gray0", "navy_blue", "dark_blue", "blue3", "blue1", "dark_green",
  "deep_sky_blue4", "dodger_blue3", "dodger_blue2", "green4", "spring_green4", "turquoise4",
  "deep_sky_blue3", "dodger_blue1", "green3", "spring_green3", "dark_cyan", "light_sea_green",
  "deep_sky_blue2", "deep_sky_blue1", "spring_green2", "cyan3", "dark_turquoise", "turquoise2",
  "green1", "spring_green1", "medium_spring_green", "cyan2", "cyan1", "dark_red", "deep_pink4",
  "purple4", "purple3", "blue_violet", "orange4", "grey37", "gray37", "medium_purple4",
  "slate_blue3", "royal_blue1", "chartreuse4", "dark_sea_green4", "pale_turquoise4", "steel_blue",
  "steel_blue3", "cornflower_blue", "chartreuse3", "cadet_blue", "sky_blue3", "steel_blue1",
  "pale_green3", "sea_green3", "aquamarine3", "medium_turquoise", "chartreuse2", "sea_green2",
  "sea_green1", "aquamarine1", "dark_slate_gray2", "dark_magenta", "dark_violet", "purple",
  "light_pink4", "plum4", "medium_purple3", "slate_blue1", "yellow4", "wheat4", "grey53", "gray53",
  "light_slate_grey", "light_slate_gray", "medium_purple", "light_slate_blue", "dark_olive_green3",
  "dark_sea_green", "light_sky_blue3", "sky_blue2", "dark_sea_green3", "dark_slate_gray3",
  "sky_blue1", "chartreuse1", "light_green", "pale_green1", "dark_slate_gray1", "red3",
  "medium_violet_red", "magenta3", "dark_orange3", "indian_red", "hot_pink3", "medium_orchid3",
  "medium_orchid", "medium_purple2", "dark_goldenrod", "light_salmon3", "rosy_brown", "grey63",
  "gray63", "medium_purple1", "gold3", "dark_khaki", "navajo_white3", "grey69", "gray69",
  "light_steel_blue3", "light_steel_blue", "yellow3", "dark_sea_green2", "light_cyan3",
  "light_sky_blue1", "green_yellow", "dark_olive_green2", "dark_sea_green1", "pale_turquoise1",
  "deep_pink3", "magenta2", "hot_pink2", "orchid", "medium_orchid1", "orange3", "light_pink3",
  "pink3", "plum3", "violet", "light_goldenrod3", "tan", "misty_rose3", "thistle3", "plum2",
  "khaki3", "light_goldenrod2", "light_yellow3", "grey84", "gray84", "light_steel_blue1",
  "yellow2", "dark_olive_green1", "honeydew2", "light_cyan1", "red1", "deep_pink2", "deep_pink1",
  "magenta1", "orange_red1", "indian_red1", "hot_pink", "dark_orange", "salmon1", "light_coral",
  "pale_violet_red1", "orchid2", "orchid1", "orange1", "sandy_brown", "light_salmon1",
  "light_pink1", "pink1", "plum1", "gold1", "navajo_white1", "misty_rose1", "thistle1", "yellow1",
  "light_goldenrod1", "khaki1", "wheat1", "cornsilk1", "grey100", "gray100", "grey3", "gray3",
  "grey7", "gray7", "grey11", "gray11", "grey15", "gray15", "grey19", "gray19", "grey23", "gray23",
  "grey27", "gray27", "grey30", "gray30", "grey35", "gray35", "grey39", "gray39", "grey42",
  "gray42", "grey46", "gray46", "grey50", "gray50", "grey54", "gray54", "grey58", "gray58",
  "grey62", "gray62", "grey66", "gray66", "grey70", "gray70", "grey74", "gray74", "grey78",
  "gray78", "grey82", "gray82", "grey85", "gray85", "grey89", "gray89", "grey93", "gray93"]

def lowered (text : String) : String := String.ofList (Text.lowerText text.toList)

def isHexDigit (c : Char) : Bool := c.isDigit || ('a' ≤ c && c ≤ 'f')

/-- What stands between the parentheses of a call. -/
def argument? (function : String) (word : String) : Option (List Char) :=
  let start := function ++ "("
  if word.startsWith start && word.endsWith ")" then
    some ((word.toList.drop start.length).dropLast)
  else none

/-- A number of a byte, of at least one digit. -/
def isByte (digits : List Char) : Bool :=
  !digits.isEmpty && digits.all Char.isDigit && Numeral.natOfDigits digits ≤ 255

def splitCommas : List Char → List (List Char)
  | [] => [[]]
  | c :: rest =>
    if c == ',' then [] :: splitCommas rest
    else
      match splitCommas rest with
      | [] => [[c]]
      | first :: others => (c :: first) :: others

/-- A colour by its name, by its number, or by its parts. -/
def isColor (word : String) : Bool :=
  word == "default" || colorNames.contains word
    || (word.startsWith "#" && word.length == 7 && (word.toList.drop 1).all isHexDigit)
    || ((argument? "color" word).map fun n => n.length ≤ 3 && isByte n).getD false
    || ((argument? "rgb" word).map fun parts =>
        (splitCommas parts).length == 3 && (splitCommas parts).all isByte).getD false

/-! ### Written styles -/

def setAttribute (style : Style) (name : String) (value : Bool) : Style :=
  { style with attributes := (name, value) :: style.attributes.filter fun entry => entry.1 != name }

/-- Adds the words to a style. -/
def addWords (style : Style) : List String → Option Style
  | [] => some style
  | [word] =>
    let word := lowered word
    match attribute? word with
    | some name => some (style.setAttribute name true)
    | none => if isColor word then some { style with color := some word } else none
  | first :: second :: rest =>
    let word := lowered first
    if word == "on" then
      let color := lowered second
      if isColor color then addWords { style with background := some color } rest else none
    else if word == "not" then
      match attribute? second with
      | some name => addWords (style.setAttribute name false) rest
      | none => none
    else if word == "link" then addWords { style with link := some second } rest
    else
      match attribute? word with
      | some name => addWords (style.setAttribute name true) (second :: rest)
      | none =>
        if isColor word then addWords { style with color := some word } (second :: rest) else none

def read? (text : String) : Option Style :=
  match Text.words text.toList with
  | ["none"] => some plain
  | words => plain.addWords words

/-- The words of a style, in the order in which they are kept. -/
def text (style : Style) : String :=
  let attributes := attributeNames.filterMap fun name =>
    (style.attributes.lookup name).map fun value => if value then name else "not " ++ name
  let parts := attributes ++ style.color.toList ++ (style.background.toList.map fun c => "on " ++ c)
    ++ (style.link.toList.map fun target => "link " ++ target)
  if parts.isEmpty then "none" else " ".intercalate parts

/-- The form in which a written style is kept. -/
def normalize (written : String) : String :=
  match read? written with
  | some style => style.text
  | none => lowered (String.ofList (Text.trimBlanks written.toList))

end Style

end OperationSamples.Console
