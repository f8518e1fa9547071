/-
  Ambient.Console.Style

  Styles by their names. The words of a name switch attributes on or off, give a colour to the text or
  to the ground, or name the target of a link, and the last word on each of them counts. Names of one
  style have one normal form; a name that stands for no style is compared as it is, in lower case.
  The names are those of the renderer from outside (`Ambient.Console`).
-/
import Ambient.Fault
import Ambient.Text.Case
import Ambient.Text.Edges

namespace Ambient.Console

/-! ## Attributes -/

/-- The attributes in the order in which they are written. -/
def attributes : List String :=
  ["bold", "dim", "italic", "underline", "blink", "blink2", "reverse", "conceal", "strike",
   "underline2", "frame", "encircle", "overline"]

/-- Other names of attributes. -/
def shortAttributes : List (String × String) :=
  [("d", "dim"), ("b", "bold"), ("i", "italic"), ("u", "underline"), ("r", "reverse"),
   ("c", "conceal"), ("s", "strike"), ("uu", "underline2"), ("o", "overline")]

/-- The attribute with a name. -/
def attribute? (name : String) : Option String :=
  if attributes.contains name then some name else shortAttributes.lookup name

/-! ## Colours -/

/-- Rows of the names of colours. -/
def colourRows : List String := [
  "black red green yellow blue magenta cyan white bright_black bright_red bright_green",
  "bright_yellow bright_blue bright_magenta bright_cyan bright_white grey0 gray0 navy_blue",
  "dark_blue blue3 blue1 dark_green deep_sky_blue4 dodger_blue3 dodger_blue2 green4 spring_green4",
  "turquoise4 deep_sky_blue3 dodger_blue1 green3 spring_green3 dark_cyan light_sea_green",
  "deep_sky_blue2 deep_sky_blue1 spring_green2 cyan3 dark_turquoise turquoise2 green1",
  "spring_green1 medium_spring_green cyan2 cyan1 dark_red deep_pink4 purple4 purple3 blue_violet",
  "orange4 grey37 gray37 medium_purple4 slate_blue3 royal_blue1 chartreuse4 dark_sea_green4",
  "pale_turquoise4 steel_blue steel_blue3 cornflower_blue chartreuse3 cadet_blue sky_blue3",
  "steel_blue1 pale_green3 sea_green3 aquamarine3 medium_turquoise chartreuse2 sea_green2",
  "sea_green1 aquamarine1 dark_slate_gray2 dark_magenta dark_violet purple light_pink4 plum4",
  "medium_purple3 slate_blue1 yellow4 wheat4 grey53 gray53 light_slate_grey light_slate_gray",
  "medium_purple light_slate_blue dark_olive_green3 dark_sea_green light_sky_blue3 sky_blue2",
  "dark_sea_green3 dark_slate_gray3 sky_blue1 chartreuse1 light_green pale_green1",
  "dark_slate_gray1 red3 medium_violet_red magenta3 dark_orange3 indian_red hot_pink3",
  "medium_orchid3 medium_orchid medium_purple2 dark_goldenrod light_salmon3 rosy_brown grey63",
  "gray63 medium_purple1 gold3 dark_khaki navajo_white3 grey69 gray69 light_steel_blue3",
  "light_steel_blue yellow3 dark_sea_green2 light_cyan3 light_sky_blue1 green_yellow",
  "dark_olive_green2 dark_sea_green1 pale_turquoise1 deep_pink3 magenta2 hot_pink2 orchid",
  "medium_orchid1 orange3 light_pink3 pink3 plum3 violet light_goldenrod3 tan misty_rose3",
  "thistle3 plum2 khaki3 light_goldenrod2 light_yellow3 grey84 gray84 light_steel_blue1 yellow2",
  "dark_olive_green1 honeydew2 light_cyan1 red1 deep_pink2 deep_pink1 magenta1 orange_red1",
  "indian_red1 hot_pink dark_orange salmon1 light_coral pale_violet_red1 orchid2 orchid1 orange1",
  "sandy_brown light_salmon1 light_pink1 pink1 plum1 gold1 navajo_white1 misty_rose1 thistle1",
  "yellow1 light_goldenrod1 khaki1 wheat1 cornsilk1 grey100 gray100 grey3 gray3 grey7 gray7",
  "grey11 gray11 grey15 gray15 grey19 gray19 grey23 gray23 grey27 gray27 grey30 gray30 grey35",
  "gray35 grey39 gray39 grey42 gray42 grey46 gray46 grey50 gray50 grey54 gray54 grey58 gray58",
  "grey62 gray62 grey66 gray66 grey70 gray70 grey74 gray74 grey78 gray78 grey82 gray82 grey85",
  "gray85 grey89 gray89 grey93 gray93"]

/-- The names of colours. -/
def colourNames : List (List Char) :=
  "default".toList :: colourRows.flatMap fun row => Text.splitOn ' ' row.toList

/-- What stands in parentheses after a word, if nothing follows them. -/
def inParentheses? (word : String) (text : List Char) : Option (List Char) :=
  match Text.afterPrefix? (word.toList ++ ['(']) text with
  | some rest => if rest.getLast? == some ')' then some rest.dropLast else none
  | none => none

/-- Six hexadecimal digits after a sign. -/
def isHexColour (name : List Char) : Bool :=
  match name with
  | '#' :: digits => digits.length == 6 && digits.all (Text.isDigitOf 16)
  | _ => false

/-- A number of one to three digits, at most 255. -/
def isPaletteNumber (digits : List Char) : Bool :=
  !digits.isEmpty && digits.length ≤ 3 && digits.all Text.isAsciiDigit &&
    Text.digitsValue digits ≤ 255

/-- The parts of a colour by its components, if they may stand there: digits of any script and
commas. -/
def components? (text : List Char) : Option (List (List Char)) :=
  if !text.isEmpty && text.all fun c => c == ',' || (Text.decimalValue? c).isSome then
    let parts := Text.splitOn ',' text
    if parts.length == 3 then some parts else none
  else none

/-- The number that a component denotes; one without digits is none. -/
def component (digits : List Char) : Except Fault Int :=
  match Text.integer? digits with
  | some n => .ok n
  | none => unsuitable (.notDigits (String.ofList digits))

/-- Whether a word is the name of a colour, in any case. -/
def isColour (word : List Char) : Except Fault Bool := do
  let name := Text.lower word
  if colourNames.contains name || isHexColour name then .ok true
  else
    match inParentheses? "color" name, (inParentheses? "rgb" name).bind components? with
    | some digits, _ => .ok (isPaletteNumber digits)
    | none, some parts => do .ok ((← parts.mapM component).all (· ≤ 255))
    | none, none => .ok false

/-! ## Styles -/

/-- What a name says about attributes, the last word first, colours and the target of a link. -/
structure Style where
  switches : List (String × Bool) := []
  colour : Option (List Char) := none
  ground : Option (List Char) := none
  link : Option (List Char) := none
  deriving DecidableEq, Repr

namespace Style

/-- The words of a text. -/
def wordsOf (text : List Char) : List (List Char) :=
  (Text.splitOn ' ' (text.map fun c => if Text.isBlank c then ' ' else c)).filter (!·.isEmpty)

/-- The style that some words describe after others, if they describe one. -/
def read? (style : Style) : List (List Char) → Except Fault (Option Style)
  | [] => .ok (some style)
  | word :: rest => do
    let lowered := String.ofList (Text.lower word)
    if lowered == "on" then
      match rest with
      | [] => .ok none
      | next :: rest =>
        if ← isColour next then read? { style with ground := some (Text.lower next) } rest
        else .ok none
    else if lowered == "not" then
      match rest with
      | [] => .ok none
      | next :: rest =>
        match attribute? (String.ofList next) with
        | some name => read? { style with switches := (name, false) :: style.switches } rest
        | none => .ok none
    else if lowered == "link" then
      match rest with
      | [] => .ok none
      | next :: rest => read? { style with link := some next } rest
    else
      match attribute? lowered with
      | some name => read? { style with switches := (name, true) :: style.switches } rest
      | none =>
        if ← isColour word then read? { style with colour := some (Text.lower word) } rest
        else .ok none

/-- The style with a name, if there is one. -/
def ofName? (name : List Char) : Except Fault (Option Style) :=
  if Text.trim name == "none".toList then .ok (some {}) else read? {} (wordsOf name)

/-- The words for the switch of an attribute. -/
def switchWords (style : Style) (name : String) : List (List Char) :=
  match style.switches.lookup name with
  | some true => [name.toList]
  | some false => ["not".toList, name.toList]
  | none => []

/-- The words for a style; a style that says nothing has the word for that. -/
def words (style : Style) : List (List Char) :=
  let words := attributes.flatMap style.switchWords ++ style.colour.toList ++
    (style.ground.map (["on".toList, ·])).getD [] ++ (style.link.map (["link".toList, ·])).getD []
  if words.isEmpty then ["none".toList] else words

end Style

/-- The form of a name in which names of styles are compared. -/
def normalName (name : List Char) : Except Fault (List Char) := do
  match ← Style.ofName? name with
  | some style => .ok (Text.joinWith [' '] style.words)
  | none => .ok (Text.lower (Text.trim name))

end Ambient.Console
