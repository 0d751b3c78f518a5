import DocLedger.Fault
import DocLedger.Number.Written
import DocLedger.Text.Case

/-!
# Styles

A style names attributes, which may be refused, a colour, a background and a
link, in any order and with short names for some attributes.  Two names of one
style have one normal form.  A text that is no style has itself as normal form,
without blanks around it and in lower case.  A mixture of three colours whose
parts are no numbers is a fault.
-/

namespace DocLedger.Console

/-- The attributes of a style, in the order in which a normal form has them. -/
def attributes : List String :=
  ["bold", "dim", "italic", "underline", "blink", "blink2", "reverse", "conceal", "strike",
    "underline2", "frame", "encircle", "overline"]

def shortAttributes : List (String × String) :=
  [("d", "dim"), ("b", "bold"), ("i", "italic"), ("u", "underline"), ("r", "reverse"),
    ("c", "conceal"), ("s", "strike"), ("uu", "underline2"), ("o", "overline")]

def attribute? (name : String) : Option String :=
  if attributes.contains name then some name else shortAttributes.lookup name

/-- The names of colours, in words. -/
def colourWords : String :=
  "black red green yellow blue magenta cyan white bright_black bright_red bright_green
    bright_yellow bright_blue bright_magenta bright_cyan bright_white grey0 gray0 navy_blue
    dark_blue blue3 blue1 dark_green deep_sky_blue4 dodger_blue3 dodger_blue2 green4
    spring_green4 turquoise4 deep_sky_blue3 dodger_blue1 green3 spring_green3 dark_cyan
    light_sea_green deep_sky_blue2 deep_sky_blue1 spring_green2 cyan3 dark_turquoise
    turquoise2 green1 spring_green1 medium_spring_green cyan2 cyan1 dark_red deep_pink4
    purple4 purple3 blue_violet orange4 grey37 gray37 medium_purple4 slate_blue3 royal_blue1
    chartreuse4 dark_sea_green4 pale_turquoise4 steel_blue steel_blue3 cornflower_blue
    chartreuse3 cadet_blue sky_blue3 steel_blue1 pale_green3 sea_green3 aquamarine3
    medium_turquoise chartreuse2 sea_green2 sea_green1 aquamarine1 dark_slate_gray2
    dark_magenta dark_violet purple light_pink4 plum4 medium_purple3 slate_blue1 yellow4
    wheat4 grey53 gray53 light_slate_grey light_slate_gray medium_purple light_slate_blue
    dark_olive_green3 dark_sea_green light_sky_blue3 sky_blue2 dark_sea_green3
    dark_slate_gray3 sky_blue1 chartreuse1 light_green pale_green1 dark_slate_gray1 red3
    medium_violet_red magenta3 dark_orange3 indian_red hot_pink3 medium_orchid3 medium_orchid
    medium_purple2 dark_goldenrod light_salmon3 rosy_brown grey63 gray63 medium_purple1 gold3
    dark_khaki navajo_white3 grey69 gray69 light_steel_blue3 light_steel_blue yellow3
    dark_sea_green2 light_cyan3 light_sky_blue1 green_yellow dark_olive_green2
    dark_sea_green1 pale_turquoise1 deep_pink3 magenta2 hot_pink2 orchid medium_orchid1
    orange3 light_pink3 pink3 plum3 violet light_goldenrod3 tan misty_rose3 thistle3 plum2
    khaki3 light_goldenrod2 light_yellow3 grey84 gray84 light_steel_blue1 yellow2
    dark_olive_green1 honeydew2 light_cyan1 red1 deep_pink2 deep_pink1 magenta1 orange_red1
    indian_red1 hot_pink dark_orange salmon1 light_coral pale_violet_red1 orchid2 orchid1
    orange1 sandy_brown light_salmon1 light_pink1 pink1 plum1 gold1 navajo_white1 misty_rose1
    thistle1 yellow1 light_goldenrod1 khaki1 wheat1 cornsilk1 grey100 gray100 grey3 gray3
    grey7 gray7 grey11 gray11 grey15 gray15 grey19 gray19 grey23 gray23 grey27 gray27 grey30
    gray30 grey35 gray35 grey39 gray39 grey42 gray42 grey46 gray46 grey50 gray50 grey54
    gray54 grey58 gray58 grey62 gray62 grey66 gray66 grey70 gray70 grey74 gray74 grey78
    gray78 grey82 gray82 grey85 gray85 grey89 gray89 grey93 gray93"

def colourNames : List String := Text.words colourWords

/-- The text between some opening and the bracket that ends it. -/
def bracketed? (opening : String) (cs : List Char) : Option (List Char) :=
  if opening.toList.isPrefixOf cs && cs.getLast? == some ')' then
    some ((cs.drop opening.length).dropLast)
  else none

/-- The greatest number of a colour, and of each part of a mixture. -/
def greatestColour : Nat := 255

/-- Whether a text has at most three digits, of a number that a colour has. -/
def isColourNumber (cs : List Char) : Bool :=
  !cs.isEmpty && cs.length ≤ 3 && cs.all Char.isDigit && Number.digitsValue cs ≤ greatestColour

/-- Whether a text may be that of a mixture: digits of any script, blanks and
commas. -/
def looksMixed (cs : List Char) : Bool :=
  !cs.isEmpty && cs.all fun c => c == ',' || (Text.digitValue? c).isSome || Text.isBlank c

def mixturePart (part : String) : Except Fault Int :=
  match Number.writtenInteger part.toList with
  | .ok n => .ok n
  | .error .unreadable => .error (.badInteger (Text.Quoted.string part))
  | .error (.tooManyDigits count) => .error (.tooManyDigitsRead count)

/-- Whether a text is a mixture of three numbers.  The numbers are read only
when there are three of them. -/
def isMixture (body : List Char) : Except Fault Bool := do
  let parts := (String.ofList body).splitOn ","
  if !looksMixed body || parts.length != 3 then return false
  return (← parts.mapM mixturePart).all (· ≤ Int.ofNat greatestColour)

/-- Whether a text in lower case is that of a colour: a name, a number, three
numbers, or six hexadecimal digits. -/
def isColour (name : String) : Except Fault Bool :=
  let cs := name.toList
  let isHex (c : Char) : Bool := c.isDigit || ('a' ≤ c && c ≤ 'f')
  if name == "default" || colourNames.contains name then .ok true
  else if cs.head? == some '#' then .ok (cs.length == 7 && (cs.drop 1).all isHex)
  else match bracketed? "color(" cs, bracketed? "rgb(" cs with
    | some digits, _ => .ok (isColourNumber digits)
    | none, some body => isMixture body
    | none, none => .ok false

/-- A style. -/
structure Style where
  attributes : List (String × Bool)
  colour : Option String
  background : Option String
  link : Option String
deriving Repr, DecidableEq

namespace Style

def plain : Style := ⟨[], none, none, none⟩

/-- Read the words of a style onto a style, if they are those of one.  The
words are in letters of either case, but for what stands after `not` and after
`link`. -/
def read (s : Style) : List String → Except Fault (Option Style)
  | [] => .ok (some s)
  | word :: rest =>
    match Text.lower word, rest with
    | "on", name :: more => do
      let colour := Text.lower name
      if ← isColour colour then ({ s with background := some colour } : Style).read more
      else return none
    | "on", [] => .ok none
    | "not", name :: more =>
      match attribute? name with
      | some a => { s with attributes := (a, false) :: s.attributes }.read more
      | none => .ok none
    | "not", [] => .ok none
    | "link", url :: more => { s with link := some url }.read more
    | "link", [] => .ok none
    | name, more =>
      match attribute? name with
      | some a => { s with attributes := (a, true) :: s.attributes }.read more
      | none => do
        if ← isColour name then ({ s with colour := some name } : Style).read more
        else return none

def words (s : Style) : List String :=
  (Console.attributes.filterMap fun a =>
    (s.attributes.lookup a).map fun on => if on then a else "not " ++ a) ++
    s.colour.toList ++
    (s.background.map fun name => "on " ++ name).toList ++
    (s.link.map fun url => "link " ++ url).toList

end Style

/-- The style of a name, if it is one of a style. -/
def Style.ofName (name : String) : Except Fault (Option Style) :=
  Style.plain.read (if Text.trimmed name == "none" then [] else Text.words name)

def normalStyle (name : String) : Except Fault String := do
  match ← Style.ofName name with
  | some s => return if s.words.isEmpty then "none" else Text.joined " " s.words
  | none => return Text.lower (Text.trimmed name)

end DocLedger.Console
