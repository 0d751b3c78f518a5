import DocLedger.Console.Pictogram
import DocLedger.Text.Blank
import DocLedger.Text.Case

/-!
# Shortcodes

A shortcode is a name without blanks between two colons.  When the name is that
of a pictogram, in letters of either case, the pictogram takes the place of the
shortcode; a name may end in the variant in which the pictogram is to be shown.
Other shortcodes stay as they are, and both of their colons are used up.
-/

namespace DocLedger.Console

/-- The name and the pictogram that a word of the table gives.  Neither holds a
colon, which stands between them. -/
def entryOf? (word : String) : Option (List Char × List Char) :=
  match word.toList.splitOn ':' with
  | [name, pictogram] => some (name, pictogram)
  | _ => none

def pictograms : List (List Char × List Char) := (Text.words pictogramWords).filterMap entryOf?

def pictogram? (name : List Char) : Option (List Char) :=
  pictograms.lookup (Text.lowered name)

/-- The variants of pictograms, and the characters that choose them. -/
def variants : List (List Char × Char) :=
  [("-emoji".toList, Char.ofNat 0xfe0f), ("-text".toList, Char.ofNat 0xfe0e)]

/-- A name apart from its variant, with the characters that choose it. -/
def variantOf (name : List Char) : List Char × List Char :=
  match variants.find? fun v => v.1.isSuffixOf name with
  | some (ending, selector) => (name.take (name.length - ending.length), [selector])
  | none => (name, [])

/-- What is shown for a name, if it is that of a pictogram. -/
def shown? (name : List Char) : Option (List Char) :=
  let (base, selector) := variantOf name
  (pictogram? base).map (· ++ selector)

/-- The name at the front of a text that follows a colon: what stands before
the next colon, unless there are blanks in it. -/
def codeName? (cs : List Char) : Option (List Char) :=
  let name := cs.takeWhile (· != ':')
  if name.length < cs.length && !name.any Text.isBlank then some name else none

/-- A text with its shortcodes replaced, after as many characters that have
been used up. -/
def replaceCodes : Nat → List Char → List Char
  | _, [] => []
  | used + 1, _ :: cs => replaceCodes used cs
  | 0, c :: cs =>
    match if c == ':' then codeName? cs else none with
    | some name =>
      (shown? name).getD (':' :: name ++ [':']) ++ replaceCodes (name.length + 1) cs
    | none => c :: replaceCodes 0 cs

def withPictograms (cs : List Char) : List Char := replaceCodes 0 cs

end DocLedger.Console
