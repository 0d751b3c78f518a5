import DocLedger.Text.Blank

/-!
# Words of a command line

A command is shown as one line that a shell would split back into the same
words.  A word of harmless characters stands as it is; any other word is put
between single quotes, and a single quote inside it leaves the quotes, stands
between double quotes, and enters them again.
-/

namespace DocLedger.Text.ShellWords

/-- Whether a character needs no quotes. -/
def isHarmless (c : Char) : Bool :=
  c.isAlphanum || c == '_' || c == '@' || c == '%' || c == '+' || c == '=' || c == ':' ||
    c == ',' || c == '.' || c == '/' || c == '-'

def quoteMark : Char := Char.ofNat 39

def doubleMark : Char := Char.ofNat 34

/-- The characters of a word inside single quotes. -/
def quotedBody : List Char → List Char
  | [] => []
  | c :: rest =>
    if c == quoteMark then
      quoteMark :: doubleMark :: quoteMark :: doubleMark :: quoteMark :: quotedBody rest
    else c :: quotedBody rest

/-- A word as a shell would have to read it. -/
def quote (word : String) : String :=
  let cs := word.toList
  if !cs.isEmpty && cs.all isHarmless then word
  else String.ofList (quoteMark :: quotedBody cs ++ [quoteMark])

def line (words : List String) : String :=
  Text.joined " " (words.map quote)

end DocLedger.Text.ShellWords
