import DocLedger.Value.Literal

/-!
# Writing JSON

A value is written on one line in a `Style`, which fixes the separators, the
treatment of characters outside ASCII, of numbers that are not finite, and of
values that documents cannot hold.  The room for containers inside one another is
part of it: a payload is written on the stack of its caller.  `Json.indented` writes
a document over several lines for people to read.
-/

namespace DocLedger.Json

/-- What is written for a value that documents cannot hold. -/
inductive Others
  /-- Nothing: it is at fault. -/
  | refused
  /-- Its plain text. -/
  | plain
  /-- Its literal text, and an object with the digits of bytes. -/
  | literal
deriving Repr, DecidableEq

/-- How values are written on one line. -/
structure Style where
  /-- The text between two items. -/
  comma : List Char
  /-- The text between a key and its value. -/
  colon : List Char
  /-- Whether characters outside printable ASCII are escaped. -/
  ascii : Bool
  /-- Whether numbers that are not finite are refused. -/
  finite : Bool
  others : Others
  room : Room

/-- The style of payloads: no blanks, characters as they are, finite numbers. -/
def Style.compactWithin (room : Room) : Style := ⟨[','], [':'], false, true, .refused, room⟩

/-- The style of payloads where containers have any room. -/
def Style.compact : Style := .compactWithin none

def Style.complete : Style := ⟨[','], [':'], false, false, .literal, none⟩

/-- The style of engine output: a blank after each separator, ASCII. -/
def Style.spaced : Style := ⟨[',', ' '], [':', ' '], true, false, .refused, none⟩

/-- The style of log lines: as engine output, with a text for every value. -/
def Style.logged : Style := ⟨[',', ' '], [':', ' '], true, false, .plain, none⟩

/-- The style inside a container, if there is room for one. -/
def Style.inside? (style : Style) : Option Style :=
  style.room.inside?.map fun inner => { style with room := inner }

def unitEscape (n : Nat) : List Char :=
  Text.Quoted.backslash :: 'u' :: Text.Quoted.hex 4 n

def numberedEscape (c : Char) : List Char :=
  if c.toNat < 0x10000 then unitEscape c.toNat
  else
    unitEscape (0xd800 + (c.toNat - 0x10000) / 0x400) ++
      unitEscape (0xdc00 + (c.toNat - 0x10000) % 0x400)

def character (ascii : Bool) (c : Char) : List Char :=
  if c == Text.Quoted.double || c == Text.Quoted.backslash then [Text.Quoted.backslash, c]
  else if c.toNat == 10 then [Text.Quoted.backslash, 'n']
  else if c.toNat == 13 then [Text.Quoted.backslash, 'r']
  else if c.toNat == 9 then [Text.Quoted.backslash, 't']
  else if c.toNat == 12 then [Text.Quoted.backslash, 'f']
  else if c.toNat == 8 then [Text.Quoted.backslash, 'b']
  else if c.toNat < 32 || (ascii && 127 ≤ c.toNat) then numberedEscape c
  else [c]

def string (ascii : Bool) (cs : List Char) : List Char :=
  Text.Quoted.double :: cs.flatMap (character ascii) ++ [Text.Quoted.double]

/-- Why a value could not be written. -/
inductive PrintFault
  | outOfRange
  | notSerializable (kind : String)
  | badKey (kind : String)
  | circular
  | tooManyDigits
  | tooDeep
deriving Repr, DecidableEq

namespace PrintFault

def toFault : PrintFault → Fault
  | outOfRange => .outOfRange
  | notSerializable kind => .notSerializable kind
  | badKey kind => .badKey kind
  | circular => .circular
  | tooManyDigits => .tooManyDigits
  | tooDeep => .tooDeep "encoding a JSON object"

def message (f : PrintFault) : String := f.toFault.message

end PrintFault

/-- An integer, unless it has too many digits. -/
def integer (n : Int) : Except PrintFault (List Char) :=
  if Number.tooLong n then .error .tooManyDigits else .ok (Number.intDigits n)

/-- A double, unless it is not finite and the style refuses that. -/
def double (style : Style) (x : Float) : Except PrintFault (List Char) :=
  if style.finite && !Number.isFinite x then .error .outOfRange
  else .ok (Number.Layout.document.double x)

def keyText (style : Style) : Value → Except PrintFault (List Char)
  | .text s => .ok s.toList
  | .null => .ok "null".toList
  | .bool b => .ok (if b then "true".toList else "false".toList)
  | .int n => integer n
  | .float x => double style x
  | v => .error (.badKey v.qualifiedTypeName)

/-- The key under which the digits of bytes stand. -/
def bytesKey : String := "$bytes"

/-- The digits of bytes, two for each. -/
def byteDigits (bs : List UInt8) : List Char :=
  bs.flatMap fun b => Text.Quoted.hex 2 b.toNat

/-- A value that documents cannot hold. -/
def foreignValue (style : Style) (v : Value) : Except PrintFault (List Char) :=
  match style.others with
  | .refused => .error (.notSerializable v.typeName)
  | .plain =>
    if v.overlong then .error .tooManyDigits else .ok (string style.ascii v.plain.toList)
  | .literal =>
    match v with
    | .bytes bs =>
      .ok ('\x7b' :: string style.ascii bytesKey.toList ++ style.colon ++
        string style.ascii (byteDigits bs) ++ ['\x7d'])
    | v => if v.overlong then .error .tooManyDigits else .ok (string style.ascii v.literal)

/-- Texts with the comma of a style between neighbours. -/
def separated (style : Style) : List (List Char) → List Char
  | [] => []
  | [cs] => cs
  | cs :: rest => cs ++ style.comma ++ separated style rest

/-- A container between its marks, given what is written inside it, if there is room
for it. -/
def container (style : Style) (front back : Char)
    (parts : Style → Except PrintFault (List (List Char))) : Except PrintFault (List Char) :=
  match style.inside? with
  | none => .error .tooDeep
  | some inner =>
    match parts inner with
    | .error fault => .error fault
    | .ok texts => .ok (front :: separated style texts ++ [back])

mutual

def render (style : Style) : Value → Except PrintFault (List Char)
  | .null => .ok "null".toList
  | .bool b => .ok (if b then "true".toList else "false".toList)
  | .int n => integer n
  | .float x => double style x
  | .text s => .ok (string style.ascii s.toList)
  | .list items => container style '[' ']' fun inner => renderItems inner items
  | .tuple items => container style '[' ']' fun inner => renderItems inner items
  | .mapping entries => container style '\x7b' '\x7d' fun inner => renderEntries inner entries
  | .loop _ => .error .circular
  | .bytes bs => foreignValue style (.bytes bs)
  | .set items => foreignValue style (.set items)
  | .decimal d => foreignValue style (.decimal d)
  | .moment m => foreignValue style (.moment m)
  | .record kind fields => foreignValue style (.record kind fields)

/-- The items of a list, each on one line. -/
def renderItems (style : Style) : List Value → Except PrintFault (List (List Char))
  | [] => .ok []
  | v :: rest =>
    match render style v with
    | .error fault => .error fault
    | .ok text =>
      match renderItems style rest with
      | .error fault => .error fault
      | .ok texts => .ok (text :: texts)

/-- The entries of a mapping, key and value together on one line. -/
def renderEntries (style : Style) : List (Value × Value) → Except PrintFault (List (List Char))
  | [] => .ok []
  | (k, v) :: rest =>
    match keyText style k with
    | .error fault => .error fault
    | .ok key =>
      match render style v with
      | .error fault => .error fault
      | .ok text =>
        match renderEntries style rest with
        | .error fault => .error fault
        | .ok texts => .ok ((string style.ascii key ++ style.colon ++ text) :: texts)

end

def renderString (style : Style) (v : Value) : Except Fault String :=
  match render style v with
  | .error fault => .error fault.toFault
  | .ok cs => .ok (String.ofList cs)

/-- The start of a line at a level of nesting: two blanks a level. -/
def lineStart (level : Nat) : List Char :=
  '\n' :: List.replicate (2 * level) ' '

/-- Texts on lines of their own, with a comma after all but the last. -/
def lines (level : Nat) : List (List Char) → List Char
  | [] => []
  | [cs] => lineStart level ++ cs
  | cs :: rest => lineStart level ++ cs ++ ',' :: lines level rest

mutual

/-- A document over several lines, inside the given number of containers. -/
def indented (level : Nat) : Value → List Char
  | .list items =>
    if items.isEmpty then ['[', ']']
    else '[' :: lines (level + 1) (indentedItems (level + 1) items) ++ lineStart level ++ [']']
  | .tuple items =>
    if items.isEmpty then ['[', ']']
    else '[' :: lines (level + 1) (indentedItems (level + 1) items) ++ lineStart level ++ [']']
  | .mapping entries =>
    if entries.isEmpty then ['\x7b', '\x7d']
    else
      '\x7b' :: lines (level + 1) (indentedEntries (level + 1) entries) ++
        lineStart level ++ ['\x7d']
  | .null => "null".toList
  | .bool b => if b then "true".toList else "false".toList
  | .int n => Number.intDigits n
  | .float x => Number.Layout.document.double x
  | v => string false v.plain.toList

/-- The items of a list over several lines. -/
def indentedItems (level : Nat) : List Value → List (List Char)
  | [] => []
  | v :: rest => indented level v :: indentedItems level rest

/-- The entries of a mapping over several lines. -/
def indentedEntries (level : Nat) : List (Value × Value) → List (List Char)
  | [] => []
  | (k, v) :: rest =>
    (string false k.plain.toList ++ ':' :: ' ' :: indented level v) :: indentedEntries level rest

end

end DocLedger.Json
