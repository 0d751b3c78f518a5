import DocLedger.Value.Basic

/-!
# The texts of a value

A value has two texts.  Its literal text shows texts between quotes and so
tells every kind of value apart; its plain text is what a message shows when
the value is put into a sentence.  The two differ for texts, decimals and
moments only.  A value that holds an integer with too many digits has neither, and
where the room for containers is limited, a value beyond it has none either.
-/

namespace DocLedger

namespace Value

/-- Texts with a comma and a space between neighbours. -/
def listed : List (List Char) → List Char
  | [] => []
  | [cs] => cs
  | cs :: rest => cs ++ ',' :: ' ' :: listed rest

/-- Texts as in `listed`, a single one followed by a comma. -/
def row : List (List Char) → List Char
  | [cs] => cs ++ [',']
  | all => listed all

mutual

def literal : Value → List Char
  | null => "None".toList
  | bool b => if b then "True".toList else "False".toList
  | int n => Number.intDigits n
  | float x => Number.Layout.plain.double x
  | text s => Text.Quoted.text s.toList
  | bytes bs => Text.Quoted.bytes bs
  | list items => '[' :: listed (literals items) ++ [']']
  | tuple items => '(' :: row (literals items) ++ [')']
  | set items => if items.isEmpty then "set()".toList else '{' :: listed (literals items) ++ ['}']
  | mapping entries => '{' :: listed (entryLiterals entries) ++ ['}']
  | decimal d => "Decimal(".toList ++ Text.Quoted.text d.text ++ [')']
  | moment m => m.literal.toList
  | record kind fields => kind.toList ++ '(' :: listed (fieldLiterals fields) ++ [')']
  | loop isMapping => if isMapping then "\x7b'self': \x7b...\x7d\x7d".toList else "[[...]]".toList

def literals : List Value → List (List Char)
  | [] => []
  | v :: rest => literal v :: literals rest

/-- The literal texts of some entries, key and value joined by a colon. -/
def entryLiterals : List (Value × Value) → List (List Char)
  | [] => []
  | (k, v) :: rest => (literal k ++ ':' :: ' ' :: literal v) :: entryLiterals rest

/-- The literal texts of some fields, name and value joined by an equals
sign. -/
def fieldLiterals : List (String × Value) → List (List Char)
  | [] => []
  | (name, v) :: rest => (name.toList ++ '=' :: literal v) :: fieldLiterals rest

end

def plain : Value → String
  | text s => s
  | decimal d => String.ofList d.text
  | moment m => m.plain
  | v => String.ofList v.literal

def literalText (v : Value) : String :=
  String.ofList v.literal

/-- The literal text of a value, if it can be written. -/
def quoted (v : Value) : Except Fault String :=
  if v.overlong then .error .tooManyDigits else .ok v.literalText

/-- There is no room for the literal text of a container. -/
def tooDeepToQuote : Fault := .tooDeep "getting the repr of an object"

mutual

/-- What first keeps the literal text of a value from being written, if anything
does. -/
def quoteFault? (room : Room) : Value → Option Fault
  | int n => if Number.tooLong n then some .tooManyDigits else none
  | list items =>
    match room.inside? with
    | none => some tooDeepToQuote
    | some inner => itemsQuoteFault? inner items
  | tuple items =>
    match room.inside? with
    | none => some tooDeepToQuote
    | some inner => itemsQuoteFault? inner items
  | set items =>
    match room.inside? with
    | none => some tooDeepToQuote
    | some inner => itemsQuoteFault? inner items
  | mapping entries =>
    match room.inside? with
    | none => some tooDeepToQuote
    | some inner => entriesQuoteFault? inner entries
  | record _ fields =>
    match room.inside? with
    | none => some tooDeepToQuote
    | some inner => fieldsQuoteFault? inner fields
  | _ => none

/-- What first keeps the literal texts of some values from being written. -/
def itemsQuoteFault? (room : Room) : List Value → Option Fault
  | [] => none
  | v :: rest => (quoteFault? room v).or (itemsQuoteFault? room rest)

/-- What first keeps the literal texts of some entries from being written. -/
def entriesQuoteFault? (room : Room) : List (Value × Value) → Option Fault
  | [] => none
  | (k, v) :: rest =>
    ((quoteFault? room k).or (quoteFault? room v)).or (entriesQuoteFault? room rest)

/-- What first keeps the literal texts of some fields from being written. -/
def fieldsQuoteFault? (room : Room) : List (String × Value) → Option Fault
  | [] => none
  | (_, v) :: rest => (quoteFault? room v).or (fieldsQuoteFault? room rest)

end

/-- The plain text of a value, if it can be written. -/
def spelled (v : Value) : Except Fault String :=
  if v.overlong then .error .tooManyDigits else .ok v.plain

end Value

end DocLedger
