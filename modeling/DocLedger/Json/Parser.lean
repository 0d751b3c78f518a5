import DocLedger.Fault
import DocLedger.Value.Basic

/-!
# Reading JSON

The reader works on a list of characters and returns what it read together
with the characters left.  A fault carries the number of characters left at the
place it is about, so that the reader needs to know nothing of positions;
`Json.Fault.report` turns the number into line, column and offset of the whole
text.

Numbers with a fraction or an exponent are doubles, all others are integers.
A key that occurs twice in an object keeps its first place and its last value.

Two things are left open.  Containers are read however deeply they stand inside one
another, so the room of a caller's stack bounds writing alone (`Json.Style.room`).
And texts are made of characters, so the escape of half a pair that stands alone is
read as the replacement character (`ofUnit`); every other escape is read exactly.
-/

namespace DocLedger.Json

/-- What the text should have had. -/
inductive Complaint
  | expectedValue
  | expectedName
  | expectedColon
  | expectedComma
  | unterminated
  | controlCharacter
  | badEscape
  | badUnicodeEscape
  | extraData
  | byteOrderMark
deriving Repr, DecidableEq

def Complaint.words : Complaint → String
  | .expectedValue => "Expecting value"
  | .expectedName => "Expecting property name enclosed in double quotes"
  | .expectedColon => "Expecting ':' delimiter"
  | .expectedComma => "Expecting ',' delimiter"
  | .unterminated => "Unterminated string starting at"
  | .controlCharacter => "Invalid control character at"
  | .badEscape => "Invalid \\escape"
  | .badUnicodeEscape => "Invalid \\uXXXX escape"
  | .extraData => "Extra data"
  | .byteOrderMark => "Unexpected UTF-8 BOM (decode using utf-8-sig)"

/-- Why a text could not be read. -/
inductive ParseFault
  /-- The text is no JSON; `left` characters follow from the place at fault. -/
  | malformed (complaint : Complaint) (left : Nat)
  | tooManyDigits (count : Nat)
deriving Repr, DecidableEq

def isBlank (c : Char) : Bool :=
  c == ' ' || c == '\t' || c == '\n' || c == '\r'

/-- A text without the blanks at its front. -/
def skipBlanks (cs : List Char) : List Char :=
  cs.dropWhile isBlank

def quoteMark : Char := Char.ofNat 34

def backslash : Char := Char.ofNat 92

def hexValue? (c : Char) : Option Nat :=
  let n := c.toNat
  if 48 ≤ n && n ≤ 57 then some (n - 48)
  else if 97 ≤ n && n ≤ 102 then some (n - 87)
  else if 65 ≤ n && n ≤ 70 then some (n - 55)
  else none

/-- The number written by four hexadecimal digits, and the rest. -/
def hexUnit? : List Char → Option (Nat × List Char)
  | a :: b :: c :: d :: rest => do
    let a ← hexValue? a
    let b ← hexValue? b
    let c ← hexValue? c
    let d ← hexValue? d
    return (((a * 16 + b) * 16 + c) * 16 + d, rest)
  | _ => none

/-- Whether a unit is the first half of a pair. -/
def isHighHalf (n : Nat) : Bool := 0xd800 ≤ n && n < 0xdc00

/-- Whether a unit is the second half of a pair. -/
def isLowHalf (n : Nat) : Bool := 0xdc00 ≤ n && n < 0xe000

/-- The character of two halves of a pair. -/
def ofHalves (high low : Nat) : Char :=
  Char.ofNat (0x10000 + (high - 0xd800) * 0x400 + (low - 0xdc00))

/-- The character of a lone unit; a lone half of a pair has none of its own. -/
def ofUnit (n : Nat) : Char :=
  if isHighHalf n || isLowHalf n then Text.Utf8.replacement else Char.ofNat n

def shortEscape? (c : Char) : Option Char :=
  if c == quoteMark || c == backslash || c == '/' then some c
  else if c == 'b' then some (Char.ofNat 8)
  else if c == 'f' then some (Char.ofNat 12)
  else if c == 'n' then some (Char.ofNat 10)
  else if c == 'r' then some (Char.ofNat 13)
  else if c == 't' then some (Char.ofNat 9)
  else none

/-- Read the second half of a pair after a first half, if an escape with more
text behind it follows. -/
def readLowHalf (high : Nat) (rest : List Char) : Except ParseFault (Char × List Char) :=
  match rest with
  | b :: 'u' :: after =>
    if b == backslash && 4 < after.length then
      match hexUnit? after with
      | none => .error (.malformed .badUnicodeEscape (after.length + 1))
      | some (low, last) =>
        if isLowHalf low then .ok (ofHalves high low, last) else .ok (ofUnit high, rest)
    else .ok (ofUnit high, rest)
  | _ => .ok (ofUnit high, rest)

/-- Read an escape whose backslash has been read.  A numbered escape has to have
text behind it. -/
def readEscape : List Char → Except ParseFault (Char × List Char)
  | [] => .error (.malformed .unterminated 0)
  | 'u' :: rest =>
    if rest.length ≤ 4 then .error (.malformed .badUnicodeEscape (rest.length + 1))
    else
      match hexUnit? rest with
      | none => .error (.malformed .badUnicodeEscape (rest.length + 1))
      | some (n, last) => if isHighHalf n then readLowHalf n last else .ok (ofUnit n, last)
  | c :: rest =>
    match shortEscape? c with
    | some d => .ok (d, rest)
    | none => .error (.malformed .badEscape (rest.length + 2))

/-- Read the characters of a string up to its closing quote.  `start` is the
number of characters left at its opening quote; the fuel is the number of
characters that may be read. -/
def readString (start : Nat) : (fuel : Nat) → List Char → Except ParseFault (List Char × List Char)
  | 0, _ => .error (.malformed .unterminated start)
  | _ + 1, [] => .error (.malformed .unterminated start)
  | fuel + 1, c :: rest =>
    if c == quoteMark then .ok ([], rest)
    else if c == backslash then
      match rest with
      | [] => .error (.malformed .unterminated start)
      | _ =>
        match readEscape rest with
        | .error fault => .error fault
        | .ok (d, after) =>
          match readString start fuel after with
          | .error fault => .error fault
          | .ok (more, last) => .ok (d :: more, last)
    else if c.toNat < 32 then .error (.malformed .controlCharacter (rest.length + 1))
    else
      match readString start fuel rest with
      | .error fault => .error fault
      | .ok (more, last) => .ok (c :: more, last)

/-- Read a string whose opening quote has been read. -/
def stringBody (cs : List Char) : Except ParseFault (List Char × List Char) :=
  readString (cs.length + 1) (cs.length + 1) cs

/-- The digits of a fraction, if the text goes on with a point and a digit. -/
def readFraction (cs : List Char) : List Char × List Char :=
  match cs with
  | '.' :: rest =>
    match Number.spanDigits rest with
    | ([], _) => ([], cs)
    | digits => digits
  | _ => ([], cs)

/-- The exponent, if the text goes on with one. -/
def readExponent (cs : List Char) : Option Int × List Char :=
  match cs with
  | c :: rest =>
    if c == 'e' || c == 'E' then
      let (negative, unsigned) := Number.spanSign rest
      match Number.spanDigits unsigned with
      | ([], _) => (none, cs)
      | (ds, last) =>
        let n := Int.ofNat (Number.digitsValue ds)
        (some (if negative then -n else n), last)
    else (none, cs)
  | [] => (none, cs)

/-- The digits of the whole part of a number: a zero, or digits that start with
another. -/
def readWhole? (cs : List Char) : Option (List Char × List Char) :=
  match cs with
  | '0' :: rest => some (['0'], rest)
  | _ =>
    match Number.spanDigits cs with
    | ([], _) => none
    | digits => some digits

/-- The number written by its parts: an integer where there is neither a
fraction nor an exponent. -/
def numberOfParts (negative : Bool) (whole fraction : List Char) (exponent : Option Int) :
    Except ParseFault Value :=
  match fraction, exponent with
  | [], none =>
    if Number.digitLimit < whole.length then .error (.tooManyDigits whole.length)
    else
      let n := Int.ofNat (Number.digitsValue whole)
      .ok (.int (if negative then -n else n))
  | _, _ =>
    let scale := exponent.getD 0 - Int.ofNat fraction.length
    .ok (.float (Number.ofDecimal negative (Number.digitsValue (whole ++ fraction)) scale))

/-- Read a number without its sign; `none` if there is none. -/
def readUnsigned (negative : Bool) (cs : List Char) :
    Option (Except ParseFault (Value × List Char)) :=
  (readWhole? cs).map fun whole =>
    let fraction := readFraction whole.2
    let exponent := readExponent fraction.2
    (numberOfParts negative whole.1 fraction.1 exponent.1).map fun v => (v, exponent.2)

/-- A text without the minus sign at its front, and whether there is one. -/
def spanMinus : List Char → Bool × List Char
  | '-' :: rest => (true, rest)
  | cs => (false, cs)

/-- The text after a given word at the front of another. -/
def afterWord? (word cs : List Char) : Option (List Char) :=
  match word, cs with
  | [], rest => some rest
  | w :: ws, c :: rest => if w == c then afterWord? ws rest else none
  | _ :: _, [] => none

def words : List (List Char × Value) := [
  ("null".toList, .null),
  ("true".toList, .bool true),
  ("false".toList, .bool false),
  ("NaN".toList, .float (0.0 / 0.0)),
  ("Infinity".toList, .float (1.0 / 0.0)),
  ("-Infinity".toList, .float (-1.0 / 0.0))]

/-- Read one of the words, if the text starts with one. -/
def readWord? (cs : List Char) : Option (Value × List Char) :=
  words.findSome? fun (word, value) => (afterWord? word cs).map fun rest => (value, rest)

/-- Read a value that is no string, list or object. -/
def readScalar (cs : List Char) : Except ParseFault (Value × List Char) :=
  match readWord? cs with
  | some found => .ok found
  | none =>
    (readUnsigned (spanMinus cs).1 (spanMinus cs).2).getD
      (.error (.malformed .expectedValue cs.length))

/-- The mapping of an object's members. -/
def ofMembers (members : List (List Char × Value)) : Value :=
  Value.ofEntries (members.map fun (key, value) => (.text (String.ofList key), value))

mutual

/-- Read a value from the front of a text.  The fuel bounds the number of steps
and is computed from the length of the text. -/
def readValue : (fuel : Nat) → List Char → Except ParseFault (Value × List Char)
  | 0, cs => .error (.malformed .expectedValue cs.length)
  | fuel + 1, cs =>
    match cs with
    | [] => .error (.malformed .expectedValue 0)
    | c :: rest =>
      if c == quoteMark then
        match stringBody rest with
        | .error fault => .error fault
        | .ok (text, last) => .ok (.text (String.ofList text), last)
      else if c == '[' then
        match skipBlanks rest with
        | ']' :: last => .ok (.list [], last)
        | more =>
          match readItems fuel more with
          | .error fault => .error fault
          | .ok (items, last) => .ok (.list items, last)
      else if c == '\x7b' then
        match skipBlanks rest with
        | '\x7d' :: last => .ok (ofMembers [], last)
        | more =>
          match readMembers fuel more with
          | .error fault => .error fault
          | .ok (members, last) => .ok (ofMembers members, last)
      else readScalar cs

/-- Read the items of a list, from the first of them on. -/
def readItems : (fuel : Nat) → List Char → Except ParseFault (List Value × List Char)
  | 0, cs => .error (.malformed .expectedValue cs.length)
  | fuel + 1, cs =>
    match readValue fuel cs with
    | .error fault => .error fault
    | .ok (value, after) =>
      match skipBlanks after with
      | ']' :: last => .ok ([value], last)
      | ',' :: more =>
        match readItems fuel (skipBlanks more) with
        | .error fault => .error fault
        | .ok (items, last) => .ok (value :: items, last)
      | other => .error (.malformed .expectedComma other.length)

/-- Read the members of an object, from the first of them on. -/
def readMembers : (fuel : Nat) → List Char → Except ParseFault (List (List Char × Value) × List Char)
  | 0, cs => .error (.malformed .expectedName cs.length)
  | fuel + 1, cs =>
    match cs with
    | [] => .error (.malformed .expectedName 0)
    | c :: rest =>
      if c == quoteMark then
        match stringBody rest with
        | .error fault => .error fault
        | .ok (key, afterKey) =>
          match skipBlanks afterKey with
          | ':' :: afterColon =>
            match readValue fuel (skipBlanks afterColon) with
            | .error fault => .error fault
            | .ok (value, after) =>
              match skipBlanks after with
              | '\x7d' :: last => .ok ([(key, value)], last)
              | ',' :: more =>
                match readMembers fuel (skipBlanks more) with
                | .error fault => .error fault
                | .ok (members, last) => .ok ((key, value) :: members, last)
              | other => .error (.malformed .expectedComma other.length)
          | other => .error (.malformed .expectedColon other.length)
      else .error (.malformed .expectedName cs.length)

end

/-- Steps enough to read a text of the given length. -/
def fuelFor (length : Nat) : Nat := 2 * length + 2

/-- Read the value at the front of a text, which must start with it. -/
def readFront (cs : List Char) : Except ParseFault (Value × List Char) :=
  readValue (fuelFor cs.length) cs

/-- Read a text that is one value with blanks around it. -/
def readDocument (cs : List Char) : Except ParseFault Value :=
  if cs.head? == some (Char.ofNat 0xfeff) then .error (.malformed .byteOrderMark cs.length)
  else
    match readFront (skipBlanks cs) with
    | .error fault => .error fault
    | .ok (value, rest) =>
      match skipBlanks rest with
      | [] => .ok value
      | more => .error (.malformed .extraData more.length)

/-- A place in a text: its line and column, counted from one, and its offset. -/
structure Place where
  line : Nat
  column : Nat
  offset : Nat
deriving Repr, DecidableEq

def placeAfter (before : List Char) : Place where
  line := 1 + before.count '\n'
  column := (before.reverse.takeWhile (· != '\n')).length + 1
  offset := before.length

/-- The report of a complaint about a place of a text. -/
def report (complaint : Complaint) (cs : List Char) (left : Nat) : String :=
  let place := placeAfter (cs.take (cs.length - left))
  complaint.words ++ ": line " ++ toString place.line ++ " column " ++ toString place.column ++
    " (char " ++ toString place.offset ++ ")"

/-- A fault in reading a text, with its words. -/
def ParseFault.toFault (cs : List Char) : ParseFault → Fault
  | .malformed complaint left => .malformedDocument (report complaint cs left)
  | .tooManyDigits count => .tooManyDigitsRead count

end DocLedger.Json
