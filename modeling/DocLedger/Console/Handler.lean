import DocLedger.Fault
import DocLedger.Text.Symbol

/-!
# Handlers

A tag whose name starts with an at sign names a handler after its equals sign:
a name, a value in brackets, or both.  The value is a literal: numbers, texts
and names, put together with brackets, commas and operators.  A value that is
not written as one is a fault, whose report says what is wrong with it.

A mistake in the characters of a value counts before one in the order of its
parts, wherever the two stand; only a backslash, after which nothing is read,
counts where it stands.  `mistake?` is the first mistake that counts.
-/

namespace DocLedger.Console.Handler

/-- What is wrong with the text of a value. -/
inductive Mistake
  /-- A closing bracket without an opening one. -/
  | unmatched (closing : Char)
  | mismatched (closing opening : Char)
  | unclosed (opening : Char)
  /-- A text without its end, perhaps one in triple quotes, which reaches a line. -/
  | endlessText (triple : Bool) (line : Nat)
  /-- A number of a kind that is not written as one. -/
  | badNumber (kind : String)
  /-- A digit that numbers of a kind do not have. -/
  | badDigit (digit : Char) (kind : String)
  | leadingZeros
  | badCharacter (c : Char)
  | afterBackslash
  /-- Two values side by side between brackets. -/
  | adjacent
  /-- A key without a value. -/
  | noEntry
  /-- An equals sign after what is no name of an argument. -/
  | assigned
  | disordered
deriving Repr, DecidableEq

def codePoint (c : Char) : String :=
  "U+" ++ String.ofList ((Text.Quoted.hex 4 c.toNat).map Char.toUpper)

def Mistake.message : Mistake → String
  | unmatched closing => "unmatched '" ++ String.singleton closing ++ "'"
  | mismatched closing opening =>
    "closing parenthesis '" ++ String.singleton closing ++
      "' does not match opening parenthesis '" ++ String.singleton opening ++ "'"
  | unclosed opening => "'" ++ String.singleton opening ++ "' was never closed"
  | endlessText triple line =>
    "unterminated " ++ (if triple then "triple-quoted " else "") ++
      "string literal (detected at line " ++ toString line ++ ")"
  | badNumber kind => "invalid " ++ kind ++ " literal"
  | badDigit digit kind => "invalid digit '" ++ String.singleton digit ++ "' in " ++ kind ++ " literal"
  | leadingZeros =>
    "leading zeros in decimal integer literals are not permitted; " ++
      "use an 0o prefix for octal integers"
  | badCharacter c =>
    if Text.isPrintable c then
      "invalid character '" ++ String.singleton c ++ "' (" ++ codePoint c ++ ")"
    else "invalid non-printable character " ++ codePoint c
  | afterBackslash => "unexpected character after line continuation character"
  | adjacent => "invalid syntax. Perhaps you forgot a comma?"
  | noEntry => "expression expected after dictionary key and ':'"
  | assigned => "invalid syntax. Maybe you meant '==' or ':=' instead of '='?"
  | disordered => "invalid syntax"

/-- A part of the text of a value. -/
inductive Token
  /-- A number, a name or a text; texts side by side are one. -/
  | operand (isText : Bool)
  | opening (c : Char)
  | closing
  | comma
  | colon
  | equals
  /-- An operator, which may also stand in front of its only operand. -/
  | operator (leads : Bool)
  /-- A star or two, which may stand between values or in front of one between
  brackets. -/
  | star
  /-- A character or a word that no value has. -/
  | stray
  /-- A backslash, which ends what is read. -/
  | broken
deriving Repr, DecidableEq

def isNameCharacter (c : Char) : Bool := c == '_' || c.isAlphanum || 128 ≤ c.toNat

/-- Whether the front of a text is a character of some kind. -/
def startsWith (kind : Char → Bool) (cs : List Char) : Bool := (cs.head?.map kind).getD false

def wordsAfterNumbers : List String := ["and", "else", "for", "if", "in", "is", "or", "not"]

/-- Whether what follows a number is taken for a part of it. -/
def runsOn (cs : List Char) : Bool :=
  startsWith (fun c => isNameCharacter c && c.toNat < 128) cs && !wordsAfterNumbers.any fun word => word.toList.isPrefixOf cs

/-- The length of the digits of a kind at the front of a text, with single
underscores between them; none when an underscore is followed by no digit. -/
def digitRun? (kind : Char → Bool) : List Char → Option Nat
  | [] => some 0
  | '_' :: d :: rest => if kind d then (digitRun? kind rest).map (· + 2) else none
  | ['_'] => none
  | c :: rest => if kind c then (digitRun? kind rest).map (· + 1) else some 0

/-- The length of an exponent at the front of a text: nothing, when there is
none. -/
def exponentRun? : List Char → Option Nat
  | e :: rest =>
    if e == 'e' || e == 'E' then
      let sign := if rest.head? == some '+' || rest.head? == some '-' then 1 else 0
      if startsWith Char.isDigit (rest.drop sign) then
        (digitRun? Char.isDigit (rest.drop sign)).map (· + sign + 1)
      else if runsOn (e :: rest) then none
      else some 0
    else some 0
  | [] => some 0

/-- The length of a fraction at the front of a text: nothing, when there is
none. -/
def fractionRun? : List Char → Option Nat
  | '.' :: rest =>
    if startsWith Char.isDigit rest then (digitRun? Char.isDigit rest).map (· + 1) else some 1
  | _ => some 0

/-- The length of the decimal number at the front of a text. -/
def decimalLength (cs : List Char) : Except Mistake Nat :=
  let parts : Option (Nat × Nat) := do
    let whole ← digitRun? Char.isDigit cs
    let fraction ← fractionRun? (cs.drop whole)
    let exponent ← exponentRun? (cs.drop (whole + fraction))
    some (whole, fraction + exponent)
  match parts with
  | none => .error (.badNumber "decimal")
  | some (whole, more) =>
    let rest := cs.drop (whole + more)
    let isImaginary := startsWith (fun c => c == 'j' || c == 'J') rest
    let length := whole + more + if isImaginary then 1 else 0
    let isWhole := more == 0 && !isImaginary
    if isWhole && cs.head? == some '0' && (cs.take whole).any (fun c => c != '0' && c != '_') then
      .error .leadingZeros
    else if runsOn (cs.drop length) then
      .error (.badNumber (if isImaginary then "imaginary" else "decimal"))
    else .ok length

/-- The length of a number of another base after its mark, which is a nought and
a letter. -/
def basedLength (name : String) (kind : Char → Bool) (cs : List Char) : Except Mistake Nat :=
  let lead := if cs.head? == some '_' then 1 else 0
  match (cs.dropWhile fun c => kind c || c == '_').head?, digitRun? kind (cs.drop lead) with
  | some c, run =>
    if c.isDigit then .error (.badDigit c name)
    else match run with
      | some (n + 1) =>
        if runsOn (cs.drop (lead + n + 1)) then .error (.badNumber name) else .ok (lead + n + 3)
      | _ => .error (.badNumber name)
  | none, some (n + 1) => .ok (lead + n + 3)
  | none, _ => .error (.badNumber name)

def numberLength : List Char → Except Mistake Nat
  | '0' :: mark :: rest =>
    match mark.toLower with
    | 'x' => basedLength "hexadecimal" (fun c => c.isDigit || ('a' ≤ c.toLower && c.toLower ≤ 'f')) rest
    | 'o' => basedLength "octal" (fun c => '0' ≤ c && c ≤ '7') rest
    | 'b' => basedLength "binary" (fun c => c == '0' || c == '1') rest
    | _ => decimalLength ('0' :: mark :: rest)
  | cs => decimalLength cs

/-- The length of a text up to its closing mark, which is the same character
once or three times; a backslash takes the next character with it. -/
def textLength? (mark : Char) (triple : Bool) : List Char → Option Nat
  | [] => none
  | '\\' :: _ :: rest => (textLength? mark triple rest).map (· + 2)
  | c :: rest =>
    if c == mark && !triple then some 1
    else if triple && [c] ++ rest.take 2 == [mark, mark, mark] then some 3
    else if c == '\n' && !triple then none
    else (textLength? mark triple rest).map (· + 1)

/-- The number of the line on which the front of a text ends. -/
def lineAfter (cs : List Char) : Nat := cs.count '\n' + 1

/-- The length of the text in quotes at the front of some characters. -/
def quotedLength (before cs : List Char) : Except Mistake Nat :=
  match cs with
  | [] => .ok 0
  | mark :: rest =>
    let triple := rest.take 2 == [mark, mark]
    let marks := if triple then 3 else 1
    match textLength? mark triple (cs.drop marks) with
    | some n => .ok (n + marks)
    | none =>
      .error (.endlessText triple (lineAfter (before ++ if triple then cs else [])))

def isMark (c : Char) : Bool := c == Text.Quoted.single || c == Text.Quoted.double

/-- Whether a name tells, before a quotation mark, how a text is written. -/
def marksText (name : List Char) : Bool :=
  ["r", "u", "b", "f", "br", "rb", "fr", "rf"].contains
    (String.ofList (name.map Char.toLower))

def joiningWords : List String := ["and", "or", "in", "is", "if", "else", "for"]

def leadingWords : List String := ["not", "await", "yield", "lambda"]

def reservedWords : List String :=
  ["as", "assert", "async", "break", "class", "continue", "def", "del", "elif", "except", "finally",
    "from", "global", "import", "nonlocal", "pass", "raise", "return", "try", "while", "with"]

def wordToken (word : String) : Token :=
  if reservedWords.contains word then .stray
  else if joiningWords.contains word then .operator false
  else if leadingWords.contains word then .operator true
  else .operand false

def closingOf (c : Char) : Char := if c == '(' then ')' else if c == '{' then '}' else ']'

/-- The token at the front of some characters and its length; blanks and
comments are no token. -/
def tokenAt (before cs : List Char) : Except Mistake (Option Token × Nat) :=
  match cs with
  | [] => .ok (none, 0)
  | c :: rest =>
    if c == ' ' || c == '\t' || c == '\n' || c == Char.ofNat 12 then .ok (none, 1)
    else if c == '#' then .ok (none, (cs.takeWhile (· != '\n')).length)
    else if c.isDigit || (c == '.' && startsWith Char.isDigit rest) then
      (numberLength cs).map fun n => (some (.operand false), n)
    else if isMark c then (quotedLength before cs).map fun n => (some (.operand true), n)
    else if isNameCharacter c then
      let name := cs.takeWhile isNameCharacter
      let more := cs.drop name.length
      if marksText name && startsWith isMark more then
        (quotedLength before more).map fun n => (some (.operand true), name.length + n)
      else match name.find? fun d => !Text.isWordCharacter d with
        | some d => .error (.badCharacter d)
        | none => .ok (some (wordToken (String.ofList name)), name.length)
    else if c == Text.Quoted.backslash then .ok (some .broken, cs.length)
    else if c == '.' && rest.take 2 == ['.', '.'] then .ok (some (.operand false), 3)
    else if c == '(' || c == '[' || c == '\x7b' then .ok (some (.opening c), 1)
    else if c == ')' || c == ']' || c == '\x7d' then .ok (some .closing, 1)
    else if c == ',' then .ok (some .comma, 1)
    else if c == ':' then .ok (some .colon, 1)
    else if c == '=' && rest.head? != some '=' then .ok (some .equals, 1)
    else if "+-~".toList.contains c then .ok (some (.operator true), 1)
    else if c == '*' then
      let length := if rest.head? == some '*' then 2 else 1
      .ok (some .star, length)
    else if "/%@<>=&|^.".toList.contains c then
      .ok (some (.operator false), if rest.head? == some '=' then 2 else 1)
    else if 32 ≤ c.toNat && c.toNat != 127 then .ok (some .stray, 1)
    else .error (.badCharacter c)

def bracketsAfter (opened : List Char) (token : Option Token) (c : Char) :
    Except Mistake (List Char) :=
  match token with
  | some (.opening _) => .ok (c :: opened)
  | some .closing =>
    match opened with
    | [] => .error (.unmatched c)
    | o :: rest => if closingOf o == c then .ok rest else .error (.mismatched c o)
  | _ => .ok opened

/-- The tokens of some characters, after those that come before them and as
many characters that a token has taken up, when some brackets are open. -/
def tokens (opened before : List Char) : Nat → List Char → Except Mistake (List Token)
  | _, [] => .ok []
  | taken + 1, c :: cs => tokens opened (c :: before) taken cs
  | 0, c :: cs => do
    let (token, length) ← tokenAt before (c :: cs)
    let inside ← bracketsAfter opened token c
    return token.toList ++ (← tokens inside (c :: before) (length - 1) cs)

/-- What may come next in a value. -/
inductive Place
  /-- A value has to come. -/
  | wanting
  /-- A value has to come after a key. -/
  | afterColon
  /-- A value or the end of the list may come. -/
  | listed
  /-- A value has come, which may have been a text. -/
  | settled (isText : Bool)
deriving Repr, DecidableEq

/-- The mistake of a value right after another. -/
def besides (opened : List (Char × Bool)) (more : List Token) : Mistake :=
  match opened, more with
  | _, .broken :: _ => .afterBackslash
  | [], _ => .disordered
  | (c, _) :: _, [] => .unclosed c
  | _, _ => .adjacent

/-- The mistake of brackets right after a value, given the one in what follows:
brackets that are never closed, and what cannot be read, come first. -/
def bracketsBesides (opened : List (Char × Bool)) (more : List Token) :
    Option Mistake → Mistake
  | some (.unclosed c) => if more.contains .closing then besides opened more else .unclosed c
  | some .afterBackslash => .afterBackslash
  | _ => besides opened more

/-- The first mistake in the order of some tokens.  Each open bracket is there
with whether it holds the arguments of a call. -/
def orderMistake? (opened : List (Char × Bool)) (place : Place) : List Token → Option Mistake
  | [] =>
    match opened, place with
    | (c, _) :: _, _ => some (.unclosed c)
    | [], .settled _ => none
    | [], .listed => none
    | [], _ => some .disordered
  | .operand isText :: more =>
    match place with
    | .settled wasText =>
      if isText && wasText then orderMistake? opened place more else some (besides opened more)
    | _ => orderMistake? opened (.settled isText) more
  | .opening c :: more =>
    match place with
    | .settled _ =>
      if c == '(' then orderMistake? ((c, true) :: opened) .listed more
      else some (bracketsBesides opened more
        (orderMistake? ((c, false) :: opened) .listed more))
    | _ => orderMistake? ((c, false) :: opened) .listed more
  | .closing :: more =>
    match place with
    | .wanting => some .disordered
    | .afterColon => some .noEntry
    | _ => orderMistake? (opened.drop 1) (.settled false) more
  | .comma :: more =>
    match place with
    | .settled _ => orderMistake? opened .listed more
    | _ => some .disordered
  | .colon :: more =>
    match place, opened with
    | .settled _, ('\x7b', _) :: _ => orderMistake? opened .afterColon more
    | _, _ => some .disordered
  | .equals :: more =>
    match place, opened with
    | .settled _, (_, true) :: _ => orderMistake? opened .wanting more
    | .settled _, ('(', false) :: _ => some .assigned
    | _, _ => some .disordered
  | .operator leads :: more =>
    match place with
    | .settled _ => orderMistake? opened .wanting more
    | _ => if leads then orderMistake? opened .wanting more else some .disordered
  | .star :: more =>
    match place, opened with
    | .settled _, _ => orderMistake? opened .wanting more
    | .listed, _ :: _ => orderMistake? opened .wanting more
    | _, _ => some .disordered
  | .stray :: _ => some .disordered
  | .broken :: _ => some .afterBackslash

def mistake? (cs : List Char) : Option Mistake :=
  match tokens [] [] 0 (cs.dropWhile fun c => c == ' ' || c == '\t') with
  | .error m => some m
  | .ok ts => orderMistake? [] .wanting ts

/-- The part of the parameters of a handler that is a value: what stands in
brackets after the name of the handler, or all of it. -/
def valuePart (cs : List Char) : List Char :=
  let rest := cs.dropWhile fun c => c == '.' || Text.isWordCharacter c
  if rest.isEmpty then ['(', ')']
  else if 2 ≤ rest.length && rest.head? == some '(' && rest.getLast? == some ')' &&
      !rest.contains '\n' then rest
  else cs

/-- Check the parameters of a handler as a tag has them. -/
def check (parameters : String) : Except Fault Unit :=
  let value := valuePart (Text.trim parameters.toList)
  if value.contains (Char.ofNat 0) then
    .error (.markup ("error parsing " ++ Text.Quoted.string parameters ++
      "; source code string cannot contain null bytes"))
  else match mistake? value with
    | none => .ok ()
    | some m =>
      .error (.markup ("error parsing " ++ Text.Quoted.string (String.ofList value) ++ " in " ++
        Text.Quoted.string parameters ++ "; " ++ m.message))

end DocLedger.Console.Handler
