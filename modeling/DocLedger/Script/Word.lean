/-!
# Words of a script

The engine may be a script for a shell.  A script is read as tokens: words,
which are made of literal text, parameters and the output of commands, and the
operators between them.  Text between quotes is kept apart from other text,
since only the latter is split into fields or matched as a pattern.
-/

namespace DocLedger.Script

/-- A text that stands for a parameter that is not set, and perhaps also for one
that is empty. -/
structure Fallback where
  text : List Char
  whenEmpty : Bool
deriving Repr, DecidableEq

/-- A part of a word. -/
inductive Piece
  | literal (text : List Char) (quoted : Bool)
  /-- A parameter, and what stands for one that is not set. -/
  | parameter (name : String) (fallback : Fallback) (quoted : Bool)
  /-- The output of a script. -/
  | output (source : List Char) (quoted : Bool)
  /-- The value of a calculation. -/
  | calculation (source : List Char) (quoted : Bool)
deriving Repr, DecidableEq

abbrev Word := List Piece

/-- A token of a script.  A redirection names the stream that goes elsewhere. -/
inductive Token
  | word (w : Word)
  | operator (text : String)
  | duplicate (stream source : Nat)
  | toFile (stream : Nat)
  | fromFile
  /-- The input itself. -/
  | fromText (w : Word)
deriving Repr, DecidableEq

def isNameChar (c : Char) : Bool := c.isAlphanum || c == '_'

def singleQuote : Char := Char.ofNat 39

def doubleQuote : Char := Char.ofNat 34

def grave : Char := Char.ofNat 96

def openBrace : Char := '\x7b'

def closeBrace : Char := '\x7d'

def specialNames : List Char := ['#', '*', '@', '?', '$', '!', '-']

/-- The text up to a character, and what follows it. -/
def upTo (mark : Char) (cs : List Char) : List Char × List Char :=
  (cs.takeWhile (· != mark), (cs.dropWhile (· != mark)).drop 1)

/-- The text up to the parenthesis that closes a number of open ones, and what
follows it.  Parentheses between single quotes do not count. -/
def upToClosing (depth : Nat) (quoted : Bool) : List Char → List Char × List Char
  | [] => ([], [])
  | c :: rest =>
    if c == singleQuote then
      let (inside, after) := upToClosing depth (!quoted) rest
      (c :: inside, after)
    else if quoted then
      let (inside, after) := upToClosing depth quoted rest
      (c :: inside, after)
    else if c == ')' && depth == 0 then ([], rest)
    else
      let deeper := if c == '(' then depth + 1 else if c == ')' then depth - 1 else depth
      let (inside, after) := upToClosing deeper quoted rest
      (c :: inside, after)

/-- The parameter that a text between braces names, with the text that stands
for it when it is not set. -/
def braced (inside : List Char) (quoted : Bool) : Piece :=
  let name := inside.takeWhile isNameChar
  let name := if name.isEmpty then inside.take 1 else name
  let more := inside.drop name.length
  let fallback : Fallback := if more.take 2 == [':', '-'] then ⟨more.drop 2, true⟩
    else if more.take 1 == ['-'] then ⟨more.drop 1, false⟩ else ⟨[], false⟩
  .parameter (String.ofList name) fallback quoted

/-- The piece that starts after a dollar sign, and what follows it. -/
def dollar (quoted : Bool) (cs : List Char) : Piece × List Char :=
  match cs with
  | [] => (.literal ['$'] quoted, [])
  | c :: rest =>
    if c == '(' then
      let (inside, after) := upToClosing 0 false rest
      if inside.head? == some '(' && inside.getLast? == some ')' then
        (.calculation ((inside.drop 1).dropLast) quoted, after)
      else (.output inside quoted, after)
    else if c == openBrace then
      let (inside, after) := upTo closeBrace rest
      (braced inside quoted, after)
    else if c.isDigit || specialNames.contains c then
      (.parameter (String.singleton c) ⟨[], false⟩ quoted, rest)
    else if isNameChar c then
      (.parameter (String.ofList (cs.takeWhile isNameChar)) ⟨[], false⟩ quoted,
        cs.dropWhile isNameChar)
    else (.literal ['$'] quoted, cs)

/-- The characters that a backslash between double quotes takes away. -/
def escapable (c : Char) : Bool :=
  c == '$' || c == grave || c == doubleQuote || c == '\\' || c == '\n'

/-- Read the inside of double quotes.  The fuel bounds the pieces. -/
def readQuoted : (fuel : Nat) → List Char → Word × List Char
  | 0, cs => ([], cs)
  | _, [] => ([], [])
  | fuel + 1, c :: rest =>
    if c == doubleQuote then ([], rest)
    else if c == '$' then
      let (piece, after) := dollar true rest
      let (more, last) := readQuoted fuel after
      (piece :: more, last)
    else if c == grave then
      let (inside, after) := upTo grave rest
      let (more, last) := readQuoted fuel after
      (.output inside true :: more, last)
    else
      let (text, after) :=
        match c, rest with
        | '\\', e :: following => if escapable e then ([e], following) else ([c], rest)
        | _, _ => ([c], rest)
      let (more, last) := readQuoted fuel after
      (.literal text true :: more, last)

/-- The word read so far as a token, if there is one. -/
def flush (current : Option Word) : List Token :=
  match current with
  | some w => [.word w]
  | none => []

/-- The stream that a redirection after a word names: the word itself, if it is
a digit. -/
def streamOf (current : Option Word) (usual : Nat) : List Token × Nat :=
  match current with
  | some [.literal [c] false] =>
    if c.isDigit then ([], c.toNat - '0'.toNat) else (flush current, usual)
  | _ => (flush current, usual)

/-- Add a piece to the word read so far. -/
def extend (current : Option Word) (piece : Piece) : Option Word :=
  some (current.getD [] ++ [piece])

/-- Lines up to one that is nothing but a delimiter, and the lines after it. -/
def linesUpTo (delimiter : List Char) : List (List Char) → List (List Char) × List (List Char)
  | [] => ([], [])
  | line :: rest =>
    if line == delimiter then ([], rest)
    else
      let (before, after) := linesUpTo delimiter rest
      (line :: before, after)

/-- A text that stands in the script itself, after the line in which it is
asked for: the word, and the script without the text.  A delimiter that is
quoted makes the text literal. -/
def textInPlace (cs : List Char) : Word × List Char :=
  let cs := cs.dropWhile (· == ' ')
  let written := cs.takeWhile fun c => !(" \t\n;&|<>)".toList.contains c)
  let isMark (c : Char) : Bool := c == singleQuote || c == doubleQuote || c == '\\'
  let delimiter := written.filter fun c => !isMark c
  let (line, after) := upTo '\n' (cs.drop written.length)
  let (text, rest) := linesUpTo delimiter (after.splitOn '\n')
  let body := (text.map fun l => l ++ ['\n']).flatten
  let word : Word := if written.any isMark then [.literal body true]
    else (readQuoted (body.length + 1) body).1
  (word, line ++ '\n' :: ['\n'].intercalate rest)

/-- Read the tokens of a script, given the word read so far.  The fuel bounds
the steps. -/
def tokens : (fuel : Nat) → Option Word → List Char → List Token
  | 0, current, _ => flush current
  | _, current, [] => flush current
  | fuel + 1, current, c :: rest =>
    let operator (text : String) (n : Nat) :=
      flush current ++ .operator text :: tokens fuel none (rest.drop n)
    let next := rest.head?
    if c == ' ' || c == '\t' then flush current ++ tokens fuel none rest
    else if c == '\n' then operator "\n" 0
    else if c == '#' && current.isNone then tokens fuel none (rest.dropWhile (· != '\n'))
    else if c == ';' then if next == some ';' then operator ";;" 1 else operator ";" 0
    else if c == '&' then if next == some '&' then operator "&&" 1 else operator "&" 0
    else if c == '|' then if next == some '|' then operator "||" 1 else operator "|" 0
    else if c == '(' then operator "(" 0
    else if c == ')' then operator ")" 0
    else if c == '>' then
      let (before, stream) := streamOf current 1
      match rest with
      | '&' :: d :: after =>
        before ++ .duplicate stream (d.toNat - '0'.toNat) :: tokens fuel none after
      | '>' :: after => before ++ .toFile stream :: tokens fuel none after
      | _ => before ++ .toFile stream :: tokens fuel none rest
    else if c == '<' then
      match rest with
      | '<' :: after =>
        let (word, after) := textInPlace after
        (streamOf current 0).1 ++ .fromText word :: tokens fuel none after
      | _ => (streamOf current 0).1 ++ .fromFile :: tokens fuel none rest
    else if c == singleQuote then
      let (inside, after) := upTo singleQuote rest
      tokens fuel (extend current (.literal inside true)) after
    else if c == doubleQuote then
      let (pieces, after) := readQuoted (rest.length + 1) rest
      tokens fuel (some (current.getD [] ++ .literal [] true :: pieces)) after
    else if c == '$' then
      let (piece, after) := dollar false rest
      tokens fuel (extend current piece) after
    else if c == grave then
      let (inside, after) := upTo grave rest
      tokens fuel (extend current (.output inside false)) after
    else
      match c, rest with
      | '\\', '\n' :: after => tokens fuel current after
      | '\\', e :: after => tokens fuel (extend current (.literal [e] true)) after
      | _, _ =>
        let merged : Option Word :=
          match current with
          | some w =>
            match w.getLast? with
            | some (.literal text false) => some (w.dropLast ++ [.literal (text ++ [c]) false])
            | _ => extend current (.literal [c] false)
          | none => extend current (.literal [c] false)
        tokens fuel merged rest

def scan (source : List Char) : List Token :=
  tokens (source.length + 1) none source

/-- The text of a word without quotes, parameters or output, which may be a
word of the language. -/
def plainText? (w : Word) : Option String :=
  match w with
  | [.literal text false] => some (String.ofList text)
  | _ => none

end DocLedger.Script
