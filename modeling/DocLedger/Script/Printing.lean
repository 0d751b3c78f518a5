import DocLedger.Engine.Child
import DocLedger.Text.Utf8

/-!
# What scripts print

A script prints texts with escapes and formats with directives.  A format is
used again as long as arguments are left.
-/

namespace DocLedger.Script

open Engine (Bytes)

def bytesOf (cs : List Char) : Bytes := Text.Utf8.encode (String.ofList cs)

/-- The byte that a letter after a backslash stands for. -/
def letterEscape? (c : Char) : Option UInt8 :=
  match c with
  | 'a' => some 7
  | 'b' => some 8
  | 'f' => some 12
  | 'n' => some 10
  | 'r' => some 13
  | 't' => some 9
  | 'v' => some 11
  | '\\' => some 92
  | _ => none

/-- Whether a character is a digit of the octal system. -/
def isOctal (c : Char) : Bool := '0' ≤ c && c ≤ '7'

def octalValue (cs : List Char) : Nat :=
  cs.foldl (fun n c => n * 8 + (c.toNat - '0'.toNat)) 0

/-- The octal digits in front, of which there are at most three. -/
def octalDigits (cs : List Char) : List Char := (cs.take 3).takeWhile isOctal

/-- The bytes of a text with escapes, and whether the text ends all output.
Octal escapes start with a zero there.  The fuel bounds the characters. -/
def unescaped : (fuel : Nat) → List Char → Bytes × Bool
  | 0, _ => ([], false)
  | _, [] => ([], false)
  | fuel + 1, c :: rest =>
    let go (bytes : Bytes) (after : List Char) :=
      let (more, ends) := unescaped fuel after
      (bytes ++ more, ends)
    match c, rest with
    | '\\', 'c' :: _ => ([], true)
    | '\\', '0' :: after =>
      let digits := octalDigits after
      go [UInt8.ofNat (octalValue digits)] (after.drop digits.length)
    | '\\', e :: after =>
      match letterEscape? e with
      | some byte => go [byte] after
      | none => go (bytesOf [c]) rest
    | _, _ => go (bytesOf [c]) rest

def echoed (args : List String) : Bytes :=
  let (plain, args) := match args with
    | "-n" :: rest => (true, rest)
    | _ => (false, args)
  let text := (Text.joined " " args).toList
  let (bytes, ends) := unescaped (text.length + 1) text
  if plain || ends then bytes else bytes ++ [10]

/-- The integer of a text; a text that is none counts as zero. -/
def integerOf (s : String) : Int := (s.trimAscii.toString.toInt?).getD 0

/-- What a directive prints for an argument, without filling. -/
def directive (c : Char) (arg : Option String) : Bytes :=
  let text := arg.getD ""
  match c with
  | 's' => bytesOf text.toList
  | 'b' => (unescaped (text.length + 1) text.toList).1
  | 'c' => bytesOf (text.toList.take 1)
  | 'd' => bytesOf (toString (integerOf text)).toList
  | 'i' => bytesOf (toString (integerOf text)).toList
  | 'u' => bytesOf (toString (integerOf text)).toList
  | 'x' => bytesOf (Nat.toDigits 16 (integerOf text).toNat)
  | 'o' => bytesOf (Nat.toDigits 8 (integerOf text).toNat)
  | _ => bytesOf ['%', c]

/-- Bytes filled up to some width: with blanks after them, with zeros after the
sign, or with blanks before them. -/
def filled (flags : List Char) (width : Nat) (bytes : Bytes) : Bytes :=
  let missing := width - bytes.length
  if flags.contains '-' then bytes ++ List.replicate missing 32
  else if flags.contains '0' then
    let sign := bytes.takeWhile (· == 45)
    sign ++ List.replicate missing 48 ++ bytes.drop sign.length
  else List.replicate missing 32 ++ bytes

/-- A directive in front of a format: its flags and width, its letter, and what
follows it. -/
def directiveOf (cs : List Char) : (List Char × Nat) × Option Char × List Char :=
  let flags := cs.takeWhile fun c => c == '-' || c == '0'
  let rest := cs.drop flags.length
  let (digits, rest) := Number.spanDigits rest
  let width := Number.digitsValue digits
  match rest with
  | [] => ((flags, width), none, [])
  | c :: after => ((flags, width), some c, after)

/-- One use of a format: what is printed and the arguments that are left. -/
def formatOnce : (fuel : Nat) → List Char → List String → Bytes × List String
  | 0, _, args => ([], args)
  | _, [], args => ([], args)
  | fuel + 1, c :: rest, args =>
    let go (bytes : Bytes) (after : List Char) (left : List String) :=
      let (more, last) := formatOnce fuel after left
      (bytes ++ more, last)
    match c, rest with
    | '%', '%' :: after => go [37] after args
    | '%', after =>
      match directiveOf after with
      | ((flags, width), some d, after) =>
        go (filled flags width (directive d args.head?)) after (args.drop 1)
      | (_, none, after) => go [37] after args
    | '\\', e :: after =>
      match letterEscape? e with
      | some byte => go [byte] after args
      | none =>
        let digits := octalDigits rest
        if digits.isEmpty then go (bytesOf [c]) rest args
        else go [UInt8.ofNat (octalValue digits)] (rest.drop digits.length) args
    | _, _ => go (bytesOf [c]) rest args

def formatted (format : List Char) : (fuel : Nat) → List String → Bytes
  | 0, _ => []
  | fuel + 1, args =>
    let (bytes, left) := formatOnce (format.length + 1) format args
    if left.isEmpty || left.length == args.length then bytes
    else bytes ++ formatted format fuel left

def printed (args : List String) : Bytes :=
  match args with
  | [] => []
  | format :: rest => formatted format.toList (rest.length + 1) rest

end DocLedger.Script
