/-!
# UTF-8 read byte by byte

A small machine reads one byte at a time.  Between two bytes it remembers
the part of a character that it has seen.  A byte that cannot continue the
character shows one replacement character for the whole part seen so far and
is then read afresh.  Since the machine carries all that matters from byte to
byte, reading a text in pieces gives what reading it whole gives.

`Utf8.decodeStrict` reads a whole text and refuses the first ill-formed
sequence instead of replacing it.
-/

namespace DocLedger.Text.Utf8

/-- The character shown for an ill-formed sequence. -/
def replacement : Char := Char.ofNat 0xfffd

/-- A character begun but not finished: the bits read, the number of bytes
read, the number of bytes still missing, and the range of the next byte. -/
structure Begun where
  bits : Nat
  seen : Nat
  missing : Nat
  lowest : Nat
  highest : Nat
deriving Repr, DecidableEq

/-- What the reader remembers between two bytes: nothing, a character begun, or
the first two bytes of a surrogate, which stand for no character.  Those two are
held back until a third byte or the end shows them ill formed. -/
inductive State
  | between
  | within (b : Begun)
  | surrogate
deriving Repr, DecidableEq

/-- What a first byte announces. -/
inductive Lead
  | single (c : Char)
  | begins (b : Begun)
  | illFormed
deriving Repr

/-- The meaning of a byte at the start of a character. -/
def lead (byte : UInt8) : Lead :=
  let n := byte.toNat
  if n < 0x80 then .single (Char.ofNat n)
  else if n < 0xc2 then .illFormed
  else if n < 0xe0 then .begins ⟨n - 0xc0, 1, 1, 0x80, 0xbf⟩
  else if n == 0xe0 then .begins ⟨0, 1, 2, 0xa0, 0xbf⟩
  else if n == 0xed then .begins ⟨0xd, 1, 2, 0x80, 0x9f⟩
  else if n < 0xf0 then .begins ⟨n - 0xe0, 1, 2, 0x80, 0xbf⟩
  else if n == 0xf0 then .begins ⟨0, 1, 3, 0x90, 0xbf⟩
  else if n < 0xf4 then .begins ⟨n - 0xf0, 1, 3, 0x80, 0xbf⟩
  else if n == 0xf4 then .begins ⟨4, 1, 3, 0x80, 0x8f⟩
  else .illFormed

/-- Whether a byte continues the character begun. -/
def Begun.accepts (b : Begun) (byte : UInt8) : Bool :=
  b.lowest ≤ byte.toNat && byte.toNat ≤ b.highest

/-- The bits of the character after one more byte. -/
def Begun.extendedBits (b : Begun) (byte : UInt8) : Nat :=
  b.bits * 64 + byte.toNat % 64

/-- Whether a byte makes a surrogate of the character begun: only the lead of
surrogates has no continuation in the upper half of its range. -/
def Begun.makesSurrogate (b : Begun) (byte : UInt8) : Bool :=
  b.highest == 0x9f && 0xa0 ≤ byte.toNat && byte.toNat ≤ 0xbf

/-- The characters shown when the text ends in the given state. -/
def finish : State → List Char
  | .between => []
  | .within _ => [replacement]
  | .surrogate => [replacement, replacement]

/-- Read a byte at the start of a character. -/
def start (byte : UInt8) : List Char × State :=
  match lead byte with
  | .single c => ([c], .between)
  | .begins b => ([], .within b)
  | .illFormed => ([replacement], .between)

/-- Give up what is remembered and read a byte afresh. -/
def restart (state : State) (byte : UInt8) : List Char × State :=
  let (shown, next) := start byte
  (finish state ++ shown, next)

/-- Read one byte: the characters it completes and what to remember. -/
def push (state : State) (byte : UInt8) : List Char × State :=
  match state with
  | .within b =>
    if b.accepts byte then
      if b.missing ≤ 1 then ([Char.ofNat (b.extendedBits byte)], .between)
      else ([], .within ⟨b.extendedBits byte, b.seen + 1, b.missing - 1, 0x80, 0xbf⟩)
    else if b.makesSurrogate byte then ([], .surrogate)
    else restart state byte
  | _ => restart state byte

def read : State → List UInt8 → List Char × State
  | state, [] => ([], state)
  | state, byte :: bytes =>
    let (shown, next) := push state byte
    let (rest, last) := read next bytes
    (shown ++ rest, last)

/-- Read a whole text, with a replacement for each ill-formed sequence. -/
def decode (bytes : List UInt8) : List Char :=
  let (shown, state) := read .between bytes
  shown ++ finish state

/-- Read a whole text into a string. -/
def decodeString (bytes : List UInt8) : String :=
  String.ofList (decode bytes)

/-- Why a sequence is ill formed. -/
inductive Reason
  | invalidStart
  | invalidContinuation
  | unexpectedEnd
deriving Repr, DecidableEq

def Reason.words : Reason → String
  | .invalidStart => "invalid start byte"
  | .invalidContinuation => "invalid continuation byte"
  | .unexpectedEnd => "unexpected end of data"

/-- An ill-formed sequence: its first byte, where it starts, how many bytes it
spans, and what is wrong with it. -/
structure Malformed where
  first : UInt8
  position : Nat
  length : Nat
  reason : Reason
deriving Repr

/-- A digit of the hexadecimal system, in lower case. -/
def hexDigit (n : Nat) : Char :=
  if n < 10 then Char.ofNat (48 + n) else Char.ofNat (87 + n)

/-- A byte as two hexadecimal digits. -/
def hexByte (byte : UInt8) : String :=
  String.ofList [hexDigit (byte.toNat / 16), hexDigit (byte.toNat % 16)]

/-- The report of an ill-formed sequence. -/
def Malformed.message (m : Malformed) : String :=
  if m.length ≤ 1 then
    "'utf-8' codec can't decode byte 0x" ++ hexByte m.first ++ " in position " ++
      toString m.position ++ ": " ++ m.reason.words
  else
    "'utf-8' codec can't decode bytes in position " ++ toString m.position ++ "-" ++
      toString (m.position + m.length - 1) ++ ": " ++ m.reason.words

/-- Read bytes strictly from a position, given the character begun there and
the first byte of it. -/
def readStrict : Nat → Option Begun → UInt8 → List UInt8 → Except Malformed (List Char)
  | _, none, _, [] => .ok []
  | position, some b, first, [] => .error ⟨first, position, b.seen, .unexpectedEnd⟩
  | position, none, _, byte :: bytes =>
    match lead byte with
    | .single c => (readStrict (position + 1) none byte bytes).map (c :: ·)
    | .begins b => readStrict position (some b) byte bytes
    | .illFormed => .error ⟨byte, position, 1, .invalidStart⟩
  | position, some b, first, byte :: bytes =>
    if b.accepts byte then
      if b.missing ≤ 1 then
        (readStrict (position + b.seen + 1) none byte bytes).map
          (Char.ofNat (b.extendedBits byte) :: ·)
      else
        readStrict position (some ⟨b.extendedBits byte, b.seen + 1, b.missing - 1, 0x80, 0xbf⟩)
          first bytes
    else .error ⟨first, position, b.seen, .invalidContinuation⟩

/-- Read a whole text, refusing the first ill-formed sequence. -/
def decodeStrict (bytes : List UInt8) : Except Malformed String :=
  (readStrict 0 none 0 bytes).map String.ofList

def encode (s : String) : List UInt8 :=
  s.toList.flatMap String.utf8EncodeChar

end DocLedger.Text.Utf8
