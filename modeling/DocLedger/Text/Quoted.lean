import DocLedger.Number.Text
import DocLedger.Text.Printable
import DocLedger.Text.Utf8

/-!
# Texts and bytes between quotes

Messages show a text between quotes.  The single quote is the delimiter unless
the text holds single quotes and no double ones.  A backslash and the
delimiter are escaped by a backslash, the three usual line controls by a
letter, and every other character that does not print by its number.
-/

namespace DocLedger.Text.Quoted

def single : Char := Char.ofNat 39

def double : Char := Char.ofNat 34

def backslash : Char := Char.ofNat 92

/-- The delimiter for a text, given whether it holds each kind of quote. -/
def delimiter (hasSingle hasDouble : Bool) : Char :=
  if hasSingle && !hasDouble then double else single

/-- A number in hexadecimal digits, at least `width` of them. -/
def hex (width n : Nat) : List Char :=
  Number.zeroFilled width (Nat.toDigits 16 n)

def numbered (c : Char) : List Char :=
  if c.toNat < 0x100 then backslash :: 'x' :: hex 2 c.toNat
  else if c.toNat < 0x10000 then backslash :: 'u' :: hex 4 c.toNat
  else backslash :: 'U' :: hex 8 c.toNat

/-- A character of a text in ASCII alone, others by their number. -/
def escaped (c : Char) : List Char :=
  if c.toNat < 128 then [c] else numbered c

/-- One character of a text between quotes. -/
def character (mark c : Char) : List Char :=
  if c == mark || c == backslash then [backslash, c]
  else if c.toNat == 9 then [backslash, 't']
  else if c.toNat == 10 then [backslash, 'n']
  else if c.toNat == 13 then [backslash, 'r']
  else if isPrintable c then [c]
  else numbered c

def text (cs : List Char) : List Char :=
  let mark := delimiter (cs.contains single) (cs.contains double)
  mark :: cs.flatMap (character mark) ++ [mark]

/-- One byte of a byte string between quotes; bytes outside printable ASCII go
by their number. -/
def byte (mark : Char) (b : UInt8) : List Char :=
  if b.toNat < 127 then character mark (Char.ofNat b.toNat)
  else backslash :: 'x' :: hex 2 b.toNat

/-- A byte string between quotes, marked by a letter in front. -/
def bytes (bs : List UInt8) : List Char :=
  let mark := delimiter (bs.contains 39) (bs.contains 34)
  'b' :: mark :: bs.flatMap (byte mark) ++ [mark]

def string (s : String) : String :=
  String.ofList (text s.toList)

end DocLedger.Text.Quoted
