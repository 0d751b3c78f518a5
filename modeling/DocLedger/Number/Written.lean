import DocLedger.Number.Text
import DocLedger.Text.Blank
import DocLedger.Text.Digit

/-!
# Integers written by people

An integer may be written in the digits of any script, with a sign, with single
underscores between its digits, and with blanks around it.  The separators of
information are no such blanks.
-/

namespace DocLedger.Number

/-- Why a text is no integer. -/
inductive UnwrittenInteger
  | unreadable
  | tooManyDigits (count : Nat)
deriving Repr, DecidableEq

/-- A character of an integer as one of ASCII: a blank as a space, a digit of any
script as one of ASCII. -/
def inAscii (c : Char) : Char :=
  if c.toNat < 127 then c else if Text.isBlank c then ' ' else Text.asciiDigit c

/-- Whether a character of ASCII is blank around an integer. -/
def isIntegerBlank (c : Char) : Bool := c == ' ' || (9 ≤ c.toNat && c.toNat ≤ 13)

/-- The digits of a number with single underscores between them; the underscores
are left out. -/
def groupedDigits? : List Char → Option (List Char)
  | [] => none
  | [c] => if c.isDigit then some [c] else none
  | c :: '_' :: rest => if c.isDigit then (groupedDigits? rest).map (c :: ·) else none
  | c :: d :: rest => if c.isDigit then (groupedDigits? (d :: rest)).map (c :: ·) else none

def writtenInteger (cs : List Char) : Except UnwrittenInteger Int :=
  let body := (((cs.map inAscii).dropWhile isIntegerBlank).reverse.dropWhile isIntegerBlank).reverse
  let (negative, unsigned) := spanSign body
  match groupedDigits? unsigned with
  | none => .error .unreadable
  | some digits =>
    if digitLimit < digits.length then .error (.tooManyDigits digits.length)
    else
      let n := Int.ofNat (digitsValue digits)
      .ok (if negative then -n else n)

end DocLedger.Number
