import DocLedger.Number.Shortest

/-!
# Numbers in decimal text

Whole numbers are written with their digits and a minus sign.  Doubles are
written with the fewest digits that read back, laid out by a `Layout`: which
magnitudes stand without an exponent and how the special values are spelled.
-/

namespace DocLedger.Number

/-- The decimal digits of a whole number. -/
def natDigits (n : Nat) : List Char :=
  Nat.toDigits 10 n

/-- The whole number that decimal digits write. -/
def digitsValue (ds : List Char) : Nat :=
  ds.foldl (fun n c => n * 10 + (c.toNat - '0'.toNat)) 0

/-- The decimal digits at the front of a text, and the rest. -/
def spanDigits (cs : List Char) : List Char × List Char :=
  (cs.takeWhile Char.isDigit, cs.dropWhile Char.isDigit)

/-- A sign at the front of a text, and the rest: whether it is a minus sign. -/
def spanSign : List Char → Bool × List Char
  | '-' :: rest => (true, rest)
  | '+' :: rest => (false, rest)
  | cs => (false, cs)

/-- The decimal text of an integer. -/
def intDigits : Int → List Char
  | .ofNat n => natDigits n
  | .negSucc n => '-' :: natDigits (n + 1)

/-- The most decimal digits of an integer that is turned into text or read
from it. -/
def digitLimit : Nat := 4300

/-- Whether an integer has more digits than the limit. -/
def tooLong (n : Int) : Bool :=
  Nat.pow 10 digitLimit ≤ n.natAbs

/-- How doubles are laid out. -/
structure Layout where
  /-- The least power of ten written without an exponent. -/
  leastPlain : Int
  /-- The least power of ten, above that, written with an exponent. -/
  plainBelow : Int
  /-- The least number of digits of an exponent. -/
  exponentDigits : Nat
  /-- The text of an undefined result. -/
  undefinedText : String
  /-- The text of infinity. -/
  infiniteText : String
deriving Repr

/-- Doubles in messages: plain from 0.0001 to below 10^16. -/
def Layout.plain : Layout := ⟨-4, 16, 2, "nan", "inf"⟩

/-- Doubles in documents: as in messages, with the document names of the
special values. -/
def Layout.document : Layout := ⟨-4, 16, 2, "NaN", "Infinity"⟩

def withoutTrailingZeros (ds : List Char) : List Char :=
  (ds.reverse.dropWhile (· == '0')).reverse

/-- Digits filled with zeros on the left up to a width. -/
def zeroFilled (width : Nat) (ds : List Char) : List Char :=
  List.replicate (width - ds.length) '0' ++ ds

def Layout.decimal (layout : Layout) (d : Decimal) : List Char :=
  let all := natDigits d.digits
  let size : Int := Int.ofNat all.length + d.exponent - 1
  let ds := withoutTrailingZeros all
  if layout.leastPlain ≤ size && size < layout.plainBelow then
    if size < 0 then '0' :: '.' :: List.replicate (-size - 1).toNat '0' ++ ds
    else
      let whole := size.toNat + 1
      if ds.length ≤ whole then ds ++ List.replicate (whole - ds.length) '0' ++ ['.', '0']
      else ds.take whole ++ '.' :: ds.drop whole
  else
    let exponent := zeroFilled layout.exponentDigits (natDigits size.natAbs)
    let sign := if size < 0 then '-' else '+'
    match ds with
    | [] => ['0']
    | [c] => c :: 'e' :: sign :: exponent
    | c :: rest => c :: '.' :: rest ++ 'e' :: sign :: exponent

def Layout.double (layout : Layout) (x : Float) : List Char :=
  match parts x with
  | .notANumber => layout.undefinedText.toList
  | .infinite negative =>
    if negative then '-' :: layout.infiniteText.toList else layout.infiniteText.toList
  | .finite negative mantissa exponent =>
    let body := if mantissa == 0 then ['0', '.', '0'] else layout.decimal (shortest mantissa exponent)
    if negative then '-' :: body else body

/-- The quotient of two whole numbers rounded to the nearest whole number, a
half going to the even neighbour. -/
def roundDiv (num den : Nat) : Nat :=
  let below := num / den
  let twice := 2 * (num % den)
  if twice < den || (twice == den && below % 2 == 0) then below else below + 1

/-- A double with one digit after the point. -/
def oneDecimal (x : Float) : List Char :=
  match parts x with
  | .notANumber => "nan".toList
  | .infinite negative => if negative then "-inf".toList else "inf".toList
  | .finite negative mantissa exponent =>
    let tenths := roundDiv (mantissa * Nat.pow 2 exponent.toNat * 10) (Nat.pow 2 (-exponent).toNat)
    let body := natDigits (tenths / 10) ++ '.' :: natDigits (tenths % 10)
    if negative then '-' :: body else body

end DocLedger.Number
