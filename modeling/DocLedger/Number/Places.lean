import DocLedger.Number.Text
import DocLedger.Text.Blank
import DocLedger.Text.Digit

/-!
# Decimals with places

A decimal keeps the digits with which it was written, so that `1.50` and `1.5`
have the same value and different texts.  Beside the numbers there are the two
infinities and the decimals that are no number, which may carry a whole number
and may be signaling: then they are refused wherever they are computed with.
-/

namespace DocLedger.Number

/-- A decimal: whole digits times a power of ten, an infinity, or no number. -/
inductive Places
  | number (negative : Bool) (digits : Nat) (exponent : Int)
  | infinite (negative : Bool)
  | undefined (negative signaling : Bool) (payload : Nat)
deriving Repr, DecidableEq

namespace Places

/-- Whether a decimal differs from zero. -/
def truthy : Places → Bool
  | number _ digits _ => digits != 0
  | _ => true

def isSignaling : Places → Bool
  | undefined _ signaling _ => signaling
  | _ => false

/-- The greatest power of ten that is worked out.  No number that is written
with all its digits is as large as that. -/
def greatestWorkedOut : Int := 100000

/-- The exact value of a decimal.  A power of ten that is too large to be worked
out is replaced by the largest one that is not, which compares alike with every
number in reach. -/
def exact : Places → Exact
  | number negative digits exponent =>
    if digits == 0 then .fraction 0 1
    else
      let exponent := max (-greatestWorkedOut) (min exponent greatestWorkedOut)
      let magnitude : Int := Int.ofNat (digits * Nat.pow 10 exponent.toNat)
      .fraction (if negative then -magnitude else magnitude) (Nat.pow 10 (-exponent).toNat)
  | infinite negative => .infinite negative
  | undefined .. => .undefined

/-- The text of the digits of a decimal: plain while the first digit is not too
far behind the point, with an exponent otherwise. -/
def magnitude (digits : Nat) (exponent : Int) : List Char :=
  let ds := natDigits digits
  let size := Int.ofNat ds.length + exponent
  if exponent ≤ 0 && -6 < size then
    let places := (-exponent).toNat
    if places == 0 then ds
    else
      let filled := zeroFilled (places + 1) ds
      filled.take (filled.length - places) ++ '.' :: filled.drop (filled.length - places)
  else
    let shown := size - 1
    let sign := if shown < 0 then '-' else '+'
    let tail := 'E' :: sign :: natDigits shown.natAbs
    match ds with
    | c :: d :: rest => c :: '.' :: d :: rest ++ tail
    | _ => ds ++ tail

/-- A text with a minus sign, if it is that of a negative decimal. -/
def signed (negative : Bool) (cs : List Char) : List Char := if negative then '-' :: cs else cs

def infinityName : List Char := "Infinity".toList

def undefinedName (signaling : Bool) : List Char :=
  if signaling then "sNaN".toList else "NaN".toList

def text : Places → List Char
  | number negative digits exponent => signed negative (magnitude digits exponent)
  | infinite negative => signed negative infinityName
  | undefined negative signaling payload =>
    signed negative (undefinedName signaling ++ if payload == 0 then [] else natDigits payload)

/-- A decimal that is not signaling, with some digits behind the point.  The
last digit is rounded, a half to the even neighbour. -/
def fixed (places : Nat) : Places → List Char
  | number negative digits exponent =>
    let down := (-(Int.ofNat places + exponent)).toNat
    let rounded :=
      if (natDigits digits).length + 1 < down then 0
      else roundDiv (digits * Nat.pow 10 (Int.ofNat places + exponent).toNat) (Nat.pow 10 down)
    signed negative (magnitude rounded (-Int.ofNat places))
  | d => d.text

/-- The whole number behind the name of a decimal that is no number. -/
def payload? (cs : List Char) : Option Nat :=
  if cs.all Char.isDigit then some (digitsValue cs) else none

/-- The power of ten behind the digits of a decimal. -/
def power? : List Char → Option Int
  | [] => some 0
  | 'e' :: cs =>
    let (down, ds) := spanSign cs
    if ds.isEmpty || !ds.all Char.isDigit then none
    else some (if down then -Int.ofNat (digitsValue ds) else Int.ofNat (digitsValue ds))
  | _ => none

/-- The number that digits with a point and a power of ten write. -/
def number? (negative : Bool) (cs : List Char) : Option Places :=
  let (before, rest) := spanDigits cs
  let (after, rest) := match rest with
    | '.' :: more => spanDigits more
    | _ => ([], rest)
  if before.isEmpty && after.isEmpty then none
  else (power? rest).map fun exponent =>
    number negative (digitsValue (before ++ after)) (exponent - Int.ofNat after.length)

/-- The decimal that a text writes, in digits of any script or by its name, in
letters of either case. -/
def ofText? (cs : List Char) : Option Places :=
  let (negative, body) := spanSign (((Text.trim cs).filter (· != '_')).map Text.asciiDigit)
  let lower := body.map Char.toLower
  if lower == "inf".toList || lower == "infinity".toList then some (infinite negative)
  else if "nan".toList.isPrefixOf lower then
    (payload? (lower.drop 3)).map (undefined negative false)
  else if "snan".toList.isPrefixOf lower then
    (payload? (lower.drop 4)).map (undefined negative true)
  else number? negative lower

def toDouble : Places → Float
  | number negative digits exponent => ofDecimal negative digits exponent
  | infinite negative => if negative then -1.0 / 0.0 else 1.0 / 0.0
  | undefined .. => 0.0 / 0.0

end Places

end DocLedger.Number
