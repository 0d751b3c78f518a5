import DocLedger.Number.Text

/-!
# Doubles with a given number of digits

A magnitude is a fraction of whole numbers.  It is written with a fixed number
of digits behind the point, with a fixed number of digits and a power of ten, or
in the shorter of the two forms.  The last digit is rounded, a half to the even
neighbour.
-/

namespace DocLedger.Number

/-- The magnitude of a finite double as a numerator and a denominator. -/
def magnitudeOf (mantissa : Nat) (exponent : Int) : Nat × Nat :=
  (mantissa * Nat.pow 2 exponent.toNat, Nat.pow 2 (-exponent).toNat)

/-- A magnitude times a power of ten, rounded to a whole number. -/
def scaled (num den : Nat) (power : Int) : Nat :=
  roundDiv (num * Nat.pow 10 power.toNat) (den * Nat.pow 10 (-power).toNat)

/-- The power of ten of the first digit of a magnitude that is not zero. -/
def leadingPower (num den : Nat) : Int :=
  let power := Int.ofNat (natDigits num).length - Int.ofNat (natDigits den).length
  if num * Nat.pow 10 (-power).toNat < den * Nat.pow 10 power.toNat then power - 1 else power

/-- The first digits of a magnitude, `places` behind the first, and the power of
ten of the first. -/
def leadingDigits (num den places : Nat) : List Char × Int :=
  if num == 0 then (List.replicate (places + 1) '0', 0)
  else
    let power := leadingPower num den
    let ds := natDigits (scaled num den (Int.ofNat places - power))
    if ds.length == places + 1 then (ds, power) else (ds.take (places + 1), power + 1)

/-- Digits with a point behind the first of them, which stands alone only when
asked for. -/
def pointed (whole : Nat) (point : Bool) (ds : List Char) : List Char :=
  if ds.length ≤ whole then if point then ds ++ ['.'] else ds
  else ds.take whole ++ '.' :: ds.drop whole

def powerOfTen (power : Int) : List Char :=
  'e' :: (if power < 0 then '-' else '+') :: zeroFilled 2 (natDigits power.natAbs)

/-- A magnitude with a number of digits behind the point. -/
def fixedDigits (num den places : Nat) (point : Bool) : List Char :=
  let ds := zeroFilled (places + 1) (natDigits (scaled num den (Int.ofNat places)))
  pointed (ds.length - places) point ds

/-- A magnitude with one digit in front of the point, a number of digits behind
it, and a power of ten. -/
def scientificDigits (num den places : Nat) (point : Bool) : List Char :=
  let (ds, power) := leadingDigits num den places
  pointed 1 point ds ++ powerOfTen power

/-- A magnitude with a number of digits in all: with a power of ten where that
is small or has more digits in front of the point.  Zeros at the end are left
out unless the point is asked for. -/
def generalDigits (num den count : Nat) (point : Bool) : List Char :=
  let count := max count 1
  let (ds, power) := leadingDigits num den (count - 1)
  let tidy (ds : List Char) : List Char := if point then ds else withoutTrailingZeros ds
  if power < -4 || Int.ofNat count ≤ power then pointed 1 point (tidy ds) ++ powerOfTen power
  else if power < 0 then
    let ds := tidy ds
    if num == 0 then ds else '0' :: '.' :: List.replicate (-power - 1).toNat '0' ++ ds
  else
    let whole := power.toNat + 1
    let kept := tidy (ds.drop whole)
    pointed whole point (ds.take whole ++ kept)

end DocLedger.Number
