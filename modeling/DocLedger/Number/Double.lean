/-!
# Doubles as exact numbers

A finite double is a sign, a whole mantissa and a power of two.  Taking a
double apart in this way lets the library print, round and compare doubles in
exact whole-number arithmetic.
-/

namespace DocLedger.Number

/-- A double taken apart: its value, when finite, is the mantissa times two to
the exponent. -/
inductive Parts
  | notANumber
  | infinite (negative : Bool)
  | finite (negative : Bool) (mantissa : Nat) (exponent : Int)
deriving Repr, DecidableEq

/-- The parts of a double, read off its sixty-four bits. -/
def parts (x : Float) : Parts :=
  let bits := x.toBits.toNat
  let negative := decide (Nat.pow 2 63 ≤ bits)
  let biased := bits / Nat.pow 2 52 % 2048
  let fraction := bits % Nat.pow 2 52
  if biased == 2047 then
    if fraction == 0 then .infinite negative else .notANumber
  else if biased == 0 then .finite negative fraction (-1074)
  else .finite negative (fraction + Nat.pow 2 52) (Int.ofNat biased - 1075)

/-- Whether a double is neither infinite nor the mark of an undefined result. -/
def isFinite (x : Float) : Bool :=
  match parts x with
  | .finite .. => true
  | _ => false

/-- Whether a double is the mark of an undefined result. -/
def isNaN (x : Float) : Bool :=
  match parts x with
  | .notANumber => true
  | _ => false

/-- A number on the extended line: a fraction with a positive denominator, one
of the two infinities, or no number at all. -/
inductive Exact
  | undefined
  | infinite (negative : Bool)
  | fraction (numerator : Int) (denominator : Nat)
deriving Repr, DecidableEq

def exact (x : Float) : Exact :=
  match parts x with
  | .notANumber => .undefined
  | .infinite negative => .infinite negative
  | .finite negative mantissa exponent =>
    let magnitude : Int := Int.ofNat (mantissa * Nat.pow 2 exponent.toNat)
    .fraction (if negative then -magnitude else magnitude) (Nat.pow 2 (-exponent).toNat)

/-- The exact value of a whole number. -/
def exactInt (n : Int) : Exact :=
  .fraction n 1

namespace Exact

/-- Whether one number is at most another; nothing is comparable to an
undefined result. -/
def le : Exact → Exact → Bool
  | .undefined, _ => false
  | _, .undefined => false
  | .infinite true, _ => true
  | _, .infinite false => true
  | .infinite false, _ => false
  | _, .infinite true => false
  | .fraction a b, .fraction c d => decide (a * Int.ofNat d ≤ c * Int.ofNat b)

/-- Whether two numbers are equal; an undefined result equals nothing. -/
def eq (a b : Exact) : Bool :=
  le a b && le b a

/-- Whether one number is less than another. -/
def lt (a b : Exact) : Bool :=
  le a b && !le b a

end Exact

/-- The double nearest to a decimal: whole digits times a power of ten. -/
def ofDecimal (negative : Bool) (digits : Nat) (exponent : Int) : Float :=
  let magnitude : Float :=
    if digits == 0 then 0.0
    else
      let size := Int.ofNat (Nat.log2 digits * 30103 / 100000) + exponent
      if 400 < size then 1.0 / 0.0
      else if size < -400 then 0.0
      else if exponent < 0 then Float.ofScientific digits true (-exponent).toNat
      else Float.ofScientific digits false exponent.toNat
  if negative then -magnitude else magnitude

/-- The double nearest to a whole number, if there is a finite one. -/
def ofInt? (n : Int) : Option Float :=
  let x := ofDecimal (decide (n < 0)) n.natAbs 0
  if isFinite x then some x else none

end DocLedger.Number
