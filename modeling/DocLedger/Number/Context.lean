import DocLedger.Number.Places

/-!
# Computing with decimals

Sums of decimals have at most twenty-eight digits and a power of ten within
bounds; a longer result is rounded, a half to the even digit.  A result that no
decimal stands for is signaled instead.
-/

namespace DocLedger.Number

/-- Why a computation with decimals has no result. -/
inductive Signal
  /-- A signaling decimal, or infinities of different signs. -/
  | invalid
  /-- A text that writes no decimal. -/
  | unreadable
  | overflow
deriving Repr, DecidableEq

namespace Places

/-- The most digits of a result. -/
def precision : Nat := 28

/-- The greatest power of ten of the first digit of a result. -/
def greatestPower : Int := 999999

/-- The greatest power of ten of the last digit of a result with all its
digits. -/
def greatestFull : Int := greatestPower - Int.ofNat precision + 1

/-- The least power of ten of the last digit of a result. -/
def leastPower : Int := -greatestPower - Int.ofNat precision + 1

/-- Digits without their last ones, rounded to the nearest, a half to the even
neighbour. -/
def withoutLast (drop : Nat) (digits : Nat) : Nat :=
  if (natDigits digits).length + 1 < drop then 0 else roundDiv digits (Nat.pow 10 drop)

/-- A decimal as a result: with at most as many digits as results have. -/
def rounded : Places → Except Signal Places
  | infinite negative => .ok (infinite negative)
  | undefined negative signaling payload =>
    .ok (undefined negative signaling (payload % Nat.pow 10 precision))
  | number negative digits exponent =>
    if digits == 0 then .ok (number negative 0 (min (max exponent leastPower) greatestPower))
    else
      let full := Int.ofNat (natDigits digits).length + exponent - Int.ofNat precision
      let least := max full leastPower
      if greatestFull < full then .error .overflow
      else if least ≤ exponent then .ok (number negative digits exponent)
      else
        let kept := withoutLast (least - exponent).toNat digits
        let (kept, least) :=
          if Nat.pow 10 precision ≤ kept then (kept / 10, least + 1) else (kept, least)
        if greatestFull < least then .error .overflow else .ok (number negative kept least)

def signedDigits (negative : Bool) (digits : Nat) : Int :=
  if negative then -Int.ofNat digits else Int.ofNat digits

/-- The sum of two numbers that are not zero, the first of which has the greater
power of ten.  A second number too small to show is replaced by one that has the
same effect on the rounding. -/
def plus (negative : Bool) (digits : Nat) (exponent : Int)
    (negative' : Bool) (digits' : Nat) (exponent' : Int) : Except Signal Places :=
  let size := Int.ofNat (natDigits digits).length
  let size' := Int.ofNat (natDigits digits').length
  let tiny := exponent + min (-1) (size - Int.ofNat precision - 2)
  let (small, power) := if size' + exponent' - 1 < tiny then (1, tiny) else (digits', exponent')
  let sum := signedDigits negative (digits * Nat.pow 10 (exponent - power).toNat) +
    signedDigits negative' small
  if sum == 0 then rounded (number false 0 exponent')
  else rounded (number (decide (sum < 0)) sum.natAbs power)

/-- The sum of zero, with its power of ten, and a number. -/
def plusZero (exponent : Int) (negative : Bool) (digits : Nat) (exponent' : Int) :
    Except Signal Places :=
  let power := max (min exponent exponent') (exponent' - Int.ofNat precision - 1)
  rounded (number negative (digits * Nat.pow 10 (exponent' - power).toNat) power)

/-- The sum of two decimals. -/
def add (a b : Places) : Except Signal Places :=
  if a.isSignaling || b.isSignaling then .error .invalid
  else
    match a, b with
    | undefined .., _ => a.rounded
    | _, undefined .. => b.rounded
    | infinite s, infinite s' => if s == s' then .ok a else .error .invalid
    | infinite _, _ => .ok a
    | _, infinite _ => .ok b
    | number s m e, number s' m' e' =>
      if m == 0 && m' == 0 then rounded (number (s && s') 0 (min e e'))
      else if m == 0 then plusZero e s' m' e'
      else if m' == 0 then plusZero e' s m e
      else if e' ≤ e then plus s m e s' m' e'
      else plus s' m' e' s m e

/-- A decimal with the opposite sign; zero becomes positive. -/
def negate (a : Places) : Except Signal Places :=
  if a.isSignaling then .error .invalid
  else
    match a with
    | number s m e => rounded (number (!s && m != 0) m e)
    | infinite s => .ok (infinite (!s))
    | undefined .. => a.rounded

/-- The decimal of a whole number. -/
def ofInt (n : Int) : Places := number (decide (n < 0)) n.natAbs 0

end Places

end DocLedger.Number
