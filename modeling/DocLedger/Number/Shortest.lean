import DocLedger.Number.Double

/-!
# The fewest digits that read back

Among the decimals that round to a given positive double, the shortest is the
one with the fewest digits; of several with the same number of digits it is
the nearest to the double.  The search tries grids of one, two, … seventeen
digits and looks, on each grid, at the two neighbours of the value.
-/

namespace DocLedger.Number

/-- Whole digits times a power of ten. -/
structure Decimal where
  digits : Nat
  exponent : Int
deriving Repr, DecidableEq

/-- Whether ten to the given power is at most a fraction. -/
def powerAtMost (power : Int) (num den : Nat) : Bool :=
  Nat.pow 10 power.toNat * den ≤ num * Nat.pow 10 (-power).toNat

/-- The greatest power of ten that is at most a positive fraction. -/
def magnitude (num den : Nat) : Int :=
  let guess := (Int.ofNat (Nat.log2 num) - Int.ofNat (Nat.log2 den)) * 30103 / 100000
  match [guess + 2, guess + 1, guess, guess - 1].find? (powerAtMost · num den) with
  | some power => power
  | none => guess - 2

/-- The reals that round to a double, in quarters of its last place: from
`low` to `high` around `value`, all times two to `exponent`. -/
structure Rounding where
  low : Nat
  value : Nat
  high : Nat
  exponent : Int
  closed : Bool
deriving Repr

/-- The interval of the reals that round to a double. -/
def Rounding.around (mantissa : Nat) (exponent : Int) : Rounding where
  low := 4 * mantissa - (if mantissa == Nat.pow 2 52 && decide (-1074 < exponent) then 1 else 2)
  value := 4 * mantissa
  high := 4 * mantissa + 2
  exponent := exponent - 2
  closed := mantissa % 2 == 0

/-- The nearer to the value of the two neighbours on the grid of multiples of
ten to `power`, if one of them rounds to the double. -/
def Rounding.onGrid? (r : Rounding) (power : Int) : Option Decimal :=
  let scale := Nat.pow 2 r.exponent.toNat * Nat.pow 10 (-power).toNat
  let unit := Nat.pow 10 power.toNat * Nat.pow 2 (-r.exponent).toNat
  let low := r.low * scale
  let value := r.value * scale
  let high := r.high * scale
  let below := value / unit
  let within (t : Nat) : Bool :=
    if r.closed then low ≤ t * unit && t * unit ≤ high else low < t * unit && t * unit < high
  match within below, within (below + 1) with
  | true, true =>
    let down := value - below * unit
    let up := (below + 1) * unit - value
    if down < up || (down == up && below % 2 == 0) then some ⟨below, power⟩
    else some ⟨below + 1, power⟩
  | true, false => some ⟨below, power⟩
  | false, true => some ⟨below + 1, power⟩
  | false, false => none

/-- The numbers of digits tried, fewest first. -/
def digitCounts : List Nat :=
  (List.range 17).map (· + 1)

/-- The shortest decimal that rounds to a positive double. -/
def shortest (mantissa : Nat) (exponent : Int) : Decimal :=
  let r := Rounding.around mantissa exponent
  let size := magnitude (mantissa * Nat.pow 2 exponent.toNat) (Nat.pow 2 (-exponent).toNat)
  match digitCounts.findSome? (fun count => r.onGrid? (size + 1 - Int.ofNat count)) with
  | some d => d
  | none => ⟨mantissa, 0⟩

end DocLedger.Number
