import DocLedger.Number.Context

/-!
# Amounts: whole numbers, doubles and decimals

An amount remembers its kind.  Sums of whole amounts are whole; a sum with a
double is a double, and a sum of a whole amount and a decimal is a decimal.
Doubles and decimals are not added to each other.
-/

namespace DocLedger.Number

/-- A whole number, a double or a decimal. -/
inductive Amount
  | whole (n : Int)
  | double (x : Float)
  | decimal (d : Places)
deriving Repr

/-- Why two amounts have no sum. -/
inductive SumFault
  /-- A whole number is too large to become a double. -/
  | tooLarge
  /-- A double and a decimal. -/
  | mixed
  | signal (s : Signal)
deriving Repr, DecidableEq

namespace Amount

def exact : Amount → Exact
  | .whole n => exactInt n
  | .double x => Number.exact x
  | .decimal d => d.exact

/-- The nearest double, if there is a finite one. -/
def toDouble? : Amount → Option Float
  | .whole n => ofInt? n
  | .double x => some x
  | .decimal d => some d.toDouble

/-- The sum of two amounts. -/
def add (a b : Amount) : Except SumFault Amount :=
  match a, b with
  | .whole m, .whole n => .ok (.whole (m + n))
  | .decimal x, .decimal y => ((x.add y).map .decimal).mapError .signal
  | .decimal x, .whole n => ((x.add (.ofInt n)).map .decimal).mapError .signal
  | .whole n, .decimal y => (((Places.ofInt n).add y).map .decimal).mapError .signal
  | .decimal _, .double _ => .error .mixed
  | .double _, .decimal _ => .error .mixed
  | a, b =>
    match a.toDouble?, b.toDouble? with
    | some x, some y => .ok (.double (x + y))
    | _, _ => .error .tooLarge

/-- The amount with the opposite sign. -/
def negate : Amount → Except Signal Amount
  | .whole n => .ok (.whole (-n))
  | .double x => .ok (.double (-x))
  | .decimal d => d.negate.map .decimal

def text : Amount → String
  | .whole n => String.ofList (intDigits n)
  | .double x => String.ofList (Layout.plain.double x)
  | .decimal d => String.ofList d.text

end Amount

end DocLedger.Number
