import DocLedger.Value.Literal

/-!
# Comparing dynamic values

Numbers are compared by value, texts by their characters, lists and tuples by
their first items that differ, sets by inclusion, and moments by time.  A
comparison of values of other kinds is a fault that names the comparison and
both kinds; so is one with a decimal that is no number.
-/

namespace DocLedger.Value

/-- The comparisons that settings and amounts are put to. -/
inductive Comparison
  | less
  | atMost
  | greater
deriving Repr, DecidableEq

namespace Comparison

def sign : Comparison → String
  | less => "<"
  | atMost => "<="
  | greater => ">"

/-- What a comparison says of two exact numbers. -/
def holds : Comparison → Number.Exact → Number.Exact → Bool
  | less, a, b => a.lt b
  | atMost, a, b => a.le b
  | greater, a, b => b.lt a

/-- What a comparison says, given whether the first value comes before the
second and whether it comes after it. -/
def decides (c : Comparison) (before after : Bool) : Bool :=
  match c with
  | less => before
  | atMost => !after
  | greater => after

end Comparison

/-- Whether some numbers come before others: at the first place at which they
differ, or by being fewer. -/
def earlier (as bs : List Nat) : Bool := decide (as < bs)

def compareSets (c : Comparison) (as bs : List Value) : Bool :=
  let within := subset as bs
  let around := subset bs as
  match c with
  | .less => within && !around
  | .atMost => within
  | .greater => around && !within

/-- The fault of two values that do not compare. -/
def incomparable (c : Comparison) (a b : Value) : Fault :=
  .notComparable c.sign a.qualifiedTypeName b.qualifiedTypeName

/-- Compare two numbers of which one is a decimal that is no number, or two
numbers that have a place in order. -/
def compareNumbers (c : Comparison) (a b : Value) : Except Fault Bool :=
  match a.number?, b.number? with
  | some x, some y =>
    if (a.isDecimal || b.isDecimal) && (x == .undefined || y == .undefined) then
      .error (.signaled .invalid)
    else .ok (c.holds x y)
  | _, _ => .error (incomparable c a b)

mutual

def compare (c : Comparison) : Value → Value → Except Fault Bool
  | text a, text b => .ok (c.decides (decide (a < b)) (decide (b < a)))
  | bytes as, bytes bs =>
    let as := as.map UInt8.toNat
    let bs := bs.map UInt8.toNat
    .ok (c.decides (earlier as bs) (earlier bs as))
  | list as, list bs => compareItems c as bs
  | tuple as, tuple bs => compareItems c as bs
  | set as, set bs => .ok (compareSets c as bs)
  | moment a, moment b => .ok (c.decides (a.before b) (b.before a))
  | a, b => compareNumbers c a b

/-- Compare two lists of items by the first that differ. -/
def compareItems (c : Comparison) : List Value → List Value → Except Fault Bool
  | [], [] => .ok (c.decides false false)
  | [], _ :: _ => .ok (c.decides true false)
  | _ :: _, [] => .ok (c.decides false true)
  | a :: as, b :: bs => if same a b then compareItems c as bs else compare c a b

end

def compareZero (c : Comparison) (a : Value) : Except Fault Bool :=
  compare c a (.int 0)

/-- An integer compares with zero as it does by itself. -/
theorem compareZero_int (c : Comparison) (n : Int) :
    compareZero c (.int n) = .ok (match c with
      | .less => decide (n < 0)
      | .atMost => decide (n ≤ 0)
      | .greater => decide (0 < n)) := by
  have hcompare : compareZero c (.int n) =
      .ok (c.holds (Number.exactInt n) (Number.exactInt 0)) := rfl
  rw [hcompare, Except.ok.injEq, Bool.eq_iff_iff]
  cases c with
  | atMost => simp [Comparison.holds, Number.exactInt, Number.Exact.le]
  | less | greater =>
      simp [Comparison.holds, Number.exactInt, Number.Exact.lt, Number.Exact.le]
      omega

end DocLedger.Value
