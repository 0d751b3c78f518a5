import DocLedger.Metrics.Series

/-!
# Counters, gauges and histograms

A counter only grows, a gauge goes up and down, and a histogram counts its
observations below each of its bounds.  An update is a function from the old
state to the new one; an update at fault says so and leaves what it has done so
far.
-/

namespace DocLedger.Metrics

open Number (Amount)

abbrev Sums := Table Amount

/-- The amount of a series; one that has not been used is zero. -/
def Sums.amount (t : Sums) (key : Key) : Amount :=
  (t.get? key).getD (.whole 0)

def Sums.add (t : Sums) (key : Key) (v : Value) : Except Fault Sums :=
  (addValue "+" (t.amount key) v).map fun sum => t.set key sum

def Sums.samples (about : Description) (t : Sums) : List Sample :=
  t.map fun (key, amount) => ⟨about.name, amount, about.labelled key⟩

/-- A metric that only grows. -/
structure Counter where
  about : Description
  sums : Sums
deriving Repr

namespace Counter

/-- Add to a series; a negative amount is refused. -/
def inc (c : Counter) (v : Value) (given : Given) : Except Fault Counter := do
  if ← Value.compareZero .less v then throw .decreasedCounter
  return { c with sums := ← c.sums.add (← c.about.key given) v }

def get (c : Counter) (given : Given) : Except Fault Amount :=
  (c.about.key given).map c.sums.amount

def collect (c : Counter) : List Sample := c.sums.samples c.about

end Counter

/-- A metric that goes up and down. -/
structure Gauge where
  about : Description
  sums : Sums
deriving Repr

namespace Gauge

def inc (g : Gauge) (v : Value) (given : Given) : Except Fault Gauge := do
  return { g with sums := ← g.sums.add (← g.about.key given) v }

def dec (g : Gauge) (v : Value) (given : Given) : Except Fault Gauge := do
  g.inc (← negated v) given

def get (g : Gauge) (given : Given) : Except Fault Amount :=
  (g.about.key given).map g.sums.amount

def collect (g : Gauge) : List Sample := g.sums.samples g.about

end Gauge

abbrev Buckets := List (Value × Nat)

/-- The observations of one series: how many, their sum, and how many are at
most each of the distinct bounds. -/
structure Observations where
  count : Nat
  sum : Amount
  buckets : Buckets
deriving Repr

/-- The distinct bounds among some, each at its first place. -/
def distinctBounds (bounds : List Value) : List Value :=
  bounds.foldl (fun done b => if done.any (·.same b) then done else done ++ [b]) []

def Observations.none (bounds : List Value) : Observations :=
  ⟨0, .double 0.0, (distinctBounds bounds).map fun b => (b, 0)⟩

/-- Count an observation in the bucket of a bound. -/
def countIn (bound : Value) : Buckets → Buckets
  | [] => []
  | (b, n) :: rest => if b.same bound then (b, n + 1) :: rest else (b, n) :: countIn bound rest

/-- Count an observation in the bucket of each bound that it does not exceed.  A
bound that it does not compare with is at fault, and what has been counted
before it stays. -/
def countBelow (v : Value) : List Value → Buckets → Option Fault × Buckets
  | [], buckets => (Option.none, buckets)
  | bound :: rest, buckets =>
    match Value.compare .atMost v bound with
    | .error fault => (some fault, buckets)
    | .ok within => countBelow v rest (if within then countIn bound buckets else buckets)

/-- A metric that counts observations by size. -/
structure Histogram where
  about : Description
  bounds : List Value
  series : Table Observations
deriving Repr

/-- The bounds of a histogram for which none are given. -/
def standardBounds : List Value :=
  [.float 0.01, .float 0.05, .float 0.1, .float 0.25, .float 0.5, .float 1.0, .float 2.5,
    .float 5.0, .float 10.0, .float (1.0 / 0.0)]

namespace Histogram

/-- The observations of a series, if there are any. -/
def observations (h : Histogram) (key : Key) : Observations :=
  (h.series.get? key).getD (Observations.none h.bounds)

def put (h : Histogram) (key : Key) (o : Observations) : Histogram :=
  { h with series := h.series.set key o }

/-- Observe a value.  An observation that is no number is counted, and then the
sum is at fault. -/
def observe (h : Histogram) (v : Value) (given : Given) : Option Fault × Histogram :=
  match h.about.key given, Value.itemFault? h.bounds with
  | .error fault, _ => (some fault, h)
  | .ok _, some fault => (some fault, h)
  | .ok key, Option.none =>
    let before := h.observations key
    let counted := { before with count := before.count + 1 }
    match addValue "+=" before.sum v with
    | .error fault => (some fault, h.put key counted)
    | .ok sum =>
      let (fault, buckets) := countBelow v h.bounds before.buckets
      (fault, h.put key { counted with sum := sum, buckets := buckets })

def count (h : Histogram) (given : Given) : Except Fault Nat := do
  match h.series.get? (← h.about.key given) with
  | some o => return o.count
  | Option.none => return 0

/-- The samples of a histogram: of each series its sum, its count, and its
buckets. -/
def collect (h : Histogram) : List Sample :=
  h.series.flatMap fun (key, o) =>
    let labels := h.about.labelled key
    [⟨h.about.name ++ "_sum", o.sum, labels⟩, ⟨h.about.name ++ "_count", .whole o.count, labels⟩] ++
      o.buckets.map fun (bound, n) =>
        ⟨h.about.name ++ "_bucket", .whole n, setLabel "le" bound.plain labels⟩

end Histogram

end DocLedger.Metrics
