import DocLedger.Metrics.Instrument

/-!
# The registry of metrics

A registry holds metrics by full name in the order of their registration.
Registering a name again gives the metric that has it.  The exposition writes
each sample on a line of its own.
-/

namespace DocLedger.Metrics

open Number (Amount)

/-- A metric of any kind. -/
inductive Metric
  | counter (c : Counter)
  | gauge (g : Gauge)
  | histogram (h : Histogram)
deriving Repr

namespace Metric

def kindName : Metric → String
  | counter _ => "Counter"
  | gauge _ => "Gauge"
  | histogram _ => "Histogram"

def about : Metric → Description
  | counter c => c.about
  | gauge g => g.about
  | histogram h => h.about

def collect : Metric → List Sample
  | counter c => c.collect
  | gauge g => g.collect
  | histogram h => h.collect

/-- The fault of a method that a metric's kind does not have. -/
def noMethod (m : Metric) (method : String) : Fault :=
  .noMethod m.kindName method

def inc (m : Metric) (v : Value) (given : Given) : Option Fault × Metric :=
  match m with
  | counter c =>
    match c.inc v given with
    | .ok c' => (none, counter c')
    | .error fault => (some fault, m)
  | gauge g =>
    match g.inc v given with
    | .ok g' => (none, gauge g')
    | .error fault => (some fault, m)
  | histogram _ => (some (m.noMethod "inc"), m)

def dec (m : Metric) (v : Value) (given : Given) : Option Fault × Metric :=
  match m with
  | gauge g =>
    match g.dec v given with
    | .ok g' => (none, gauge g')
    | .error fault => (some fault, m)
  | _ => (some (m.noMethod "dec"), m)

def observe (m : Metric) (v : Value) (given : Given) : Option Fault × Metric :=
  match m with
  | histogram h =>
    let (fault, h') := h.observe v given
    (fault, histogram h')
  | _ => (some (m.noMethod "observe"), m)

def get (m : Metric) (given : Given) : Except Fault Amount :=
  match m with
  | counter c => c.get given
  | gauge g => g.get given
  | histogram _ => .error (m.noMethod "get")

def count (m : Metric) (given : Given) : Except Fault Nat :=
  match m with
  | histogram h => h.count given
  | _ => .error (m.noMethod "count")

end Metric

def newCounter (name help : String) (labels : List String) : Metric :=
  .counter ⟨⟨name, help, labels⟩, []⟩

def newGauge (name help : String) (labels : List String) : Metric :=
  .gauge ⟨⟨name, help, labels⟩, []⟩

/-- A histogram without series; without bounds it has the standard ones. -/
def newHistogram (name help : String) (labels : List String) (bounds : List Value) : Metric :=
  .histogram ⟨⟨name, help, labels⟩, if bounds.isEmpty then standardBounds else bounds, []⟩

/-- Metrics by full name, with the text that starts each name. -/
structure Registry where
  stem : String
  metrics : List Metric
deriving Repr

namespace Registry

def fullName (r : Registry) (name : String) : String := r.stem ++ "_" ++ name

def find? (r : Registry) (fullName : String) : Option Metric :=
  r.metrics.find? fun m => m.about.name == fullName

/-- Register a metric under a name, unless the name is taken; the metric of the
name. -/
def register (r : Registry) (name : String) (make : String → Metric) : Metric × Registry :=
  let full := r.fullName name
  match r.find? full with
  | some m => (m, r)
  | none =>
    let m := make full
    (m, { r with metrics := r.metrics ++ [m] })

def put (r : Registry) (m : Metric) : Registry :=
  { r with metrics := r.metrics.map fun old => if old.about.name == m.about.name then m else old }

def collectAll (r : Registry) : List Sample := r.metrics.flatMap Metric.collect

end Registry

def labelText (entry : String × String) : String :=
  entry.1 ++ "=\"" ++ entry.2 ++ "\""

def Sample.line (s : Sample) : Except Fault String := do
  let value ← amountText s.value
  match s.labels with
  | [] => return s.name ++ " " ++ value
  | labels =>
    return s.name ++ "\x7b" ++ Text.joined "," (labels.map labelText) ++ "\x7d " ++ value

/-- Samples as an exposition, one on a line. -/
def exposition (samples : List Sample) : Except Fault String :=
  (samples.mapM Sample.line).map (Text.joined "\n")

end DocLedger.Metrics
