import DocLedger.Metrics.Registry
import DocLedger.Value.Keywords

/-!
# Updates by name

A caller updates or reads a metric by naming a method, perhaps with a value, and
with labels by name.  A label must not have the name of a parameter that has
its argument already; where no value is given, a label named `value` is the
value.
-/

namespace DocLedger.Metrics

abbrev Arguments := List (Value × Value)

/-- The signature of a method of a metric; `value` has its argument when one is
given in front. -/
def methodSignature (m : Metric) (method : String) (bound required : List String) : Signature :=
  ⟨m.kindName ++ "." ++ method, "self" :: bound, required, [], true⟩

def labelsOf (arguments : Arguments) : Given :=
  arguments.filterMap fun
    | (.text name, v) => some (name, v)
    | _ => none

/-- The value and the labels of an update.  An update that needs a value has no
standard one. -/
def updateArguments (m : Metric) (method : String) (needed : Bool) (value : Option Value)
    (arguments : Arguments) : Except Fault (Value × Given) := do
  match value with
  | some v =>
    (methodSignature m method ["value"] []).check arguments
    return (v, labelsOf arguments)
  | none =>
    (methodSignature m method [] (if needed then ["value"] else [])).check arguments
    let labels := labelsOf arguments
    return (Value.argument arguments "value" (.int 1), labels.filter fun entry => entry.1 != "value")

/-- The labels of a method that takes nothing else. -/
def readArguments (m : Metric) (method : String) (arguments : Arguments) : Except Fault Given := do
  (methodSignature m method [] []).check arguments
  return labelsOf arguments

/-- The updates of metrics. -/
inductive Update
  | inc
  | dec
  | observe
deriving Repr, DecidableEq

namespace Update

def name : Update → String
  | inc => "inc"
  | dec => "dec"
  | observe => "observe"

def fits : Update → Metric → Bool
  | inc, .histogram _ => false
  | inc, _ => true
  | dec, .gauge _ => true
  | dec, _ => false
  | observe, .histogram _ => true
  | observe, _ => false

def apply : Update → Metric → Value → Given → Option Fault × Metric
  | inc, m, v, given => m.inc v given
  | dec, m, v, given => m.dec v given
  | observe, m, v, given => m.observe v given

/-- Carry out an update with arguments by name. -/
def call (u : Update) (m : Metric) (value : Option Value) (arguments : Arguments) :
    Option Fault × Metric :=
  if !u.fits m then (some (m.noMethod u.name), m)
  else
    match updateArguments m u.name (u == observe) value arguments with
    | .error fault => (some fault, m)
    | .ok (v, given) => u.apply m v given

end Update

/-- Observe the time of an instant, with labels by name. -/
def timeCall (m : Metric) (arguments : Arguments) : Option Fault × Metric :=
  match m with
  | .histogram _ =>
    match readArguments m "time" arguments with
    | .error fault => (some fault, m)
    | .ok _ => Update.observe.call m (some (.float 0.0)) arguments
  | _ => (some (m.noMethod "time"), m)

/-- The amount of a series, with labels by name. -/
def getCall (m : Metric) (arguments : Arguments) : Except Fault Number.Amount := do
  match m with
  | .histogram _ => throw (m.noMethod "get")
  | _ => m.get (← readArguments m "get" arguments)

/-- The number of observations of a series, with labels by name. -/
def countCall (m : Metric) (arguments : Arguments) : Except Fault Nat := do
  match m with
  | .histogram _ => m.count (← readArguments m "count" arguments)
  | _ => throw (m.noMethod "count")

end DocLedger.Metrics
