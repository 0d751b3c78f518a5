import DocLedger.Value.Compare
import DocLedger.Value.Literal

/-!
# Series of metrics

A metric has one series for each combination of values of its declared labels.
A call may leave a declared label out, which makes its value the empty text,
and may give labels that are not declared, which are passed over.
-/

namespace DocLedger.Metrics

open Number (Amount)

/-- What a metric is called, what it is about, and its labels. -/
structure Description where
  name : String
  help : String
  labels : List String
deriving Repr, DecidableEq

/-- The values of the labels of a series, in the order of the labels. -/
abbrev Key := List String

/-- Labels as a call gives them. -/
abbrev Given := List (String × Value)

/-- The series that a call with some labels is about; the value of a label has
to have a text. -/
def Description.key (d : Description) (given : Given) : Except Fault Key :=
  d.labels.mapM fun label =>
    match given.find? fun entry => entry.1 == label with
    | some (_, v) => v.spelled
    | none => .ok ""

/-- Series in the order of their first use. -/
abbrev Table (α : Type) := List (Key × α)

namespace Table

variable {α : Type}

/-- The state of a series, if it has been used. -/
def get? (t : Table α) (key : Key) : Option α :=
  (t.find? fun entry => entry.1 == key).map Prod.snd

/-- Put a state into a series; a new series goes to the end. -/
def set (key : Key) (state : α) : Table α → Table α
  | [] => [(key, state)]
  | (k, s) :: rest => if k == key then (k, state) :: rest else (k, s) :: set key state rest

end Table

/-- One exported value. -/
structure Sample where
  name : String
  value : Amount
  labels : List (String × String)
deriving Repr

def amountText (a : Amount) : Except Fault String := (Value.ofAmount a).spelled

/-- Give a label a value: a label already there keeps its place. -/
def setLabel (label value : String) : List (String × String) → List (String × String)
  | [] => [(label, value)]
  | (l, v) :: rest => if l == label then (l, value) :: rest else (l, v) :: setLabel label value rest

/-- The labels of a series with their values; a label declared twice occurs
once. -/
def Description.labelled (d : Description) (key : Key) : List (String × String) :=
  (d.labels.zip key).foldl (fun done (label, value) => setLabel label value done) []

def sumFault (sign : String) (current added : Value) : Number.SumFault → Fault
  | .tooLarge => .doubleOverflow
  | .mixed => .notAddable sign current.qualifiedTypeName added.qualifiedTypeName
  | .signal s => .signaled s

def addValue (sign : String) (current : Amount) (v : Value) : Except Fault Amount :=
  let before := Value.ofAmount current
  match v.amount? with
  | none => .error (.notAddable sign before.qualifiedTypeName v.qualifiedTypeName)
  | some amount => (current.add amount).mapError (sumFault sign before v)

def negated (v : Value) : Except Fault Value :=
  match v.amount? with
  | some amount => (amount.negate.map Value.ofAmount).mapError .signaled
  | none => .error (.notNegatable v.qualifiedTypeName)

end DocLedger.Metrics
