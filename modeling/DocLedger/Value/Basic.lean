import DocLedger.Fault
import DocLedger.Number.Amount
import DocLedger.Text.Utf8
import DocLedger.Value.Moment

/-!
# Values

Documents, settings, log fields and metric amounts are dynamic values.  A
value is a document value (null, truth value, number, text, list, mapping) or
one of the further kinds that callers may hand over and that documents cannot
hold.  Mappings keep the order in which their keys were first set.
-/

namespace DocLedger

/-- A dynamic value. -/
inductive Value
  | null
  | bool (b : Bool)
  | int (n : Int)
  | float (x : Float)
  | text (s : String)
  | bytes (bs : List UInt8)
  | list (items : List Value)
  | tuple (items : List Value)
  | set (items : List Value)
  | mapping (entries : List (Value × Value))
  | decimal (d : Number.Places)
  | moment (m : Moment)
  /-- An object with named fields, and the name of its type. -/
  | record (kind : String) (fields : List (String × Value))
  /-- A container whose only entry is the container itself: a mapping under
  the key `self`, or a list. -/
  | loop (isMapping : Bool)
deriving Repr, Inhabited

/-- How many containers may stand inside one another where values are written; a
limit need not be there. -/
abbrev Room := Option Nat

namespace Room

/-- The room inside a container, if there is room for one. -/
def inside? : Room → Option Room
  | none => some none
  | some 0 => none
  | some (n + 1) => some (some n)

/-- Whether so many containers inside one another have room. -/
def Fits : Room → Nat → Prop
  | none, _ => True
  | some n, depth => depth ≤ n

end Room

namespace Value

/-- The name of a value's type, as messages spell it. -/
def typeName : Value → String
  | null => "NoneType"
  | bool _ => "bool"
  | int _ => "int"
  | float _ => "float"
  | text _ => "str"
  | bytes _ => "bytes"
  | list _ => "list"
  | tuple _ => "tuple"
  | set _ => "set"
  | mapping _ => "dict"
  | decimal _ => "Decimal"
  | moment _ => "datetime"
  | record kind _ => kind
  | loop isMapping => if isMapping then "dict" else "list"

/-- The name of a value's type with the library that it belongs to, where it is
not one of the basic types. -/
def qualifiedTypeName : Value → String
  | decimal _ => "decimal.Decimal"
  | moment _ => "datetime.datetime"
  | v => v.typeName

def isNull : Value → Bool
  | null => true
  | _ => false

def isDecimal : Value → Bool
  | decimal _ => true
  | _ => false

/-- Whether a value counts as true: nothing, zero and the empty containers do
not. -/
def truthy : Value → Bool
  | null => false
  | bool b => b
  | int n => n != 0
  | float x => x != 0.0
  | text s => s != ""
  | bytes bs => !bs.isEmpty
  | list items => !items.isEmpty
  | tuple items => !items.isEmpty
  | set items => !items.isEmpty
  | mapping entries => !entries.isEmpty
  | decimal d => d.truthy
  | moment _ => true
  | record .. => true
  | loop _ => true

/-- The exact number that a value stands for, if it is a number; truth values
are one and zero. -/
def number? : Value → Option Number.Exact
  | bool b => some (Number.exactInt (if b then 1 else 0))
  | int n => some (Number.exactInt n)
  | float x => some (Number.exact x)
  | decimal d => some d.exact
  | _ => none

/-- The amount that a value stands for, if it is one. -/
def amount? : Value → Option Number.Amount
  | bool b => some (.whole (if b then 1 else 0))
  | int n => some (.whole n)
  | float x => some (.double x)
  | decimal d => some (.decimal d)
  | _ => none

def ofAmount : Number.Amount → Value
  | .whole n => int n
  | .double x => float x
  | .decimal d => decimal d

mutual

/-- Whether two values are equal.  Numbers are compared by value, so that one,
the true truth value and the double one are equal. -/
def same : Value → Value → Bool
  | null, null => true
  | text a, text b => a == b
  | bytes a, bytes b => a == b
  | list as, list bs => sameItems as bs
  | tuple as, tuple bs => sameItems as bs
  | set as, set bs => as.length == bs.length && subset as bs
  | mapping as, mapping bs => as.length == bs.length && subentries as bs
  | moment a, moment b => a == b
  | record k as, record k' bs => k == k' && sameFields as bs
  | loop a, loop b => a == b
  | a, b =>
    match a.number?, b.number? with
    | some x, some y => x.eq y
    | _, _ => false

/-- Whether two lists are equal item by item. -/
def sameItems : List Value → List Value → Bool
  | [], [] => true
  | a :: as, b :: bs => same a b && sameItems as bs
  | _, _ => false

/-- Whether two lists of fields are equal field by field. -/
def sameFields : List (String × Value) → List (String × Value) → Bool
  | [], [] => true
  | (n, a) :: as, (n', b) :: bs => n == n' && same a b && sameFields as bs
  | _, _ => false

/-- Whether each value of one list has an equal in another. -/
def subset : List Value → List Value → Bool
  | [], _ => true
  | a :: as, bs => bs.any (fun b => same a b) && subset as bs

/-- Whether each entry of one mapping has an equal in another. -/
def subentries : List (Value × Value) → List (Value × Value) → Bool
  | [], _ => true
  | (k, v) :: rest, bs => bs.any (fun (k', v') => same k k' && same v v') && subentries rest bs

end

/-- Set a key of a mapping: a key already there keeps its place and takes the
new value, a new key goes to the end. -/
def insertEntry (key value : Value) : List (Value × Value) → List (Value × Value)
  | [] => [(key, value)]
  | (k, v) :: rest =>
    if same k key then (k, value) :: rest else (k, v) :: insertEntry key value rest

/-- The mapping made by setting entries one after another. -/
def ofEntries (entries : List (Value × Value)) : Value :=
  mapping (entries.foldl (fun done (k, v) => insertEntry k v done) [])

/-- The set of some values, without repeats. -/
def collection (items : List Value) : Value :=
  set (items.foldl (fun done v => if done.any (same v) then done else done ++ [v]) [])

/-- The entry of a mapping under a text key. -/
def lookup (key : String) : List (Value × Value) → Option Value
  | [] => none
  | (text k, v) :: rest => if k == key then some v else lookup key rest
  | _ :: rest => lookup key rest

/-- The entry of a value under a text key, if the value is a mapping that has
it. -/
def get? (key : String) : Value → Option Value
  | mapping entries => lookup key entries
  | _ => none

/-- The items of a value that has any, in order: the keys of a mapping, the
characters of a text, the numbers of bytes. -/
def items? : Value → Option (List Value)
  | list items => some items
  | tuple items => some items
  | set items => some items
  | mapping entries => some (entries.map Prod.fst)
  | text s => some (s.toList.map fun c => text (String.singleton c))
  | bytes bs => some (bs.map fun b => int b.toNat)
  | loop true => some [text "self"]
  | loop false => some [loop false]
  | _ => none

mutual

/-- What keeps a value from being the key of a mapping, if anything does:
containers that can change, and signaling decimals, also inside other values. -/
def keyFault? : Value → Option Fault
  | list _ => some (.unhashable "list")
  | set _ => some (.unhashable "set")
  | mapping _ => some (.unhashable "dict")
  | loop isMapping => some (.unhashable (if isMapping then "dict" else "list"))
  | tuple items => itemFault? items
  | record _ fields => fieldFault? fields
  | decimal d => if d.isSignaling then some .signalingKey else none
  | _ => none

/-- What keeps the first of some items that cannot be part of a key from being
one. -/
def itemFault? : List Value → Option Fault
  | [] => none
  | v :: rest =>
    match keyFault? v with
    | some fault => some fault
    | none => itemFault? rest

/-- What keeps the first of some fields that cannot be part of a key from being
one. -/
def fieldFault? : List (String × Value) → Option Fault
  | [] => none
  | (_, v) :: rest =>
    match keyFault? v with
    | some fault => some fault
    | none => fieldFault? rest

end

mutual

/-- Whether a value holds an integer with more digits than the limit. -/
def overlong : Value → Bool
  | int n => Number.tooLong n
  | list items => overlongItems items
  | tuple items => overlongItems items
  | set items => overlongItems items
  | mapping entries => overlongEntries entries
  | record _ fields => overlongFields fields
  | _ => false

/-- Whether one of some values holds an integer beyond the limit. -/
def overlongItems : List Value → Bool
  | [] => false
  | v :: rest => overlong v || overlongItems rest

/-- Whether a key or value of some entries holds an integer beyond the limit. -/
def overlongEntries : List (Value × Value) → Bool
  | [] => false
  | (k, v) :: rest => overlong k || overlong v || overlongEntries rest

/-- Whether one of some fields holds an integer beyond the limit. -/
def overlongFields : List (String × Value) → Bool
  | [] => false
  | (_, v) :: rest => overlong v || overlongFields rest

end

mutual

/-- How many containers of a value stand inside one another; the keys of a
mapping stand inside it. -/
def depth : Value → Nat
  | list items => depthItems items + 1
  | tuple items => depthItems items + 1
  | set items => depthItems items + 1
  | mapping entries => depthEntries entries + 1
  | record _ fields => depthFields fields + 1
  | _ => 0

/-- The greatest depth among some values. -/
def depthItems : List Value → Nat
  | [] => 0
  | v :: rest => max (depth v) (depthItems rest)

/-- The greatest depth among the keys and values of some entries. -/
def depthEntries : List (Value × Value) → Nat
  | [] => 0
  | (k, v) :: rest => max (max (depth k) (depth v)) (depthEntries rest)

def depthFields : List (String × Value) → Nat
  | [] => 0
  | (_, v) :: rest => max (depth v) (depthFields rest)

end

mutual

/-- A value with a mapping in place of each object with fields. -/
def unfolded : Value → Value
  | list items => list (unfoldedItems items)
  | tuple items => tuple (unfoldedItems items)
  | mapping entries => mapping (unfoldedEntries entries)
  | record _ fields => mapping (unfoldedFields fields)
  | v => v

/-- Items with mappings in place of objects. -/
def unfoldedItems : List Value → List Value
  | [] => []
  | v :: rest => unfolded v :: unfoldedItems rest

/-- Entries with mappings in place of objects. -/
def unfoldedEntries : List (Value × Value) → List (Value × Value)
  | [] => []
  | (k, v) :: rest => (k, unfolded v) :: unfoldedEntries rest

def unfoldedFields : List (String × Value) → List (Value × Value)
  | [] => []
  | (name, v) :: rest => (text name, unfolded v) :: unfoldedFields rest

end

mutual

/-- Whether a value holds a container that holds itself. -/
def circular : Value → Bool
  | loop _ => true
  | list items => circularItems items
  | tuple items => circularItems items
  | mapping entries => circularEntries entries
  | _ => false

def circularItems : List Value → Bool
  | [] => false
  | v :: rest => circular v || circularItems rest

def circularEntries : List (Value × Value) → Bool
  | [] => false
  | (_, v) :: rest => circular v || circularEntries rest

end

end Value

end DocLedger
