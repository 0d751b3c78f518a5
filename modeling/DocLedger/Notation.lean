import DocLedger.Index.Options
import DocLedger.Json.Parser
import DocLedger.Json.Printer
import DocLedger.Number.Written

/-!
# A notation for all values

Documents hold values of six kinds.  A mapping with a single key that starts
with a dollar sign writes a value of another kind, or a large one in short.
A value of any kind is shown as a document in which literal texts stand for
what documents cannot hold.
-/

namespace DocLedger

namespace Value

def doubleOf (s : String) : Float :=
  ((Number.Places.ofText? s.toList).map Number.Places.toDouble).getD (0.0 / 0.0)

def integerOf (s : String) : Except Failure Int :=
  match Number.writtenInteger s.toList with
  | .ok n => .ok n
  | .error .unreadable => .error (.fault (.badInteger (Text.Quoted.string s)))
  | .error (.tooManyDigits count) => .error (.fault (.tooManyDigitsRead count))

/-- The bytes that pairs of digits write. -/
def bytesOf : List Char → List UInt8
  | a :: b :: rest =>
    UInt8.ofNat ((Json.hexValue? a).getD 0 * 16 + (Json.hexValue? b).getD 0) :: bytesOf rest
  | _ => []

def natural : Value → Nat
  | int n => n.toNat
  | _ => 0

/-- A value inside so many lists. -/
def nested : Nat → Value → Value
  | 0, v => v
  | n + 1, v => nested n (list [v])

/-- The first value among some that cannot be a key, as a failure. -/
def checkKeys (keys : List Value) : Except Failure Unit :=
  match itemFault? keys with
  | some fault => .error (.fault fault)
  | none => .ok ()

/-- The entries that a list of pairs writes. -/
def pairs : List Value → List (Value × Value)
  | list [k, v] :: rest => (k, v) :: pairs rest
  | _ :: rest => pairs rest
  | [] => []

def ofOptions (kind : Index.OptionsKind) (entries : List (Value × Value)) : Except Failure Value :=
  (Index.Options.build kind entries).map Index.Options.toRecord

/-- The value that a tag and what stands under it write; other mappings stand
for themselves. -/
def ofTag (tag : String) (v : Value) : Except Failure Value :=
  match tag, v with
  | "$float", text s => .ok (float (doubleOf s))
  | "$int", text s => (integerOf s).map int
  | "$bytes", text s => .ok (bytes (bytesOf s.toList))
  | "$set", list items => do
    checkKeys items
    return collection items
  | "$tuple", list items => .ok (tuple items)
  | "$map", list items => do
    checkKeys ((pairs items).map Prod.fst)
    return ofEntries (pairs items)
  | "$datetime", list parts =>
    let part (i : Nat) : Nat := ((parts[i]?).map natural).getD 0
    .ok (moment ⟨part 0, part 1, part 2, part 3, part 4, part 5, part 6⟩)
  | "$decimal", text s =>
    match Number.Places.ofText? s.toList with
    | some d => .ok (decimal d)
    | none => .error (.fault (.signaled .unreadable))
  | "$repeat", list [text s, int n] =>
    .ok (text (String.ofList ((List.replicate n.toNat s.toList).flatten)))
  | "$nest", list [int n, inner] => .ok (nested n.toNat inner)
  | "$cycle", text s => .ok (loop (s == "dict"))
  | "$overrides", mapping entries => ofOptions .overrides entries
  | "$watch", mapping entries => ofOptions .watch entries
  | _, _ => .ok (mapping [(text tag, v)])

mutual

def ofDocument : Value → Except Failure Value
  | list items => (ofDocuments items).map list
  | mapping entries =>
    match ofDocumentEntries entries with
    | .error f => .error f
    | .ok [(text tag, v)] => ofTag tag v
    | .ok read => .ok (mapping read)
  | v => .ok v

def ofDocuments : List Value → Except Failure (List Value)
  | [] => .ok []
  | v :: rest =>
    match ofDocument v with
    | .error f => .error f
    | .ok first => (ofDocuments rest).map (first :: ·)

def ofDocumentEntries : List (Value × Value) → Except Failure (List (Value × Value))
  | [] => .ok []
  | (k, v) :: rest =>
    match ofDocument v with
    | .error f => .error f
    | .ok first => (ofDocumentEntries rest).map ((k, first) :: ·)

end

/-- A value of any kind as the text of a document. -/
def documentText (v : Value) : Except Failure Value :=
  ((Json.renderString .complete v).map text).mapError .fault

end Value

end DocLedger
