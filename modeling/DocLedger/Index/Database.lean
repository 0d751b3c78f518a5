import DocLedger.Index.Identifier
import DocLedger.Value.Literal

/-!
# The index database

The database is a list of tables; a table has columns and rows in the order in
which they were put in.  Columns have no type of their own: a cell is null, a
number, a text or a byte string, and cells of different kinds are never equal.
Names of tables and columns are the same when they differ only in the case of
ASCII letters.
-/

namespace DocLedger.Index

/-- A table of the database. -/
structure Table where
  name : String
  columns : List String
  rows : List (List Value)
deriving Repr

/-- A value as a cell keeps it: a truth value is one or zero, an undefined number
is null, and a moment is its text. -/
def stored : Value → Value
  | .bool b => .int (if b then 1 else 0)
  | .float x => if Number.isNaN x then .null else .float x
  | .moment m => .text m.plain
  | v => v

def Table.keeping (name : String) (columns : List String) (rows : List (List Value)) : Table :=
  ⟨name, columns, rows.map fun row => row.map stored⟩

/-- The tables of a database. -/
structure Database where
  tables : List Table
deriving Repr

/-- A name with its ASCII letters in lower case. -/
def foldedName (name : String) : String :=
  String.ofList (name.toList.map Char.toLower)

def sameName (a b : String) : Bool := foldedName a == foldedName b

def Database.table? (db : Database) (name : String) : Option Table :=
  db.tables.find? fun t => sameName t.name name

def Table.column? (t : Table) (name : String) : Option Nat :=
  t.columns.findIdx? fun c => sameName c name

/-- The rank of a cell's kind: null, numbers, texts, byte strings. -/
def cellRank : Value → Nat
  | .null => 0
  | .text _ => 2
  | .bytes _ => 3
  | _ => 1

def cellLe (a b : Value) : Bool :=
  match a, b with
  | .text s, .text t => s ≤ t
  | .bytes s, .bytes t => !decide (t.map UInt8.toNat < s.map UInt8.toNat)
  | _, _ =>
    if cellRank a == 1 && cellRank b == 1 then
      match a.number?, b.number? with
      | some x, some y => !y.lt x
      | _, _ => true
    else cellRank a ≤ cellRank b

/-- Whether a cell equals a value; nothing equals null. -/
def cellEq (a b : Value) : Bool :=
  match a, b with
  | .null, _ => false
  | _, .null => false
  | .text s, .text t => s == t
  | .bytes s, .bytes t => s == t
  | _, _ =>
    if cellRank a == 1 && cellRank b == 1 then
      match a.number?, b.number? with
      | some x, some y => x.eq y
      | _, _ => false
    else false

/-- What a query asks of each row. -/
structure Condition where
  column : String
  value : Value
deriving Repr

/-- A query of one table: the columns asked for, or all, a condition and an
order. -/
structure Query where
  columns : Option (List String)
  table : String
  condition : Option Condition
  order : Option String
deriving Repr

/-- A row of a result: columns by name. -/
abbrev Row := List (String × Value)

def Row.cell (r : Row) (column : String) : Value :=
  match r.find? fun entry => sameName entry.1 column with
  | some (_, v) => v
  | none => .null

/-- Why the database does not answer. -/
inductive QueryFault
  | noTable (name : String)
  | noColumn (name : String)
  | readOnly
  | nearSyntax (token : String)
  | badToken (token : String)
  | incomplete
  | bindings (uses supplied : Nat)
  | unsupported (index : Nat) (kind : String)
  | tooLarge
  | notDatabase
  | malformed
  | nulCharacter
deriving Repr, DecidableEq

def integerSize : String := "SQLite INTEGER"

def QueryFault.message : QueryFault → String
  | .noTable name => "no such table: " ++ name
  | .noColumn name => "no such column: " ++ name
  | .readOnly => "attempt to write a readonly database"
  | .nearSyntax token => "near \"" ++ token ++ "\": syntax error"
  | .badToken token => "unrecognized token: \"" ++ token ++ "\""
  | .incomplete => "incomplete input"
  | .bindings uses supplied =>
    "Incorrect number of bindings supplied. The current statement uses " ++ toString uses ++
      ", and there are " ++ toString supplied ++ " supplied."
  | .unsupported index kind =>
    "Error binding parameter " ++ toString index ++ ": type '" ++ kind ++ "' is not supported"
  | .tooLarge => (Fault.beyond integerSize).message
  | .notDatabase => "file is not a database"
  | .malformed => "database disk image is malformed"
  | .nulCharacter => "the query contains a null character"

/-- Whether a statement has a NUL character, which ends texts for the database. -/
def hasNul (statement : String) : Bool := statement.toList.contains (Char.ofNat 0)

/-- The place of a column, or the fault that there is none. -/
def Table.place (t : Table) (column : String) : Except QueryFault Nat :=
  match t.column? column with
  | some i => .ok i
  | none => .error (.noColumn column)

def cellAt (row : List Value) (place : Nat) : Value := row[place]?.getD .null

/-- Put a row into a sorted list of rows, behind those that are equal to it. -/
def insertRow (place : Nat) (row : List Value) : List (List Value) → List (List Value)
  | [] => [row]
  | r :: rest =>
    if cellLe (cellAt r place) (cellAt row place) then r :: insertRow place row rest
    else row :: r :: rest

/-- Rows in the order of a column; equal ones keep their order. -/
def sortRows (place : Nat) (rows : List (List Value)) : List (List Value) :=
  rows.foldl (fun done row => insertRow place row done) []

/-- The rows that answer a query. -/
def Database.select (db : Database) (q : Query) : Except QueryFault (List Row) := do
  let t ←
    match db.table? q.table with
    | some t => pure t
    | none => throw (.noTable q.table)
  let places ← (q.columns.getD t.columns).mapM fun column => do
    let place ← t.place column
    return (t.columns[place]?.getD column, place)
  let rows ←
    match q.condition with
    | none => pure t.rows
    | some c => do
      let place ← t.place c.column
      pure (t.rows.filter fun row => cellEq (cellAt row place) c.value)
  let rows ←
    match q.order with
    | none => pure rows
    | some column => do
      let place ← t.place column
      pure (sortRows place rows)
  return rows.map fun row => places.map fun (name, place) => (name, cellAt row place)

/-- The text of a query, with a mark in place of the value. -/
def Query.text (q : Query) : String :=
  let columns :=
    match q.columns with
    | some names => Text.joined ", " names
    | none => "*"
  "SELECT " ++ columns ++ " FROM " ++ q.table ++
    (match q.condition with | some c => " WHERE " ++ c.column ++ " = ?" | none => "") ++
    (match q.order with | some column => " ORDER BY " ++ column | none => "")

end DocLedger.Index
