import DocLedger.Index.Statement
import DocLedger.Log.Event
import DocLedger.Report.Model

/-!
# Reading the index

The engine keeps a table of documents for each collection, a registry of those
tables, and the commit to which the index was last advanced.  A reader looks
documents up in them and never writes.  Tables appear when the engine syncs for
the first time; until then a lookup finds nothing and says so in the log.
-/

namespace DocLedger.Index

/-- The file of an index.  Of a damaged one the queries are not answered that meet a page
which cannot be read. -/
inductive Image
  | notDatabase
  | database (db : Database)
  | damaged (db : Database) (meets : Query → Bool)

/-- The rows that answer a query. -/
def Image.select : Image → Query → Except QueryFault (List Row)
  | notDatabase, _ => .error .notDatabase
  | database db, q => db.select q
  | damaged db meets, q => if meets q then .error .malformed else db.select q

/-- Run a statement of a caller with values for its marks. -/
def Image.run : Image → String → List Value → Except QueryFault (List Row)
  | notDatabase, _, _ => .error .notDatabase
  | database db, text, values => db.run text values
  | damaged db meets, text, values => do
    let rows ← db.run text values
    match ← Statement.read text with
    | .query columns table condition order =>
      let bound := condition.map fun c => ⟨c, (values.map stored).head?.getD .null⟩
      if meets ⟨columns, table, bound, order⟩ then throw .malformed else return rows
    | _ => return rows

/-- What lies at the path of the index. -/
inductive Contents
  | missing
  | directory
  | file (image : Image)

/-- An open reader. -/
structure Reader where
  path : String
  image : Image
  closed : Bool

def readerLogger : String := "ledgerdb.index.reader"

def Reader.openText (path : String) : Contents → Except Failure Reader
  | .missing => .error (.ledger (.indexNotFound (.text path)))
  | .directory => .error (.ledger (.general "Failed to open index database: disk I/O error"
      [("db_path", .text path)]))
  | .file image => .ok ⟨path, image, false⟩

/-- The streams that every program has open. -/
def standardStreams : Int := 3

/-- Open the index.  A number is that of an open stream, or of nothing. -/
def Reader.open (path : Value) (contents : Contents) : Except Failure Reader :=
  match path with
  | .text s => openText s contents
  | .bytes bs => .error (.ledger (.indexNotFound (.bytes bs)))
  | v =>
    match v.amount? with
    | some (.whole n) =>
      if 0 ≤ n && n < standardStreams then .error (.fault (.notPath v.qualifiedTypeName))
      else .error (.ledger (.indexNotFound v))
    | _ => .error (.fault (.notPathOrNumber v.qualifiedTypeName))

/-- The table of the commit to which the index was last advanced. -/
def stateTable : String := "ledger_index_state"

def registryTable : String := "collection_registry"

/-- The most characters of a statement that an error shows. -/
def shownStatementLength : Nat := 200

/-- Whether a fault is one of operation, which the reader makes an error of its own. -/
def QueryFault.operational : QueryFault → Bool
  | notDatabase | malformed | nulCharacter => false
  | _ => true

def queryFailed (fault : QueryFault) (statement : String) : Failure :=
  .ledger (.general ("Index query failed: " ++ fault.message)
    [("sql", .text (Text.leading shownStatementLength statement))])

namespace Reader

/-- The failure of every call on a closed reader. -/
def closedFailure (r : Reader) : Failure :=
  .ledger (.general "Index reader is closed" [("db_path", .text r.path)])

/-- The rows of a query by the reader itself, whose text is given; tables that
are not there yet have no rows, which is noted. -/
def fetch (r : Reader) (statement : String) (q : Query) :
    Except Failure (List Row) × List Log.Record :=
  if r.closed then (.error r.closedFailure, [])
  else if hasNul statement then (.error (.fault (.database QueryFault.nulCharacter.message)), [])
  else
    match r.image.select q with
    | .ok rows => (.ok rows, [])
    | .error (.noTable name) =>
      (.ok [], [Log.Record.note Log.debug readerLogger
        ("Index at " ++ r.path ++ " has no schema yet: " ++ (QueryFault.noTable name).message)])
    | .error fault =>
      if fault.operational then (.error (queryFailed fault statement), [])
      else (.error (.fault (.database fault.message)), [])

/-- The commit to which the index was last advanced; null before the first
sync. -/
def lastCommit (r : Reader) : Except Failure Value × List Log.Record :=
  let q : Query := ⟨some ["last_commit"], stateTable, some ⟨"id", .int 1⟩, none⟩
  let (result, log) := r.fetch ("SELECT last_commit FROM " ++ stateTable ++ " WHERE id = 1") q
  (result.map fun rows =>
    match rows with
    | [] => .null
    | row :: _ =>
      let v := Row.cell row "last_commit"
      if v.truthy then v else .null, log)

def collections (r : Reader) : Except Failure (List Value) × List Log.Record :=
  let q : Query := ⟨some ["collection"], registryTable, none, some "collection"⟩
  let (result, log) := r.fetch q.text q
  (result.map fun rows => rows.map fun row => Row.cell row "collection", log)

/-- The table of a collection; null when the collection is not registered. -/
def tableFor (r : Reader) (collection : Value) : Except Failure Value × List Log.Record :=
  let q : Query := ⟨some ["table_name"], registryTable, some ⟨"collection", stored collection⟩, none⟩
  let (result, log) := r.fetch q.text q
  (result.map fun rows =>
    match rows with
    | [] => .null
    | row :: _ => Row.cell row "table_name", log)

def documentColumns : List String :=
  ["doc_id", "payload", "tx_hash", "tx_id", "op", "schema_version", "updated_at", "deleted"]

/-- The payload of a document: JSON in a text or in UTF-8 bytes. -/
def decodePayload (v : Value) : Except Fault Value :=
  let read (s : String) : Except Fault Value :=
    (Json.readDocument s.toList).mapError (·.toFault s.toList)
  match v with
  | .null => .ok .null
  | .text s => read s
  | .bytes bs =>
    match Text.Utf8.decodeStrict bs with
    | .ok s => read s
    | .error m => .error (.malformedText m.message)
  | v => .error (.notText v.typeName)

def documentOf (row : Row) : Except Failure Value := do
  let payload ← (decodePayload (Row.cell row "payload")).mapError Failure.fault
  let entries : List (Value × Value) := documentColumns.map fun column =>
    let v := Row.cell row column
    (.text column,
      if column == "payload" then payload
      else if column == "deleted" then .bool v.truthy
      else v)
  match Report.read .indexedDoc (.mapping entries) with
  | .ok doc => return doc
  | .error problems =>
    throw (.fault (.misshapen (Report.Model.indexedDoc.name ++ ": " ++ Report.summary problems)))

/-- The name between quotes of the table that a cell of the registry names. -/
def quotedTable : Value → Except Fault String
  | .text s => .ok (quoteIdentifier s)
  | .bytes _ => .error (.notBytesLike "str")
  | v => .error (.noAttribute v.qualifiedTypeName "replace")

def get (r : Reader) (collection docId : Value) : Except Failure Value × List Log.Record :=
  let (found, log) := r.tableFor collection
  match found with
  | .error failure => (.error failure, log)
  | .ok table =>
    if table.isNull then (.error (.ledger (.documentNotFound collection docId)), log)
    else
      match quotedTable table with
      | .error fault => (.error (.fault fault), log)
      | .ok quoted =>
        let condition : Condition := ⟨"doc_id", stored docId⟩
        let q : Query := ⟨some documentColumns, table.plain, some condition, none⟩
        let (rows, more) := r.fetch { q with table := quoted }.text q
        match rows with
        | .error failure => (.error failure, log ++ more)
        | .ok [] => (.error (.ledger (.documentNotFound collection docId)), log ++ more)
        | .ok (row :: _) => (documentOf row, log ++ more)

/-- A row as a mapping; a column that occurs twice is in it once. -/
def rowValue (row : Row) : Value :=
  .mapping (row.foldl (fun done (name, v) =>
    if done.any (fun entry => Value.same entry.1 (.text name)) then done
    else done ++ [(.text name, v)]) [])

/-- The rows of a statement by a caller, which has to be a text. -/
def query (r : Reader) (statement : Value) (values : List Value) : Except Failure (List Value) :=
  if r.closed then .error r.closedFailure
  else
    match statement with
    | .text sql =>
      if hasNul sql then .error (queryFailed .nulCharacter sql)
      else
        match r.image.run sql values with
        | .ok rows => .ok (rows.map rowValue)
        | .error .tooLarge => .error (.fault (.beyond integerSize))
        | .error fault => .error (queryFailed fault sql)
    | v => .error (.fault (.statementNotText (if v.isNull then "None" else v.qualifiedTypeName)))

def close (r : Reader) : Reader := { r with closed := true }

end Reader

end DocLedger.Index
