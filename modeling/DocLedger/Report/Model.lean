import DocLedger.Error
import DocLedger.Json.Parser
import DocLedger.Report.Shape

/-!
# Models of engine reports

Each report of the engine has a model, a record of named fields.  Output that
is no JSON or does not fit its model is a decode error that names every field
at fault and ends with the engine's standard error.
-/

namespace DocLedger.Report

/-- The models of reports. -/
inductive Model
  | put
  | get
  | logEntry
  | log
  | indexSync
  | manifest
  | status
  | issue
  | integrity
  | snapshot
  | gc
  | indexedDoc
deriving Repr, DecidableEq

namespace Model

def all : List Model :=
  [put, get, logEntry, log, indexSync, manifest, status, issue, integrity, snapshot, gc, indexedDoc]

def name : Model → String
  | put => "PutResult"
  | get => "GetResult"
  | logEntry => "LogEntry"
  | log => "LogResult"
  | indexSync => "IndexSyncResult"
  | manifest => "Manifest"
  | status => "RepoStatus"
  | issue => "Issue"
  | integrity => "IntegrityResult"
  | snapshot => "SnapshotResult"
  | gc => "GcResult"
  | indexedDoc => "IndexedDoc"

def ofName? (name : String) : Option Model :=
  all.find? fun m => m.name == name

def required (name : String) (shape : Shape) (rest : Fields) : Fields :=
  .cons name shape none rest

def nullable (name : String) (shape : Shape) (rest : Fields) : Fields :=
  .cons name (.optional shape) (some .null) rest

/-- A field with a value for when it is left out. -/
def withDefault (name : String) (shape : Shape) (value : Value) (rest : Fields) : Fields :=
  .cons name shape (some value) rest

/-- The shape of an entry of a document's history. -/
def logEntryShape : Shape :=
  .record "LogEntry" <|
    required "tx_hash" .text <| required "tx_id" .text <| nullable "parent_hash" .text <|
    required "timestamp" .integer <| required "op" .text .nil

def manifestShape : Shape :=
  .record "Manifest" <|
    required "version" .integer <| required "name" .text <| nullable "stream_layout" .text <|
    nullable "history_mode" .text <| nullable "created_at" .text .nil

def issueShape : Shape :=
  .record "Issue" <|
    required "stream_path" .text <| required "code" .text <| required "message" .text .nil

def shape : Model → Shape
  | put => .record "PutResult" <|
      required "commit" .text <| required "tx_hash" .text <| required "tx_id" .text .nil
  | get => .record "GetResult" <|
      required "doc" .anything <| nullable "tx_hash" .text <| nullable "tx_id" .text <|
      nullable "op" .text .nil
  | logEntry => logEntryShape
  | log => .record "LogResult" <| nullable "entries" (.list logEntryShape) .nil
  | indexSync => .record "IndexSyncResult" <|
      required "reset" .truth <| required "fetched" .truth <| required "commits" .integer <|
      required "txs_applied" .integer <| required "docs_upserted" .integer <|
      required "docs_deleted" .integer <| required "collections" .integer <|
      nullable "last_commit" .text .nil
  | manifest => manifestShape
  | status => .record "RepoStatus" <|
      required "path" .text <| required "bare" .truth <| nullable "head" .text <|
      nullable "manifest" manifestShape .nil
  | issue => issueShape
  | integrity => .record "IntegrityResult" <|
      required "streams" .integer <| required "valid" .integer <|
      withDefault "issues" (.list issueShape) (.list []) .nil
  | snapshot => .record "SnapshotResult" <|
      required "streams" .integer <| required "processed" .integer <|
      required "snapshotted" .integer <| required "planned" .integer <|
      required "skipped" .integer <| withDefault "truncated" .truth (.bool false) <|
      withDefault "dry_run" .truth (.bool false) <|
      withDefault "issues" (.list issueShape) (.list []) .nil
  | gc => .record "GcResult" <| required "status" .text <| nullable "prune" .text .nil
  | indexedDoc => .record "IndexedDoc" <|
      required "doc_id" .text <| withDefault "payload" .anything .null <|
      required "tx_hash" .text <| required "tx_id" .text <| required "op" .text <|
      nullable "schema_version" .text <| required "updated_at" .integer <|
      withDefault "deleted" .truth (.bool false) .nil

end Model

/-- Bring a value into the normal form of a model. -/
def read (m : Model) (v : Value) : Read Value :=
  m.shape.read [] v

/-- Read a value as a report; one that does not fit is a decode error. -/
def validate (m : Model) (command : List Value) (stderr : String) (v : Value) :
    Except Failure Value :=
  match read m v with
  | .ok report => .ok report
  | .error problems =>
    .error (.ledger (.decode ("unexpected " ++ m.name ++ " shape: " ++ summary problems)
      command stderr))

/-- Read the standard output of the engine as a report. -/
def decode (m : Model) (command : List Value) (stdout stderr : String) : Except Failure Value :=
  let cs := stdout.toList
  match Json.readDocument cs with
  | .ok v => validate m command stderr v
  | .error (.malformed complaint left) =>
    .error (.ledger (.decode (Json.report complaint cs left) command stderr))
  | .error fault => .error (.fault (fault.toFault cs))

/-- A report as plain data; one that holds itself has none. -/
def dump (report : Value) : Except Fault Value :=
  if report.circular then .error .circularReport else .ok report.unfolded

def textField (report : Value) (name : String) : String :=
  match report.get? name with
  | some (.text s) => s
  | _ => ""

def optionalText (report : Value) (name : String) : Option String :=
  match report.get? name with
  | some (.text s) => some s
  | _ => none

def integerField (report : Value) (name : String) : Int :=
  match report.get? name with
  | some (.int n) => n
  | _ => 0

def truthField (report : Value) (name : String) : Bool :=
  match report.get? name with
  | some (.bool b) => b
  | _ => false

def listField (report : Value) (name : String) : List Value :=
  match report.get? name with
  | some (.list items) => items
  | _ => []

/-- What one pass over the index did. -/
structure SyncPass where
  reset : Bool
  fetched : Bool
  commits : Int
  txsApplied : Int
  docsUpserted : Int
  docsDeleted : Int
  collections : Int
  lastCommit : Option String
deriving Repr, DecidableEq

namespace SyncPass

/-- The pass that a report of the model `indexSync` describes. -/
def ofReport (report : Value) : SyncPass where
  reset := truthField report "reset"
  fetched := truthField report "fetched"
  commits := integerField report "commits"
  txsApplied := integerField report "txs_applied"
  docsUpserted := integerField report "docs_upserted"
  docsDeleted := integerField report "docs_deleted"
  collections := integerField report "collections"
  lastCommit := optionalText report "last_commit"

def hasChanges (p : SyncPass) : Bool :=
  decide (0 < p.commits) || decide (0 < p.txsApplied) || decide (0 < p.docsUpserted) ||
    decide (0 < p.docsDeleted)

end SyncPass

/-- The verdict of a check of all document streams. -/
structure Integrity where
  streams : Int
  valid : Int
  issues : List Value
deriving Repr

namespace Integrity

/-- The verdict that a report of the model `integrity` describes. -/
def ofReport (report : Value) : Integrity where
  streams := integerField report "streams"
  valid := integerField report "valid"
  issues := listField report "issues"

/-- Whether all streams are valid and there are no issues. -/
def ok (i : Integrity) : Bool :=
  i.issues.isEmpty && i.valid == i.streams

end Integrity

end DocLedger.Report
