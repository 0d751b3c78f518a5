import DocLedger.Value.Literal

/-!
# The errors of the library

Every way in which a call of the library can go wrong has its own case: a bad
configuration, an engine that cannot be started, one that ran and failed,
output that cannot be decoded, and a missing index or document.  A call may
also end in a `Fault`; `Failure` joins the two.
-/

namespace DocLedger

/-- An error of the library. -/
inductive LedgerError
  | general (message : String) (context : List (String × Value))
  /-- The value is null when none is at fault. -/
  | configuration (message : String) (field : Option String) (value : Value)
  | spawn (executable : String) (cause : Option String)
  | execution (message : String) (command : List String) (exitCode : Option Int) (stderr : String)
  | decode (reason : String) (command : List Value) (stderr : String)
  | indexNotFound (dbPath : Value)
  | documentNotFound (collection docId : Value)
deriving Repr

namespace LedgerError

/-- A message followed by the trimmed standard error, when there is any. -/
def withDetails (message stderr : String) : String :=
  let details := Text.trimmed stderr
  if details == "" then message else message ++ ": " ++ details

/-- The message about an executable that cannot be started. -/
def notStarted (executable : String) (cause : Option String) : String :=
  "ledgerdb: failed to start " ++ executable ++
    (match cause with | some c => ": " ++ c | none => "")

/-- The message about output that cannot be decoded. -/
def notDecoded (reason : String) : String := "ledgerdb json parse failed: " ++ reason

def noIndex : String := "Index database not found; run an index sync first"

def noDocument (collection docId : String) : String :=
  "Document not found: " ++ collection ++ "/" ++ docId

/-- The message of an error, without its context. -/
def message : LedgerError → String
  | general m _ => m
  | configuration m _ _ => m
  | spawn executable cause => notStarted executable cause
  | execution m _ _ stderr => withDetails m stderr
  | decode reason _ stderr => withDetails (notDecoded reason) stderr
  | indexNotFound _ => noIndex
  | documentNotFound collection docId => noDocument collection.plain docId.plain

/-- The most characters of a value's literal text that an error keeps. -/
def shownValueLength : Nat := 100

/-- The start of a value's literal text, as an error keeps it. -/
def shownValue (v : Value) : Value := .text (Text.leading shownValueLength v.literalText)

/-- The context of an error: what it is about, by name. -/
def context : LedgerError → List (String × Value)
  | general _ c => c
  | configuration _ field value =>
    (match field with | some f => [("field", .text f)] | none => []) ++
      (if value.isNull then []
       else [("value", shownValue value)])
  | spawn executable _ => [("executable", .text executable)]
  | execution _ _ (some code) _ => [("exit_code", .int code)]
  | execution _ _ none _ => []
  | decode .. => []
  | indexNotFound dbPath => [("db_path", dbPath)]
  | documentNotFound collection docId =>
    [("collection", collection), ("doc_id", docId)]

def contextItem (item : String × Value) : String :=
  item.1 ++ "=" ++ item.2.literalText

def withContext (message : String) (items : List String) : String :=
  message ++ " [" ++ Text.joined ", " items ++ "]"

/-- The text of an error: its message and, in brackets, its context. -/
def text (e : LedgerError) : String :=
  match e.context with
  | [] => e.message
  | items => withContext e.message (items.map contextItem)

/-- The attributes of an error apart from its message and context. -/
def attributes : LedgerError → List (String × Value)
  | general .. => []
  | configuration _ field value =>
    [("field", match field with | some f => .text f | none => .null), ("value", value)]
  | spawn executable _ => [("executable", .text executable)]
  | execution _ command exitCode stderr =>
    [("command", .list (command.map .text)),
      ("exit_code", match exitCode with | some code => .int code | none => .null),
      ("stderr", .text stderr)]
  | decode reason command stderr =>
    [("reason", .text reason), ("command", .list command), ("stderr", .text stderr)]
  | indexNotFound dbPath => [("db_path", dbPath)]
  | documentNotFound collection docId =>
    [("collection", collection), ("doc_id", docId)]

end LedgerError

/-- How a call can fail. -/
inductive Failure
  | ledger (e : LedgerError)
  | fault (f : Fault)
deriving Repr

namespace Failure

def text : Failure → String
  | ledger e => e.text
  | fault f => f.message

/-- A configuration error about a value.  Its text quotes the value, so a value
that cannot be written is a fault instead. -/
def configuration (message : String) (field : String) (value : Value) : Failure :=
  if value.overlong then .fault .tooManyDigits
  else .ledger (.configuration message (some field) value)

/-- A configuration error about a value, where the room for quoting it is limited. -/
def configurationWithin (room : Room) (message field : String) (value : Value) : Failure :=
  match value.quoteFault? room with
  | some f => .fault f
  | none => .ledger (.configuration message (some field) value)

end Failure

end DocLedger
