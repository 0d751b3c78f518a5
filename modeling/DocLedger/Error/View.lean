import DocLedger.Error
import DocLedger.Value.Keywords

/-!
# Errors made by name

A caller may make an error of the library from arguments by name, which may be
values of any kind.  What the error shows is a view of it: its message, its context
and its other attributes.  Making it, or writing its text, is at fault where a
value is not of the kind that is needed.
-/

namespace DocLedger

/-- The classes of the library's errors. -/
inductive ErrorClass
  | general
  | configuration
  | spawn
  | execution
  | decode
  | indexNotFound
  | documentNotFound
deriving Repr, DecidableEq

namespace ErrorClass

def name : ErrorClass → String
  | general => "LedgerError"
  | configuration => "ConfigurationError"
  | spawn => "SpawnError"
  | execution => "ExecutionError"
  | decode => "DecodeError"
  | indexNotFound => "IndexNotFoundError"
  | documentNotFound => "DocumentNotFoundError"

def all : List ErrorClass :=
  [general, configuration, spawn, execution, decode, indexNotFound, documentNotFound]

def ofName? (name : String) : Option ErrorClass :=
  all.find? fun c => c.name == name

/-- The arguments from which an error of a class is made. -/
def signature (c : ErrorClass) : Signature :=
  match c with
  | general => .ofMaker c.name ["message"] ["context"]
  | configuration => .ofMaker c.name ["message"] ["field", "value"]
  | spawn => .ofMaker c.name ["executable"] ["cause"]
  | execution => .ofMaker c.name ["message"] ["command", "exit_code", "stderr"]
  | decode => .ofMaker c.name ["reason"] ["command", "stderr"]
  | indexNotFound => .ofMaker c.name ["db_path"] []
  | documentNotFound => .ofMaker c.name ["collection", "doc_id"] []

end ErrorClass

def LedgerError.errorClass : LedgerError → ErrorClass
  | .general .. => .general
  | .configuration .. => .configuration
  | .spawn .. => .spawn
  | .execution .. => .execution
  | .decode .. => .decode
  | .indexNotFound .. => .indexNotFound
  | .documentNotFound .. => .documentNotFound

/-- What an error shows. -/
structure ErrorView where
  message : Value
  context : Value
  attributes : List (String × Value)
deriving Repr

namespace ErrorView

def contextItem (item : Value × Value) : Except Fault String := do
  return (← item.1.spelled) ++ "=" ++ (← item.2.quoted)

/-- The items of a context in the text of an error.  A context has to be a
mapping; options give nothing that reads as pairs unless none is set. -/
def contextItems : Value → Except Fault (List String)
  | .mapping entries => entries.mapM contextItem
  | .loop true => (contextItem (.text "self", .loop true)).map fun item => [item]
  | .record _ fields =>
    if fields.all fun field => field.2.isNull then .ok [] else .error .unreadablePair
  | v => .error (.noAttribute v.qualifiedTypeName "items")

/-- The text of an error: its message and, in brackets, its context. -/
def text (n : ErrorView) : Except Fault String :=
  if n.context.truthy then do
    let items ← contextItems n.context
    return LedgerError.withContext (← n.message.spelled) items
  else
    match n.message with
    | .text s => .ok s
    | v => .error (.messageNotText v.qualifiedTypeName)

/-- A value without the blanks around it, if it is a text or bytes. -/
def stripped : Value → Except Fault Value
  | .text s => .ok (.text (Text.trimmed s))
  | .bytes bs =>
    .ok (.bytes ((bs.dropWhile Text.isBlankByte).reverse.dropWhile Text.isBlankByte).reverse)
  | v => .error (.noAttribute v.qualifiedTypeName "strip")

/-- The message with the standard error behind it, unless that is blank. -/
def withDetails (message stderr : Value) : Except Fault Value := do
  let details ← stripped stderr
  if !details.truthy then return message
  return .text ((← message.spelled) ++ ": " ++ (← details.spelled))

/-- The items of a command; there are none where there is no command. -/
def commandOf (v : Value) : Except Fault Value :=
  if v.isNull then .ok (.list [])
  else
    match v.items? with
    | some items => .ok (.list items)
    | none => .error (.notIterable v.qualifiedTypeName)

/-- A context entry, left out for nothing. -/
def entryOf (name : String) (v : Value) : List (Value × Value) :=
  if v.isNull then [] else [(.text name, v)]

def entry (name : String) (v : Value) : Value × Value := (.text name, v)

/-- The most parts of a refusal that have a meaning of their own. -/
def refusalParts : Nat := 5

/-- The text of a refusal by the system: its number and its words, and then
perhaps the file that it is about, a part without meaning, and another file. -/
def refusalText : List Value → Except Fault String
  | [] => .ok ""
  | [words] => words.spelled
  | number :: words :: more =>
    if refusalParts < more.length + 2 then (Value.tuple (number :: words :: more)).spelled
    else do
      let text := "[Errno " ++ (← number.spelled) ++ "] " ++ (← words.spelled)
      match (more[0]?).getD .null, (more[2]?).getD .null with
      | .null, _ => return text
      | file, .null => return text ++ ": " ++ (← file.quoted)
      | file, other => return text ++ ": " ++ (← file.quoted) ++ " -> " ++ (← other.quoted)

/-- The text of the cause of a failed start, if there is one. -/
def causeText : Value → Except Fault (Option String)
  | .null => .ok none
  | v =>
    match v.items? with
    | some parts => (refusalText parts).map some
    | none => v.spelled.map some

/-- The view of an error of a class that is made from arguments by name. -/
def make (c : ErrorClass) (arguments : List (Value × Value)) : Except Fault ErrorView := do
  c.signature.check arguments
  let given (name : String) (otherwise : Value := .null) : Value :=
    Value.argument arguments name otherwise
  match c with
  | .general =>
    let context := given "context"
    return ⟨given "message", if context.truthy then context else .mapping [], []⟩
  | .configuration =>
    let field := given "field"
    let value := given "value"
    let _ ← value.quoted
    let shown := if value.isNull then .null else LedgerError.shownValue value
    return ⟨given "message", .mapping (entryOf "field" field ++ entryOf "value" shown),
      [("field", field), ("value", value)]⟩
  | .spawn =>
    let executable := given "executable"
    let cause ← causeText (given "cause")
    return ⟨.text (LedgerError.notStarted (← executable.spelled) cause),
      .mapping [entry "executable" executable], [("executable", executable)]⟩
  | .execution =>
    let stderr := given "stderr" (.text "")
    let code := given "exit_code"
    let message ← withDetails (given "message") stderr
    let command ← commandOf (given "command")
    return ⟨message, .mapping (entryOf "exit_code" code),
      [("command", command), ("exit_code", code), ("stderr", stderr)]⟩
  | .decode =>
    let stderr := given "stderr" (.text "")
    let _ ← stripped stderr
    let reason := given "reason"
    let message ← withDetails (.text (LedgerError.notDecoded (← reason.spelled))) stderr
    let command ← commandOf (given "command")
    return ⟨message, .mapping [], [("reason", reason), ("command", command), ("stderr", stderr)]⟩
  | .indexNotFound =>
    let path := given "db_path"
    return ⟨.text LedgerError.noIndex, .mapping [entry "db_path" path], [("db_path", path)]⟩
  | .documentNotFound =>
    let collection := given "collection"
    let docId := given "doc_id"
    return ⟨.text (LedgerError.noDocument (← collection.spelled) (← docId.spelled)),
      .mapping [entry "collection" collection, entry "doc_id" docId],
      [("collection", collection), ("doc_id", docId)]⟩

end ErrorView

end DocLedger
