import DocLedger.Json.Printer
import DocLedger.Log.Exception
import DocLedger.Log.Record
import DocLedger.Log.Time

/-!
# Log lines

A record is written as one line, either as a JSON object or as plain text.  The
JSON object has the time, the level, the logger, the message and the host,
then an exception if there is one, then the fields of the record.  Fields that
every record has, and fields whose name starts with an underscore, are left
out.
-/

namespace DocLedger.Log

/-- The names of the fields that every record has. -/
def standardFields : List String :=
  ["name", "msg", "args", "created", "filename", "funcName", "levelname", "levelno", "lineno",
    "module", "msecs", "pathname", "process", "processName", "relativeCreated", "stack_info",
    "exc_info", "exc_text", "thread", "threadName", "message", "taskName"]

def isOwnField (name : String) : Bool :=
  !standardFields.contains name && !name.startsWith "_"

/-- What a line is written from. -/
structure Source where
  time : String
  host : String
  level : Value
  logger : Value
  message : String
  exception : Option String
  extra : List (String × Value)

def Source.entries (s : Source) : List (Value × Value) :=
  let leading : List (Value × Value) :=
    [(.text "timestamp", .text s.time), (.text "level", s.level), (.text "logger", s.logger),
      (.text "message", .text s.message), (.text "hostname", .text s.host)]
  let leading :=
    match s.exception with
    | some text => leading ++ [(.text "exception", .text text)]
    | none => leading
  (s.extra.filter fun field => isOwnField field.1).foldl
    (fun done field => Value.insertEntry (.text field.1) field.2 done) leading

def Source.jsonLine (s : Source) : Except Fault String :=
  Json.renderString .logged (.mapping s.entries)

def hostOf (name : Option String) : String := name.getD "unknown"

/-- A record as a caller makes it: when and where, its level and logger, the
message with its arguments, the exception that it carries, if any, and fields
that are set afterwards. -/
structure Draft where
  milliseconds : Int
  host : String
  level : Value
  logger : String
  message : Value
  arguments : List Value
  exception : Option String
  extra : List (String × Value)

namespace Draft

/-- A field of a record: the last value set, or the one that the record has by
itself. -/
def field (d : Draft) (name : String) (own : Value) : Value :=
  match d.extra.reverse.find? fun entry => entry.1 == name with
  | some (_, v) => v
  | none => own

/-- The arguments that a record has by itself: all of them, or a single mapping
that is not empty. -/
def ownArguments (d : Draft) : Value :=
  match d.arguments with
  | [.mapping (e :: es)] => .mapping (e :: es)
  | [.loop true] => .loop true
  | args => .tuple args

/-- The text of the exception of a record, if it carries one. -/
def exceptionText? (d : Draft) : Except Fault (Option String) :=
  match d.exception with
  | some text => .ok (some text)
  | none =>
    let carried := d.field "exc_info" .null
    if carried.truthy then (exceptionText carried).map some else .ok none

/-- The source of the line of a record: its level, its time, its message and its
exception are worked out in this order. -/
def source (d : Draft) : Except Fault Source := do
  let level ← levelTitle d.level
  let time ← timeText (d.field "created" (createdAt d.milliseconds))
    (d.field "msecs" (beyondSecond d.milliseconds))
  let message ← (d.field "msg" d.message).spelled
  let message ← Template.fill message (d.field "args" d.ownArguments)
  return {
    time := time
    host := d.host
    level := d.field "levelname" level
    logger := d.field "name" (.text d.logger)
    message := message
    exception := ← d.exceptionText?
    extra := d.extra }

end Draft

def Source.ofRecord (time host : String) (r : Record) : Source where
  time := time
  host := host
  level := .text (levelName r.level)
  logger := .text r.logger
  message := r.message
  exception := none
  extra := r.extra

def Source.plainLine (s : Source) : String :=
  s.time ++ " - " ++ s.logger.plain ++ " - " ++ s.level.plain ++ " - " ++ s.message

end DocLedger.Log
