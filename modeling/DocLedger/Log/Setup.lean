import DocLedger.Log.Line
import DocLedger.Text.Case

/-!
# Where records go

Records of at least the chosen level go to the console, as JSON or as plain
text, and perhaps to a file, always as JSON.  A plain console leaves the time
in the record, so that the file shows it once more.
-/

namespace DocLedger.Log

/-- The name of the usual form of a line, which is no level. -/
def formName : String := "BASIC_FORMAT"

def form : String := "%(levelname)s:%(name)s:%(message)s"

/-- The level of a name, in letters of either case. -/
def levelOf (v : Value) : Except Fault Level :=
  match v with
  | .text name =>
    let upper := Text.upper name
    match levels.find? fun entry => entry.1 == upper with
    | some (_, level) => .ok level
    | none =>
      if upper == formName then .error (.unknownLevel (Text.Quoted.string form))
      else .error (.noLevel upper)
  | .bytes _ => .error (.nameNotText "bytes")
  | v => .error (.noAttribute v.qualifiedTypeName "upper")

/-- The logger of a name; nothing names the logger above all others. -/
def loggerOf : Value → Except Fault String
  | .text "" => .ok "root"
  | .text name => .ok name
  | v => if v.truthy then .error .loggerNotText else .ok "root"

/-- The names of fields that a record has by itself and that a call may not give
it. -/
def reservedFields : List String :=
  "message" :: "asctime" :: standardFields.filter (· != "taskName")

/-- The fields that a call gives to a record. -/
def givenFields : Value → List (String × Value)
  | .mapping entries => entries.map fun (k, v) => (k.plain, v)
  | _ => []

/-- Where records go. -/
structure Setup where
  level : Level
  json : Bool
  file : Option String
  host : String
deriving Repr

namespace Setup

/-- Whether a record of a level is written: the level has to be above zero and
at least the chosen one. -/
def passesLevel (s : Setup) (level : Level) : Bool := decide (0 < level) && decide (s.level ≤ level)

def passes (s : Setup) (r : Record) : Bool := s.passesLevel r.level

/-- The record that a call of a logger makes; none is made for a level that is
not written. -/
def record? (s : Setup) (logger level message extra : Value) :
    Except Fault (Option Record) := do
  let logger ← loggerOf logger
  let level ← match level with
    | .int n => .ok n
    | .bool b => .ok (if b then 1 else 0)
    | _ => .error .levelNotInteger
  if !s.passesLevel level then return none
  let fields := givenFields extra
  if let some (name, _) := fields.find? fun field => reservedFields.contains field.1 then
    throw (.reservedField name)
  return some ⟨level, logger, ← message.spelled, fields⟩

def consoleLine (s : Setup) (time : String) (r : Record) : Except Fault String :=
  let source := Source.ofRecord time s.host r
  if s.json then source.jsonLine else .ok source.plainLine

def fileLine (s : Setup) (time : String) (r : Record) : Except Fault String :=
  let source := Source.ofRecord time s.host r
  if s.json then source.jsonLine
  else { source with extra := source.extra ++ [("asctime", Value.text time)] }.jsonLine

def written (lines : List String) : String :=
  String.join (lines.map (· ++ "\n"))

def console (s : Setup) (time : String) (records : List Record) : Except Fault String := do
  return written (← (records.filter s.passes).mapM (s.consoleLine time))

def fileText (s : Setup) (time : String) (records : List Record) : Except Fault String := do
  return written (← (records.filter s.passes).mapM (s.fileLine time))

/-- The handlers of a setup: for each what it writes to and how. -/
def handlers (s : Setup) : List (String × String) :=
  ("StreamHandler", if s.json then "JSONFormatter" else "Formatter") ::
    (match s.file with | some _ => [("FileHandler", "JSONFormatter")] | none => [])

end Setup

end DocLedger.Log
