import DocLedger.Value.Literal

/-!
# Log records

A record has a level, the name of the logger, a message and fields of its own.
-/

namespace DocLedger.Log

/-- The level of a record, as a number. -/
abbrev Level := Int

/-- The named levels. -/
def debug : Level := 10
@[inherit_doc debug]
def info : Level := 20
@[inherit_doc debug]
def warning : Level := 30
@[inherit_doc debug]
def error : Level := 40
@[inherit_doc debug]
def critical : Level := 50

def levelName (level : Level) : String :=
  if level == 0 then "NOTSET"
  else if level == debug then "DEBUG"
  else if level == info then "INFO"
  else if level == warning then "WARNING"
  else if level == error then "ERROR"
  else if level == critical then "CRITICAL"
  else "Level " ++ toString level

/-- The levels that may be chosen, by name. -/
def levels : List (String × Level) :=
  [("NOTSET", 0), ("DEBUG", debug), ("INFO", info), ("WARN", warning), ("WARNING", warning),
    ("ERROR", error), ("CRITICAL", critical), ("FATAL", critical)]

def namedLevels : List Level := [0, debug, info, warning, error, critical]

/-- What a record shows for the level that a value gives: the name of a number,
or the number of a name. -/
def levelTitle (v : Value) : Except Fault Value :=
  match v.keyFault?, namedLevels.find? fun level => v.same (.int level) with
  | some fault, _ => .error fault
  | none, some level => .ok (.text (levelName level))
  | none, none =>
    match levels.find? fun entry => v.same (.text entry.1) with
    | some (_, level) => .ok (.int level)
    | none => v.spelled.map fun s => .text ("Level " ++ s)

/-- A record of something that happened. -/
structure Record where
  level : Level
  logger : String
  message : String
  extra : List (String × Value)
deriving Repr

def Record.note (level : Level) (logger message : String) : Record := ⟨level, logger, message, []⟩

end DocLedger.Log
