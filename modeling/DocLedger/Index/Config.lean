import DocLedger.Error
import DocLedger.Value.Compare
import DocLedger.Value.Keywords

/-!
# Index configuration

An index configuration gives a value to each of eight settings.  Settings are
dynamic: only the path of the database and the mode are checked when a
configuration is made, and the interval and the jitter when it is used for a
watch.
-/

namespace DocLedger.Index

/-- The settings of an index. -/
inductive Setting
  | dbPath
  | mode
  | intervalMs
  | jitterMs
  | batchCommits
  | fast
  | fetch
  | onlyChanges
deriving Repr, DecidableEq

namespace Setting

/-- All settings, in the order in which they are listed. -/
def all : List Setting :=
  [dbPath, mode, intervalMs, jitterMs, batchCommits, fast, fetch, onlyChanges]

def name : Setting → String
  | dbPath => "db_path"
  | mode => "mode"
  | intervalMs => "interval_ms"
  | jitterMs => "jitter_ms"
  | batchCommits => "batch_commits"
  | fast => "fast"
  | fetch => "fetch"
  | onlyChanges => "only_changes"

def ofName? (name : String) : Option Setting :=
  all.find? (fun s => s.name == name)

/-- The value that a setting has unless another is given.  There is no default
path. -/
def standard : Setting → Value
  | dbPath => .null
  | mode => .text "state"
  | intervalMs => .int 1000
  | jitterMs => .int 0
  | batchCommits => .int 200
  | fast => .bool true
  | fetch => .bool true
  | onlyChanges => .bool true

end Setting

abbrev Settings := Setting → Value

def Settings.fields (s : Settings) : List (String × Value) :=
  Setting.all.map fun setting => (setting.name, s setting)

def Settings.toValue (s : Settings) : Value :=
  .mapping (s.fields.map fun (name, v) => (.text name, v))

/-- The modes of an index: every transaction, or the latest value of each
document. -/
def modes : List String := ["history", "state"]

/-- A complete configuration of an index. -/
structure Config where
  settings : Settings

namespace Config

/-- The path of the database as it was given. -/
def path (c : Config) : Value := c.settings .dbPath

def dbPath (c : Config) : String := c.path.plain

def mode (c : Config) : String := (c.settings .mode).plain

def toValue (c : Config) : Value := c.settings.toValue

def pathRequired : Failure :=
  .ledger (.configuration "index db path is required" (some "db_path") .null)

/-- Check the path of the database: it must not be blank. -/
def checkPath (v : Value) : Except Failure Unit :=
  if !v.truthy then .error pathRequired
  else if v.overlong then .error (.fault .tooManyDigits)
  else if Text.allBlank v.plain then .error pathRequired
  else .ok ()

/-- What keeps a value from being looked up among words, if anything does; a set
may be looked up. -/
def lookupFault? : Value → Option Fault
  | .set _ => none
  | v => v.keyFault?

def checkWord (allowed : List String) (complaint field : String) (v : Value) :
    Except Failure Unit :=
  match lookupFault? v with
  | some fault => .error (.fault fault)
  | none =>
    match v with
    | .text word =>
      if allowed.contains word then .ok ()
      else .error (.configuration (complaint ++ word) field v)
    | _ => .error (.configuration (complaint ++ v.plain) field v)

def checkMode (v : Value) : Except Failure Unit :=
  checkWord modes "invalid index mode: " "mode" v

/-- The configuration with the given settings, if its path and mode are
valid. -/
def make (s : Settings) : Except Failure Config := do
  checkPath (s .dbPath)
  checkMode (s .mode)
  return ⟨s⟩

def comparedWithZero (c : Value.Comparison) (v : Value) : Except Failure Bool :=
  (Value.compareZero c v).mapError .fault

/-- Check what a continuous watch depends on: a positive interval and a jitter
that is not negative. -/
def checkWatch (c : Config) : Except Failure Unit := do
  if ← comparedWithZero .atMost (c.settings .intervalMs) then
    throw (.configuration "index watch interval must be > 0" "interval_ms"
      (c.settings .intervalMs))
  if ← comparedWithZero .less (c.settings .jitterMs) then
    throw (.configuration "index watch jitter must be >= 0" "jitter_ms" (c.settings .jitterMs))

end Config

end DocLedger.Index
