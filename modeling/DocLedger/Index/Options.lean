import DocLedger.Index.Config

/-!
# Layers of options

A call may override settings of the session.  It hands over options, a mapping
from names of options to values, or nothing at all; a null value means that a
setting is not overridden.  Options of a watch say in addition whether the
engine reports in JSON and how its output is attached.
-/

namespace DocLedger.Index

/-- Overrides of an index or options of a watch. -/
inductive Options
  | overrides (settings : Settings)
  | watch (settings : Settings) (json stdio : Value)

/-- The two kinds of options. -/
inductive OptionsKind
  | overrides
  | watch
deriving Repr, DecidableEq

namespace OptionsKind

def name : OptionsKind → String
  | overrides => "IndexOverrides"
  | watch => "WatchOptions"

def ofName? (name : String) : Option OptionsKind :=
  [overrides, watch].find? fun kind => kind.name == name

def optionNames : OptionsKind → List String
  | overrides => Setting.all.map Setting.name
  | watch => Setting.all.map Setting.name ++ ["json", "stdio"]

/-- The names that options of a kind are made from. -/
def signature (kind : OptionsKind) : Signature := .ofMaker kind.name [] kind.optionNames

end OptionsKind

/-- Settings none of which is set. -/
def unset : Settings := fun _ => .null

/-- The ways to attach the output of a watch. -/
def stdioModes : List String := ["inherit", "pipe"]

/-- Check how the output of a watch is attached. -/
def checkStdio (v : Value) : Except Failure Unit :=
  Config.checkWord stdioModes "invalid stdio mode: " "stdio" v

namespace Options

def kind : Options → OptionsKind
  | overrides _ => .overrides
  | watch .. => .watch

def settings : Options → Settings
  | overrides s => s
  | watch s _ _ => s

def fields : Options → List (String × Value)
  | overrides s => s.fields
  | watch s json stdio => s.fields ++ [("json", json), ("stdio", stdio)]

/-- Options as a value of their own kind. -/
def toRecord (o : Options) : Value := .record o.kind.name o.fields

/-- The settings that are set, by name. -/
def items (o : Options) : List (String × Value) :=
  (Setting.all.filter fun s => !(o.settings s).isNull).map fun s => (s.name, o.settings s)

/-- Options of a kind from entries by name, for names that the kind has. -/
def ofEntries (kind : OptionsKind) (entries : List (Value × Value)) : Except Failure Options :=
  let settings : Settings := fun s => (Value.lookup s.name entries).getD .null
  match kind with
  | .overrides => .ok (overrides settings)
  | .watch => do
    let stdio := (Value.lookup "stdio" entries).getD (.text "inherit")
    checkStdio stdio
    return watch settings ((Value.lookup "json" entries).getD (.bool false)) stdio

/-- Options of a kind built from entries by name, all of which have to be names
of options. -/
def build (kind : OptionsKind) (entries : List (Value × Value)) : Except Failure Options := do
  (kind.signature.check entries).mapError Failure.fault
  ofEntries kind entries

end Options

def Config.signature : Signature :=
  .ofMaker "IndexConfig" [Setting.dbPath.name]
    ((Setting.all.filter (· != Setting.dbPath)).map Setting.name)

/-- A configuration built from entries by name: the path is required, other
settings have their standard values. -/
def Config.ofEntries (entries : List (Value × Value)) : Except Failure Config := do
  (Config.signature.check entries).mapError Failure.fault
  Config.make fun s => Value.argument entries s.name s.standard

/-- A layer of options as callers hand it over. -/
inductive Layer
  | options (o : Options)
  | value (v : Value)

/-- The layer that a value is: options, or anything else. -/
def Layer.ofValue : Value → Layer
  | .record name fields =>
    let given (field : String) : Value := (fields.lookup field).getD .null
    let settings : Settings := fun s => given s.name
    match OptionsKind.ofName? name with
    | some .overrides => .options (.overrides settings)
    | some .watch => .options (.watch settings (given "json") (given "stdio"))
    | none => .value (.record name fields)
  | v => .value v

/-- Put a key into a sorted list of keys. -/
def insertKey (key : Value) : List Value → Except Fault (List Value)
  | [] => .ok [key]
  | k :: rest => do
    if ← Value.compare .less key k then return key :: k :: rest
    return k :: (← insertKey key rest)

/-- The place of the kind of a key in the order in which keys are looked at. -/
def keyRank : Value → Nat
  | .text _ => 1
  | .null => 3
  | k => if k.number?.isSome then 0 else 2

def sortKeys (keys : List Value) : Except Fault (List Value) :=
  let ranked := [0, 1, 2, 3].flatMap fun rank => keys.filter fun k => keyRank k == rank
  ranked.foldlM (fun done k => insertKey k done) []

/-- The texts of some keys, all of which have to be texts. -/
def keyTexts (keys : List Value) : Except Fault (List String) :=
  keys.zipIdx.mapM fun (key, index) =>
    match key with
    | .text s => .ok s
    | v => .error (.notJoinable index v.qualifiedTypeName)

/-- Check that a mapping has no keys but the options of a kind. -/
def checkKnown (kind : OptionsKind) (entries : List (Value × Value)) : Except Failure Unit := do
  let known (key : Value) : Bool :=
    match key with
    | .text s => kind.optionNames.contains s
    | _ => false
  let unknown ← (sortKeys ((entries.map Prod.fst).filter fun k => !known k)).mapError Failure.fault
  if unknown.isEmpty then return ()
  let names ← (keyTexts unknown).mapError Failure.fault
  throw (.configuration ("unknown index option(s): " ++ Text.joined ", " names) "overrides"
    (.list unknown))

/-- The options of a kind that a layer stands for.  Watch options are overrides
too and stay as they are; overrides become watch options with the usual
attachment. -/
def Layer.coerce (kind : OptionsKind) : Layer → Except Failure Options
  | .options (.watch s json stdio) => .ok (.watch s json stdio)
  | .options (.overrides s) =>
    match kind with
    | .overrides => .ok (.overrides s)
    | .watch => .ok (.watch s (.bool false) (.text "inherit"))
  | .value .null => Options.ofEntries kind []
  | .value (.mapping entries) => do
    checkKnown kind entries
    Options.ofEntries kind entries
  | .value (.loop true) => .error
      (.configuration "unknown index option(s): self" "overrides" (.list [.text "self"]))
  | .value v => .error (.ledger (.configuration
      ("overrides must be " ++ kind.name ++ " or a mapping, got " ++ v.typeName)
      (some "overrides") .null))

/-- Settings with those of a layer in front. -/
def Settings.overlay (base layer : Settings) : Settings :=
  fun s => if (layer s).isNull then base s else layer s

def Settings.isUnset (s : Settings) : Bool :=
  Setting.all.all fun setting => (s setting).isNull

/-- A configuration with a layer on top; a layer that sets nothing leaves it as
it is. -/
def Config.resolve (base : Config) (layer : Layer) : Except Failure Config := do
  let options ← layer.coerce .overrides
  if options.settings.isUnset then return base
  Config.make (base.settings.overlay options.settings)

def joinPath (directory name : String) : String :=
  if directory == "" || directory.endsWith "/" then directory ++ name
  else directory ++ "/" ++ name

/-- The name of the database inside a repository. -/
def dbName : String := "index.db"

/-- The default configuration of a session: the database lies in the
repository, and a layer is put on top. -/
def Config.ofSession (repo : String) (layer : Layer) : Except Failure Config := do
  let options ← layer.coerce .overrides
  let base : Settings := fun
    | .dbPath => .text (joinPath repo dbName)
    | s => s.standard
  Config.resolve (← Config.make base) (.options options)

end DocLedger.Index
