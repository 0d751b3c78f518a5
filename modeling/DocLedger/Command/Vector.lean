import DocLedger.Index.Config
import DocLedger.Text.ShellWords

/-!
# Argument vectors of the engine

Each invocation of the engine has the form: the repository, whether the answer
is JSON, whether a write leaves out the exchange with the remote, and then the
words of a subcommand.  A vector has a label of one or two words under which
it is logged and counted.
-/

namespace DocLedger.Command

def repoFlag : String := "--repo"

/-- An argument vector.  An argument that comes from a caller stays the value
that it is; the engine itself takes texts only. -/
abbrev Vector := List Value

def words (ws : List String) : Vector := ws.map .text

/-- The argument of a vector as a word of a command line.  What counts as nothing
is an empty word; other values are no words. -/
def shellWord : Value → Except Fault String
  | .text s => .ok (Text.ShellWords.quote s)
  | v =>
    if !v.truthy then .ok (Text.ShellWords.quote "")
    else
      match v with
      | .bytes _ => .error .textPattern
      | v => .error (.notTextOrBytes v.qualifiedTypeName)

def shellLine (args : Vector) : Except Fault String :=
  (args.mapM shellWord).map (Text.joined " ")

/-- The texts of a vector, as a child receives them. -/
def texts (args : Vector) : Except Fault (List String) :=
  args.mapM fun
    | .text s => .ok s
    | .bytes bs => .ok (Text.Utf8.decodeString bs)
    | v => .error (.notPath v.qualifiedTypeName)

/-- A flag, where it is set. -/
def flagIf (set : Bool) (flag : String) : Vector := if set then words [flag] else []

/-- The leading flags of every invocation.  Only writes carry the flag that
leaves out the exchange with the remote. -/
def base (repo : Value) (json write autoSync : Bool) : Vector :=
  [.text repoFlag, repo] ++ flagIf json "--json" ++ flagIf (write && !autoSync) "--sync=false"

def document (action collection docId : Value) (extra : Vector) : Vector :=
  [.text "doc", action, collection, docId] ++ extra

/-- A flag with its argument, left out when the argument is empty or nothing. -/
def filledFlag (flag : String) (v : Value) : Vector :=
  if v.truthy then [.text flag, v] else []

/-- The words that rewind a document.  Both selectors are passed on when both
are given. -/
def revert (collection docId txId txHash : Value) : Vector :=
  document (.text "revert") collection docId
    (filledFlag "--tx-id" txId ++ filledFlag "--tx-hash" txHash)

/-- The items of a value that is put together from texts. -/
def joinItems (v : Value) : Except Fault (List Value) :=
  match v.items? with
  | some items => .ok items
  | none => .error .nothingToJoin

/-- The texts of some items, all of which have to be texts. -/
def itemTexts (items : List Value) : Except Fault (List String) :=
  items.zipIdx.mapM fun (item, index) =>
    match item with
    | .text s => .ok s
    | v => .error (.notJoinable index v.qualifiedTypeName)

def applyCollection (name schema indexes : Value) : Except Fault Vector := do
  let leading := [.text "collection", .text "apply", name, .text "--schema", schema]
  if indexes.truthy then
    let names ← itemTexts (← joinItems indexes)
    return leading ++ words ["--indexes", Text.joined "," names]
  return leading

/-- The words that verify the document streams. -/
def verify (deep : Bool) : Vector :=
  words ["integrity", "verify"] ++ flagIf deep "--deep"

/-- The words that collect garbage. -/
def gc (prune : Value) : Vector :=
  words ["maintenance", "gc"] ++ filledFlag "--prune" prune

/-- A flag with the text of a value, left out when the value is null. -/
def valueFlag (flag : String) (v : Value) : Except Fault Vector := do
  if v.isNull then return []
  return words [flag, ← v.spelled]

def snapshot (threshold most : Value) (dryRun : Bool) : Except Fault Vector := do
  let limits ← valueFlag "--threshold" threshold
  let most ← valueFlag "--max" most
  return words ["maintenance", "snapshot"] ++ limits ++ most ++ flagIf dryRun "--dry-run"

/-- What the engine does with an index. -/
inductive IndexTask
  | sync
  | watch
deriving Repr, DecidableEq

namespace IndexTask

def word : IndexTask → String
  | sync => "sync"
  | watch => "watch"

def ofWord (word : Value) : Except Fault IndexTask :=
  match word with
  | .text "sync" => .ok sync
  | .text "watch" => .ok watch
  | v => do throw (.unknownSubcommand (← v.spelled))

end IndexTask

open Index in
/-- The words in which a watch differs from a single sync. -/
def watchWords (config : Config) : Except Failure Vector := do
  config.checkWatch
  let interval ← (config.settings .intervalMs).spelled.mapError Failure.fault
  let jitter ←
    if ← Config.comparedWithZero .greater (config.settings .jitterMs) then do
      let ms ← (config.settings .jitterMs).spelled.mapError Failure.fault
      pure (words ["--jitter", ms ++ "ms"])
    else pure []
  return words ["--interval", interval ++ "ms"] ++ jitter ++
    flagIf (config.settings .onlyChanges).truthy "--only-changes"

open Index in
/-- The words that bound the commits of a database transaction. -/
def batchWords (config : Config) : Except Failure Vector := do
  let batch := config.settings .batchCommits
  if !batch.truthy then return []
  if ← Config.comparedWithZero .greater batch then
    let count ← batch.spelled.mapError Failure.fault
    return words ["--batch-commits", count]
  return []

open Index in
/-- The words of a sync or a watch with a configuration. -/
def index (task : IndexTask) (config : Config) : Except Failure Vector := do
  let watching ←
    match task with
    | .watch => watchWords config
    | .sync => pure []
  let batch ← batchWords config
  return words ["index", task.word, "--db"] ++ config.path :: words ["--mode", config.mode] ++
    watching ++ batch ++ flagIf (config.settings .fast).truthy "--fast" ++
    flagIf (!(config.settings .fetch).truthy) "--fetch=false"

/-- The subcommands that take a second word. -/
def groups : List String := ["doc", "index", "collection", "integrity", "maintenance"]

/-- Whether an argument is a flag; of an argument that is no text this cannot be
said. -/
def isFlag : Value → Except Fault Bool
  | .text s => .ok (s.startsWith "-")
  | .bytes _ => .error .startNotBytes
  | v => .error (.noAttribute v.qualifiedTypeName "startswith")

/-- The first word of a vector that is no flag and does not name the
repository, and what follows it. -/
def firstWord? : Vector → Except Fault (Option (String × Vector))
  | [] => .ok none
  | arg :: rest =>
    if arg.same (.text repoFlag) then
      match rest with
      | [] => .ok none
      | _ :: more => firstWord? more
    else do
      if ← isFlag arg then firstWord? rest
      else return some (arg.plain, rest)

def labelWords (args : Vector) : Except Fault (List String) := do
  match ← firstWord? args with
  | none => return []
  | some (word, rest) =>
    if groups.contains word then
      match ← firstWord? rest with
      | some (second, _) => return [word, second]
      | none => return [word]
    else return [word]

/-- The label of a vector in logs and metrics. -/
def label (args : Vector) : Except Fault String := do
  let words := Text.joined " " (← labelWords args)
  return if words == "" then "ledgerdb" else words

end DocLedger.Command
