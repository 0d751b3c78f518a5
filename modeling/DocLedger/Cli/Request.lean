import DocLedger.Cli.Grammar
import DocLedger.Number.Written

/-!
# Requests

A command line asks for one thing.  The words before the command say which
repository and engine it is about and what is logged; the words after it are
read only when the logging has been set up.
-/

namespace DocLedger.Cli

/-- What holds for every command. -/
structure Session where
  repo : String
  executable : Option String
  autoSync : Bool
  logLevel : String
  jsonLogs : Bool
deriving Repr, DecidableEq

/-- A request. -/
inductive Request
  | docGet (collection docId : String)
  | docPut (collection docId : String) (payload file : Option String)
  | docPatch (collection docId : String) (ops file : Option String)
  | docDelete (collection docId : String)
  | docLog (collection docId : String)
  | docRevert (collection docId : String) (txId txHash : Option String)
  | indexSync (db mode : Option String) (batchCommits : Option Int) (fetch : Option Bool)
  | indexWatch (db mode : Option String) (interval jitter batchCommits : Option Int)
      (onlyChanges : Option Bool)
  | indexGet (collection docId : String)
  | push
  | status
  | verify (deep : Bool)
  | exec (args : List String)
deriving Repr, DecidableEq

def valued (names : List String) (about : String) : Flag := ⟨names, about, .takesValue⟩

def switch (on off : String) (about : String) : List Flag :=
  [⟨[on], about, .switches true⟩, ⟨[off], about, .switches false⟩]

def sessionGrammar : Grammar where
  flags := [valued ["--repo", "-r"] "repo", valued ["--bin"] "bin",
    valued ["--log-level"] "log-level", ⟨["--json-logs"], "json-logs", .switches true⟩] ++
    switch "--sync" "--no-sync" "sync"
  isGroup := true
  passesUnknown := false

/-- The words of a group that has no flags of its own. -/
def groupGrammar : Grammar := ⟨[], true, false⟩

def commandGrammar (flags : List Flag) : Grammar := ⟨flags, false, false⟩

/-- The commands, of which two are groups. -/
def commands : List String := ["doc", "index", "push", "status", "verify", "exec"]

/-- Read a line; a line that asks for help stops here. -/
def readLine (g : Grammar) (words : List String) : Except Stop Line := do
  let line ← g.read words
  if line.asksHelp then throw .help
  return line

/-- Read the words before the command: the session, and the command with the
words after it. -/
def readSession (words : List String) : Except Stop (Session × String × List String) := do
  let line ← readLine sessionGrammar words
  match line.arguments with
  | [] => throw .usage
  | command :: rest =>
    if !commands.contains command then throw .usage
    let session : Session := {
      repo := (line.value? "repo").getD "."
      executable := line.value? "bin"
      autoSync := (line.switch? "sync").getD true
      logLevel := (line.value? "log-level").getD "WARNING"
      jsonLogs := (line.switch? "json-logs").getD false }
    return (session, command, rest)

/-- The integer of a flag, if it is set. -/
def integerSetting (line : Line) (about : String) : Except Stop (Option Int) :=
  match line.value? about with
  | none => .ok none
  | some text =>
    match Number.writtenInteger text.toList with
    | .ok n => .ok (some n)
    | .error _ => .error .usage

def documentArguments (line : Line) : Except Stop (String × String) :=
  match line.arguments with
  | [collection, docId] => .ok (collection, docId)
  | _ => .error .usage

def noArguments (line : Line) : Except Stop Unit :=
  if line.arguments.isEmpty then .ok () else .error .usage

def readDocument (words : List String) : Except Stop Request := do
  let line ← readLine groupGrammar words
  match line.arguments with
  | [] => throw .usage
  | command :: rest =>
    let read (flags : List Flag) : Except Stop (Line × String × String) := do
      let line ← readLine (commandGrammar flags) rest
      return (line, ← documentArguments line)
    match command with
    | "get" => do
      let (_, collection, docId) ← read []
      return .docGet collection docId
    | "put" => do
      let (line, collection, docId) ← read [valued ["--payload"] "payload", valued ["--file"] "file"]
      return .docPut collection docId (line.value? "payload") (line.value? "file")
    | "patch" => do
      let (line, collection, docId) ← read [valued ["--ops"] "ops", valued ["--file"] "file"]
      return .docPatch collection docId (line.value? "ops") (line.value? "file")
    | "delete" => do
      let (_, collection, docId) ← read []
      return .docDelete collection docId
    | "log" => do
      let (_, collection, docId) ← read []
      return .docLog collection docId
    | "revert" => do
      let (line, collection, docId) ←
        read [valued ["--tx-id"] "tx-id", valued ["--tx-hash"] "tx-hash"]
      return .docRevert collection docId (line.value? "tx-id") (line.value? "tx-hash")
    | _ => throw .usage

def indexFlags : List Flag :=
  [valued ["--db"] "db", valued ["--mode"] "mode", valued ["--batch-commits"] "batch-commits"]

def readIndex (words : List String) : Except Stop Request := do
  let line ← readLine groupGrammar words
  match line.arguments with
  | [] => throw .usage
  | command :: rest =>
    match command with
    | "sync" => do
      let line ← readLine (commandGrammar (indexFlags ++ switch "--fetch" "--no-fetch" "fetch")) rest
      let batch ← integerSetting line "batch-commits"
      noArguments line
      return .indexSync (line.value? "db") (line.value? "mode") batch (line.switch? "fetch")
    | "watch" => do
      let flags := [valued ["--interval"] "interval", valued ["--jitter"] "jitter"] ++
        switch "--only-changes" "--all-passes" "only-changes"
      let line ← readLine (commandGrammar (indexFlags ++ flags)) rest
      let interval ← integerSetting line "interval"
      let jitter ← integerSetting line "jitter"
      let batch ← integerSetting line "batch-commits"
      noArguments line
      return .indexWatch (line.value? "db") (line.value? "mode") interval jitter batch
        (line.switch? "only-changes")
    | "get" => do
      let line ← readLine (commandGrammar []) rest
      let (collection, docId) ← documentArguments line
      return .indexGet collection docId
    | _ => throw .usage

def readRequest (command : String) (words : List String) : Except Stop Request := do
  match command with
  | "doc" => readDocument words
  | "index" => readIndex words
  | "exec" => do
    let line ← readLine ⟨[], false, true⟩ words
    return .exec line.arguments
  | "verify" => do
    let line ← readLine (commandGrammar [⟨["--deep"], "deep", .switches true⟩]) words
    noArguments line
    return .verify ((line.switch? "deep").getD false)
  | _ => do
    let line ← readLine (commandGrammar []) words
    noArguments line
    return if command == "push" then .push else .status

end DocLedger.Cli
