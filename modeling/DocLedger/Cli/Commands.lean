import DocLedger.Cli.Job
import DocLedger.Cli.Request
import DocLedger.Cli.View

/-!
# Commands

What each request does.  A client is made first, except that the input of a
write is read before; a client that cannot be made is a failure that nobody
handles.  Errors of the library while the command runs are printed and end it
with status one.
-/

namespace DocLedger.Cli

open Engine (Action)

/-- The exit status after input that is missing or given twice. -/
def inputStatus : Int := 2

def Session.engine (s : Session) (w : World) : String :=
  match s.executable with
  | some path => if path == "" then Engine.executable w.package w.machine.env else path
  | none => Engine.executable w.package w.machine.env

def Session.client (s : Session) (w : World) : Except Failure Client :=
  Client.make (.text s.repo) (w.connect (s.engine w)) w.machine.env (.bool s.autoSync)
    (.value .null)

/-- A text whose lines all end in a line feed. -/
def withLineFeeds : List Char → List Char
  | [] => []
  | c :: cs =>
    if c == '\r' then (if cs.head? == some '\n' then withLineFeeds cs else '\n' :: withLineFeeds cs)
    else c :: withLineFeeds cs

def fileText (files : Host.Files) (path : String) : Except Fault String := do
  let bytes ← files.read (Host.Files.normalPath path)
  match Text.Utf8.decodeStrict bytes with
  | .ok text => return String.ofList (withLineFeeds text.toList)
  | .error m => throw (.malformedText m.message)

/-- The input of a write, inline or from a file. -/
def readInput (w : World) (what : String) (inline file : Option String) : Job String :=
  match inline, file with
  | some _, some _ => do
    Job.complain w (Job.inRed ("Use either --" ++ what ++ " or --file, not both"))
    Job.exit inputStatus
  | _, some path => Job.ofExcept ((fileText w.machine.files path).mapError .fault)
  | none, none => do
    Job.complain w (Job.inRed ("--" ++ what ++ " or --file is required"))
    Job.exit inputStatus
  | some text, none => return text

def operate (w : World) (s : Session) (op : Operation) : Job Answer := do
  let client ← Job.ofExcept (s.client w)
  Job.perform w (client.perform op)

def reportOf : Answer → Value
  | .report _ report => report
  | _ => .null

/-- Carry out a write and show the transaction. -/
def commit (w : World) (s : Session) (op : Operation) : Job Unit := do
  Job.printTable w (committed (reportOf (← operate w s op)))

def showHistory (w : World) (s : Session) (collection docId : String) : Job Unit := do
  match ← operate w s (.log (.text collection) (.text docId)) with
  | .entries (first :: rest) => Job.printTable w (history collection docId (first :: rest))
  | _ => Job.print w "[yellow]No transactions.[/yellow]"

/-- Options from settings, those that are not given being null. -/
def optionEntries (texts : List (String × Option String)) (integers : List (String × Option Int))
    (switches : List (String × Option Bool)) : List (Value × Value) :=
  texts.map (fun (name, v) => (.text name, (v.map Value.text).getD .null)) ++
    integers.map (fun (name, v) => (.text name, (v.map Value.int).getD .null)) ++
    switches.map fun (name, v) => (.text name, (v.map Value.bool).getD .null)

/-- Bring the index up to date and show the pass. -/
def syncIndex (w : World) (s : Session) (entries : List (Value × Value)) : Job Unit := do
  let options ← Job.ofExcept (Index.Options.build .overrides entries)
  let client ← Job.ofExcept (s.client w)
  let report ← Job.perform w (client.sync (.options options))
  Job.printTable w (syncPass (Report.SyncPass.ofReport report))

/-- Stop a watch, whatever has happened to it. -/
def stopWatch (w : World) (h : Watch.Handle) : Job Watch.Handle := do
  return (← Job.perform w (h.terminate Watch.standardPatience)).2

/-- Show the reports of a watch until it ends, and give its exit status. -/
def followWatch (w : World) (h : Watch.Handle) : Job (Int × Watch.Handle) := do
  let (taken, h) := h.results none
  let printed ← Job.attempt (taken.items.forM fun report =>
    Job.printTable w (syncPass (Report.SyncPass.ofReport report)))
  match printed, taken.failure with
  | .error leave, _ => do
    let _ ← stopWatch w h
    throw leave
  | .ok (), some f => do
    let _ ← stopWatch w h
    Job.fail w f
  | .ok (), none => do
    match ← Job.outcome h.wait with
    | .error f => do
      let _ ← stopWatch w h
      Job.fail w f
    | .ok (code, h) => return (code, ← stopWatch w h)

/-- Keep the index up to date until the watch ends. -/
def watchIndex (w : World) (s : Session) (entries : List (Value × Value)) : Job Unit := do
  let client ← Job.ofExcept (s.client w)
  let options ← Job.ofExcept (Index.Options.build .watch
    (entries ++ [(.text "json", .bool true), (.text "stdio", .text "pipe")]))
  let h ← Job.perform w (client.startWatch (.options options))
  Job.print w ("[bold green]Index watch started (pid " ++ h.child.pid.text ++ ")[/bold green]")
  Job.print w "[dim]Press Ctrl+C to stop[/dim]"
  let (code, _) ← followWatch w h
  if code != 0 then
    Job.complain w (Job.inRed ("Index watch exited with code " ++ toString code))
    Job.exit Job.errorStatus

/-- Keep the index up to date until the watch ends or the user interrupts it. -/
def watchUntilInterrupted (w : World) (s : Session) (entries : List (Value × Value)) : Job Unit :=
  tryCatch (watchIndex w s entries) fun
    | .fails (.fault .interrupt) => Job.print w "\n[yellow]Index watch stopped.[/yellow]"
    | leave => throw leave

def readIndexed (w : World) (s : Session) (collection docId : String) : Job Unit := do
  let client ← Job.ofExcept (s.client w)
  let reader ← Job.orFail w (client.openIndex w.machine.files .null)
  let (found, records) := reader.get (.text collection) (.text docId)
  let document ← Job.perform w (do
    records.forM Action.log
    Action.ofExcept found)
  Job.printDocument document

/-- Push, and show what the engine says about it. -/
def push (w : World) (s : Session) : Job Unit := do
  match ← operate w s .push with
  | .output text =>
    if !Text.allBlank text then Job.print w (Text.trimmedEnd text)
  | _ => pure ()
  Job.print w "[green]Push completed[/green]"

/-- Check all document streams.  The check fails when it has found issues. -/
def verify (w : World) (s : Session) (deep : Bool) : Job Unit := do
  let verdict := Report.Integrity.ofReport (reportOf (← operate w s (.verify deep)))
  Job.print w (checkSummary verdict)
  if !verdict.issues.isEmpty then
    Job.printTable w (issueTable verdict.issues)
    Job.exit Job.errorStatus
  Job.print w "[green]Integrity OK[/green]"

/-- Run the engine with the given arguments and exit as it does.  An engine that
a signal has ended makes the status one. -/
def passThrough (w : World) (s : Session) (args : List String) : Job Unit := do
  let transport ← Job.ofExcept (Host.transport w.machine (s.engine w) Host.standardLimit)
  match ← Job.outcome (transport.spawn ⟨Command.words args, none, none⟩ (.text "inherit")) with
  | .error (.ledger e) =>
    match e with
    | .spawn .. => do
      Job.complain w (Console.escape e.message)
      Job.exit Job.errorStatus
    | _ => throw (.fails (.ledger e))
  | .error f => throw (.fails f)
  | .ok child =>
    match child.wait.returncode with
    | some code => Job.exit (if 0 ≤ code then code else Job.errorStatus)
    | none => throw (.fails (.fault .interrupt))

def Request.job (w : World) (s : Session) : Request → Job Unit
  | docGet collection docId => do
    Job.printDocument (reportOf (← operate w s (.get (.text collection) (.text docId))))
  | docPut collection docId payload file => do
    let text ← readInput w "payload" payload file
    commit w s (.put (.text collection) (.text docId) (.text text))
  | docPatch collection docId ops file => do
    let text ← readInput w "ops" ops file
    commit w s (.patch (.text collection) (.text docId) (.text text))
  | docDelete collection docId => commit w s (.delete (.text collection) (.text docId))
  | docLog collection docId => showHistory w s collection docId
  | docRevert collection docId txId txHash =>
    commit w s (.revert (.text collection) (.text docId) (Log.optionalText txId)
      (Log.optionalText txHash))
  | indexSync db mode batchCommits fetch =>
    syncIndex w s (optionEntries [("db_path", db), ("mode", mode)] [("batch_commits", batchCommits)]
      [("fetch", fetch)])
  | indexWatch db mode interval jitter batchCommits onlyChanges =>
    watchUntilInterrupted w s (optionEntries [("db_path", db), ("mode", mode)]
      [("interval_ms", interval), ("jitter_ms", jitter), ("batch_commits", batchCommits)]
      [("only_changes", onlyChanges)])
  | indexGet collection docId => readIndexed w s collection docId
  | push => Cli.push w s
  | status => do Job.printTable w (repositoryStatus (reportOf (← operate w s .status)))
  | verify deep => Cli.verify w s deep
  | exec args => passThrough w s args

end DocLedger.Cli
