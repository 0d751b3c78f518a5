import DocLedger.Client.Basic
import DocLedger.Host.Files
import DocLedger.Watch.Handle

/-!
# Keeping the index in step

A client brings the index of its repository up to date, once or continuously.
The configuration of the session is merged with the options of the call and
checked before the engine is started.  One pass is reported and counted; a
continuous watch belongs to the caller, who has to stop it.
-/

namespace DocLedger.Client

open Engine (Action Completed)

def indexLogger : String := "ledgerdb.index.controller"

def resolve (c : Client) (layer : Index.Layer) : Except Failure Index.Config :=
  c.index.resolve layer

/-- The argument vector for an index; such a vector never leaves out the
exchange with the remote. -/
def indexVector (c : Client) (task : Command.IndexTask) (config : Index.Config) (json : Bool) :
    Except Failure Command.Vector := do
  return Command.base (.text c.repo) json false true ++ (← Command.index task config)

/-- The configuration and the argument vector of one pass. -/
def syncPlan (c : Client) (layer : Index.Layer) : Except Failure (Index.Config × Command.Vector) := do
  let config ← c.resolve layer
  return (config, ← c.indexVector .sync config true)

def syncEvent (config : Index.Config) (pass : Report.SyncPass) : Log.Event :=
  .indexSynced (.text config.mode) (.int pass.txsApplied) (.int pass.docsUpserted)
    (.int pass.docsDeleted) (.bool pass.reset) (Log.optionalText pass.lastCommit)

/-- Report a pass, with a warning when the index was rebuilt. -/
def reportPass (config : Index.Config) (pass : Report.SyncPass) : Action Unit := do
  Action.report indexLogger (syncEvent config pass)
  if pass.reset then
    Action.log (.note Log.warning indexLogger
      ("Index at " ++ config.dbPath ++ " was rebuilt from scratch"))

/-- Decode what a run of the engine for a pass left, and report the pass. -/
def settleSync (config : Index.Config) (run : Completed) : Action Value := do
  let report ← Action.ofExcept (Report.decode .indexSync run.args run.stdout run.stderr)
  reportPass config (.ofReport report)
  return report

/-- Bring the index up to date in one pass and give the report of it. -/
def sync (c : Client) (layer : Index.Layer) : Action Value := do
  let (config, args) ← Action.ofExcept (c.syncPlan layer)
  let run ← c.transport.run (c.invocation args)
  settleSync config run

/-- How a watch is started. -/
structure WatchPlan where
  config : Index.Config
  json : Value
  stdio : Value
  args : Command.Vector

def watchPlan (c : Client) (layer : Index.Layer) : Except Failure WatchPlan := do
  let options ← layer.coerce .watch
  let config ← c.resolve (.options options)
  let (json, stdio) : Value × Value := match options with
    | .watch _ json stdio => (json, stdio)
    | .overrides _ => (.bool false, .text "inherit")
  return ⟨config, json, stdio, ← c.indexVector .watch config json.truthy⟩

def startWatch (c : Client) (layer : Index.Layer) : Action Watch.Handle := do
  let plan ← Action.ofExcept (c.watchPlan layer)
  let child ← c.transport.spawn (c.invocation plan.args) plan.stdio
  Action.report indexLogger (.watchStarted child.pid (plan.config.settings .intervalMs)
    (plan.config.settings .jitterMs))
  return Watch.Handle.start child plan.config plan.json plan.stdio indexLogger

/-- Open an index for reading: the one at a given path, or else that of the
session. -/
def openIndex (c : Client) (files : Host.Files) (given : Value) : Except Failure Index.Reader :=
  let path := if given.truthy then given else c.index.path
  Index.Reader.open path (files.index path.plain)

end DocLedger.Client
