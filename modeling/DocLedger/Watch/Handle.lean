import DocLedger.Engine.Action
import DocLedger.Index.Options
import DocLedger.Watch.Lifecycle
import DocLedger.Watch.Output

/-!
# Watches

A watch is the engine at work on an index until it is stopped.  Its handle
reads the reports, waits for the engine to end, and stops it.  The handle only
makes the moves of `Lifecycle`; what each of them makes known is logged.
-/

namespace DocLedger.Watch

open Engine (Action Attached Bytes)

def logger : String := "ledgerdb.index.watch"

/-- A watch: the engine's child, the configuration of the index, whether the
engine reports in JSON, how its output is attached, who reports the end, and
how far the stop has come. -/
structure Handle where
  child : Attached
  config : Index.Config
  json : Value
  stdio : Value
  reporter : String
  phase : Phase
  reported : Bool

/-- How long the stop waits for the engine to terminate, in milliseconds. -/
def standardPatience : Int := 5000

namespace Handle

/-- A watch that has just been started. -/
def start (child : Attached) (config : Index.Config) (json stdio : Value) (reporter : String) :
    Handle :=
  ⟨child, config, json, stdio, reporter, .idle, false⟩

def running (h : Handle) : Bool := h.child.running

/-- The engine's exit status, once it has ended. -/
def returncode (h : Handle) : Option Int := h.child.returncode

def life (h : Handle) : Lifecycle := ⟨h.child.standing, h.phase, h.reported⟩

def withLife (h : Handle) (l : Lifecycle) : Handle :=
  { h with child := { h.child with standing := l.standing }, phase := l.phase,
           reported := l.reported }

/-- Make something known. -/
def tell (h : Handle) : Notice → Action Unit
  | .terminating => Action.log (.note Log.debug logger
      ("Terminating index watch pid=" ++ h.child.pid.text))
  | .ignored => Action.log (.note Log.warning logger
      ("Index watch pid=" ++ h.child.pid.text ++ " ignored SIGTERM, killing"))
  | .stopped returncode => Action.report h.reporter (.watchStopped h.child.pid
      (Log.optionalInt returncode))

/-- Make a move, if it can be made. -/
def move (h : Handle) (m : Move) : Action Handle :=
  match h.life.step m with
  | none => return h
  | some (l, notices) => do
    notices.forM h.tell
    return h.withLife l

/-- Let the engine do what it does about a signal. -/
def respond (h : Handle) (sent : Engine.Signal) : Action Handle :=
  match h.child.answer sent with
  | none => return h
  | some (code, written) => do
    if h.child.output.isNone then Action.share written
    { h with child := h.child.write written }.move (.exit code)

def stop (h : Handle) (patience : Int) : Action Handle := do
  let h ← h.move .begin
  let h ← h.respond .terminate
  let h ← if patience ≤ 0 || h.running then (← h.move .expire).respond .kill else pure h
  h.move .finish

/-- Stop the watch: ask the engine to terminate, and kill it when it does not
within the given time.  The first call stops it; all calls return the exit
status. -/
def terminate (h : Handle) (patience : Int) : Action (Option Int × Handle) := do
  let h ← h.move .request
  let h ← if h.phase = .requested then h.stop patience else pure h
  return (h.returncode, h)

/-- Wait for the engine to end by itself. -/
def wait (h : Handle) : Action (Int × Handle) := do
  let h ←
    match h.child.ending.code? with
    | some code => h.move (.exit code)
    | none => pure h
  match h.returncode with
  | some code => return (code, ← h.move .notice)
  | none => throw (.fault .interrupt)

/-- The output of a watch, where it is piped. -/
def output (h : Handle) : Except Failure (List Bytes) :=
  match h.stdio, h.child.output with
  | .text "pipe", some pieces => .ok pieces
  | _, _ => .error (.configuration
      "watch output is inherited; start the watch with stdio='pipe' to read it" "stdio" h.stdio)

def reportOutput (h : Handle) : Except Failure (List Bytes) :=
  if h.json.truthy then h.output
  else .error (.configuration "watch was started without json output" "json" h.json)

/-- Read an output, as far as it can be had. -/
def taken {α : Type} (h : Handle) (output : Except Failure (List Bytes))
    (read : List Bytes → Taken α) : Taken α × Handle :=
  match output with
  | .error failure => (⟨[], some failure, []⟩, h)
  | .ok pieces =>
    let t := read pieces
    (t, { h with child := { h.child with output := some t.rest } })

/-- Read the output by lines, up to a limit. -/
def lines (h : Handle) (limit : Option Nat) : Taken String × Handle :=
  h.taken h.output (readLines limit)

/-- Read the output by reports, up to a limit. -/
def results (h : Handle) (limit : Option Nat) : Taken Value × Handle :=
  h.taken h.reportOutput (readReports limit)

end Handle

end DocLedger.Watch
