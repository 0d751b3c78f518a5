import DocLedger.Log.Record
import DocLedger.Metrics.Registry
import DocLedger.Value.Keywords

/-!
# Named events

Commands, index syncs and watches are reported as named events.  An event is
logged as a record and then counted in the metrics of the client; an amount
that cannot be counted is a fault after the record has been logged.
-/

namespace DocLedger.Log

open Metrics

/-- A quantity of the surroundings: a value, or one that no text shows. -/
inductive Reading
  | known (v : Value)
  | hidden (mask : String)
deriving Repr

namespace Reading

/-- The value that stands for a reading in a record. -/
def value : Reading → Value
  | known v => v
  | hidden mask => .text mask

def text (r : Reading) : String := r.value.plain

/-- The text of a reading, if it can be written. -/
def spelled (r : Reading) : Except Fault String := r.value.spelled

end Reading

def hiddenDuration : Reading := .hidden "<ms>"

def hiddenPid : Reading := .hidden "<pid>"

/-- What can happen to a client.  What a caller reports may be values of any
kind. -/
inductive Event
  | commandCompleted (subcommand : Value) (duration : Reading) (exitCode : Value)
  | commandFailed (subcommand error exitCode : Value)
  | indexSynced (mode txsApplied docsUpserted docsDeleted reset lastCommit : Value)
  | watchStarted (pid : Reading) (intervalMs jitterMs : Value)
  | watchStopped (pid : Reading) (returncode : Value)
deriving Repr

def optionalText : Option String → Value
  | some s => .text s
  | none => .null

def optionalInt : Option Int → Value
  | some n => .int n
  | none => .null

/-- The digits of a number with one behind the point. -/
def tenths (v : Value) : Except Fault String :=
  match v.amount? with
  | some (.decimal d) => .ok (String.ofList (d.fixed 1))
  | some amount =>
    match amount.toDouble? with
    | some x => .ok (String.ofList (Number.oneDecimal x))
    | none => .error .doubleOverflow
  | none =>
    match v with
    | .moment _ => .ok ".1f"
    | .text _ => .error (.notFixedPoint v.qualifiedTypeName)
    | _ => .error (.noFormat v.qualifiedTypeName)

/-- A duration in milliseconds with one digit after the point. -/
def durationText : Reading → Except Fault String
  | .hidden mask => .ok mask
  | .known v => (tenths v).map (· ++ "ms")

/-- A duration in seconds; one that is not known counts as an instant. -/
def durationSeconds : Reading → Except Fault Value
  | .hidden _ => .ok (.float 0.0)
  | .known v =>
    match v.amount? with
    | some (.decimal _) => .error (.notAddable "/" v.qualifiedTypeName "float")
    | some amount =>
      match amount.toDouble? with
      | some x => .ok (.float (x / 1000.0))
      | none => .error .doubleOverflow
    | none => .error (.notAddable "/" v.qualifiedTypeName "float")

namespace Event

def name : Event → String
  | commandCompleted .. => "command_completed"
  | commandFailed .. => "command_failed"
  | indexSynced .. => "index_synced"
  | watchStarted .. => "watch_started"
  | watchStopped .. => "watch_stopped"

/-- The arguments from which an event of a name is made. -/
def signature? (name : String) : Option Signature :=
  let made (required optional : List String) : Option Signature :=
    some (.ofMethod ("ClientLogger." ++ name) required optional)
  match name with
  | "command_completed" => made ["subcommand", "duration_ms"] ["exit_code"]
  | "command_failed" => made ["subcommand", "error"] ["exit_code"]
  | "index_synced" =>
    made ["mode", "txs_applied", "docs_upserted", "docs_deleted", "reset", "last_commit"] []
  | "watch_started" => made ["pid", "interval_ms", "jitter_ms"] []
  | "watch_stopped" => made ["pid", "returncode"] []
  | _ => none

def ofArguments (name : String) (arguments : List (Value × Value)) : Event :=
  let given (name : String) (otherwise : Value := .null) : Value :=
    Value.argument arguments name otherwise
  match name with
  | "command_completed" =>
    .commandCompleted (given "subcommand") (.known (given "duration_ms"))
      (given "exit_code" (.int 0))
  | "command_failed" => .commandFailed (given "subcommand") (given "error") (given "exit_code")
  | "index_synced" =>
    .indexSynced (given "mode") (given "txs_applied") (given "docs_upserted")
      (given "docs_deleted") (given "reset") (given "last_commit")
  | "watch_started" =>
    .watchStarted (.known (given "pid")) (given "interval_ms") (given "jitter_ms")
  | _ => .watchStopped (.known (given "pid")) (given "returncode")

/-- The event of a name that is made from arguments by name. -/
def ofCall (name : String) (arguments : List (Value × Value)) : Except Fault Event :=
  match signature? name with
  | none => .error (.noAttribute "ClientLogger" name)
  | some signature => (signature.check arguments).map fun _ => ofArguments name arguments

def level : Event → Level
  | commandCompleted .. => debug
  | commandFailed .. => warning
  | _ => info

def message : Event → Except Fault String
  | commandCompleted subcommand duration _ => do
    return "ledgerdb " ++ (← subcommand.spelled) ++ " completed in " ++ (← durationText duration)
  | commandFailed subcommand error _ => do
    return "ledgerdb " ++ (← subcommand.spelled) ++ " failed: " ++ (← error.spelled)
  | indexSynced _ applied upserted deleted _ _ => do
    return "Index sync applied=" ++ (← applied.spelled) ++ ", upserted=" ++ (← upserted.spelled) ++
      ", deleted=" ++ (← deleted.spelled)
  | watchStarted pid interval _ => do
    return "Index watch started (pid=" ++ (← pid.spelled) ++ ", interval=" ++ (← interval.spelled) ++
      "ms)"
  | watchStopped pid returncode => do
    return "Index watch stopped (pid=" ++ (← pid.spelled) ++ ", returncode=" ++
      (← returncode.spelled) ++ ")"

/-- The fields of an event, without its name. -/
def details : Event → List (String × Value)
  | commandCompleted subcommand duration exitCode =>
    [("subcommand", subcommand), ("duration_ms", duration.value), ("exit_code", exitCode)]
  | commandFailed subcommand error exitCode =>
    [("subcommand", subcommand), ("error", error), ("exit_code", exitCode)]
  | indexSynced mode applied upserted deleted reset lastCommit =>
    [("mode", mode), ("txs_applied", applied), ("docs_upserted", upserted),
      ("docs_deleted", deleted), ("reset", reset), ("last_commit", lastCommit)]
  | watchStarted pid interval jitter =>
    [("pid", pid.value), ("interval_ms", interval), ("jitter_ms", jitter)]
  | watchStopped pid returncode =>
    [("pid", pid.value), ("returncode", returncode)]

def record (logger : String) (e : Event) : Except Fault Record := do
  return ⟨e.level, logger, ← e.message, ("event", .text e.name) :: e.details⟩

end Event

/-- The metrics of a client. -/
structure ClientMetrics where
  commands : Counter
  latency : Histogram
  txsApplied : Counter
  watches : Gauge
deriving Repr

namespace ClientMetrics

/-- The metrics of a client that has done nothing. -/
def fresh : ClientMetrics where
  commands := ⟨⟨"ledgerdb_commands_total",
    "Engine invocations by subcommand and outcome", ["subcommand", "status"]⟩, []⟩
  latency := ⟨⟨"ledgerdb_command_latency_seconds",
    "Wall time of run-to-completion engine invocations", ["subcommand"]⟩, standardBounds, []⟩
  txsApplied := ⟨⟨"ledgerdb_index_txs_applied_total",
    "Transactions applied to the local index by one-shot syncs", ["mode"]⟩, []⟩
  watches := ⟨⟨"ledgerdb_watch_processes_active",
    "Index watch processes currently alive", []⟩, []⟩

/-- The metrics as a registry, in the order of their registration. -/
def registry (m : ClientMetrics) : Registry :=
  ⟨"ledgerdb", [.counter m.commands, .histogram m.latency, .counter m.txsApplied, .gauge m.watches]⟩

def count (m : ClientMetrics) : Event → Option Fault × ClientMetrics
  | .commandCompleted subcommand duration _ =>
    match m.commands.inc (.int 1) [("subcommand", subcommand), ("status", .text "success")] with
    | .error fault => (some fault, m)
    | .ok commands =>
      let m := { m with commands := commands }
      match durationSeconds duration with
      | .error fault => (some fault, m)
      | .ok seconds =>
        let (fault, latency) := m.latency.observe seconds [("subcommand", subcommand)]
        (fault, { m with latency := latency })
  | .commandFailed subcommand _ _ =>
    match m.commands.inc (.int 1) [("subcommand", subcommand), ("status", .text "failed")] with
    | .error fault => (some fault, m)
    | .ok commands => (none, { m with commands := commands })
  | .indexSynced mode applied _ _ _ _ =>
    match m.txsApplied.inc applied [("mode", mode)] with
    | .error fault => (some fault, m)
    | .ok txsApplied => (none, { m with txsApplied := txsApplied })
  | .watchStarted .. =>
    match m.watches.inc (.int 1) [] with
    | .error fault => (some fault, m)
    | .ok watches => (none, { m with watches := watches })
  | .watchStopped .. =>
    match m.watches.dec (.int 1) [] with
    | .error fault => (some fault, m)
    | .ok watches => (none, { m with watches := watches })

end ClientMetrics

/-- What has been logged, in order, and the metrics. -/
structure Journal where
  records : List Record
  metrics : ClientMetrics
deriving Repr

namespace Journal

def fresh : Journal := ⟨[], ClientMetrics.fresh⟩

def log (j : Journal) (r : Record) : Journal := { j with records := j.records ++ [r] }

def report (j : Journal) (logger : String) (e : Event) : Option Fault × Journal :=
  match e.record logger with
  | .error fault => (some fault, j)
  | .ok r =>
    let (fault, metrics) := j.metrics.count e
    (fault, { j.log r with metrics := metrics })

end Journal

end DocLedger.Log
