import DocLedger.Engine.Transport
import DocLedger.Host.Launch
import DocLedger.Index.Options
import DocLedger.Text.ShellWords

/-!
# The transport of a host

Each call starts one child and nothing is tried twice.  A run captures both
streams of the child, up to a limit for each, and fails when the child exits
with another status than zero.  Each run is counted once: as a success, with
its time, or as a failure.
-/

namespace DocLedger.Host

open Engine (Action Attached Bytes Child Completed Invocation Standing Transport)

def transportLogger : String := "ledgerdb.transport.subprocess_transport"

/-- The most bytes of a stream that a run captures, unless another limit is
given. -/
def standardLimit : Int := 10 * 1024 * 1024

/-- The complaint about a stream that has grown past the limit. -/
def overflowText (channel : Channel) (limit : Int) : String :=
  channel.name ++ " maxBuffer length exceeded (" ++ toString limit ++ " bytes)"

/-- Go on with a result, or fail with its fault. -/
def fromFault {α : Type} (r : Except Fault α) : Action α :=
  Action.ofExcept (r.mapError .fault)

/-- Start a child for a call of the engine. -/
def start (s : System) (executable label : String) (invocation : Invocation) :
    Action Child := do
  let args ← fromFault (Command.texts invocation.args)
  match s.launch executable args invocation.cwd invocation.env with
  | .started c => return c
  | .rejected f => throw (.fault f)
  | .refused r => do
    Action.report transportLogger
      (.commandFailed (.text label) (.text ("failed to start: " ++ r.message)) .null)
    throw (.ledger (.spawn executable (some r.message)))

/-- Report how a run has ended: what it leaves, or why it has failed. -/
def conclude (executable label line : String) (limit : Int) (args : Command.Vector) :
    Outcome → Action Completed
  | .endless => throw (.fault .interrupt)
  | .overflow channel => do
    let complaint := overflowText channel limit
    Action.report transportLogger (.commandFailed (.text label) (.text complaint) .null)
    throw (.ledger (.execution ("Command failed: " ++ line ++ ": " ++ complaint)
      (executable :: args.map Value.plain) none ""))
  | .ended code stdout stderr => do
    let stdout := Text.Utf8.decodeString stdout
    let stderr := Text.Utf8.decodeString stderr
    if code == 0 then
      Action.report transportLogger (.commandCompleted (.text label) Log.hiddenDuration (.int 0))
      return ⟨args, code, stdout, stderr⟩
    else
      let e := LedgerError.execution
        ("Command failed: " ++ line ++ " (exit code " ++ toString code ++ ")")
        (executable :: args.map Value.plain) (some code) stderr
      Action.report transportLogger (.commandFailed (.text label) (.text e.message) (.int code))
      throw (.ledger e)

def run (s : System) (executable : String) (limit : Int) (invocation : Invocation) :
    Action Completed := do
  let label ← fromFault (Command.label invocation.args)
  let line ← fromFault (Command.shellLine (.text executable :: invocation.args))
  Action.log (.note Log.debug transportLogger ("exec " ++ line))
  let c ← start s executable label invocation
  conclude executable label line limit invocation.args (capture limit (s.reads c) c.ending)

/-- Start the engine in attached mode. -/
def spawn (s : System) (executable : String) (invocation : Invocation) (stdio : Value) :
    Action Attached := do
  Action.ofExcept (Index.checkStdio stdio)
  let line ← fromFault (Command.shellLine (.text executable :: invocation.args))
  Action.log (.note Log.debug transportLogger
    ("spawn " ++ line ++ " (stdio=" ++ stdio.plain ++ ")"))
  let label ← fromFault (Command.label invocation.args)
  let c ← start s executable label invocation
  let piped := Engine.pipes stdio
  if !piped then Action.share c.stdout.flatten
  return ⟨Log.hiddenPid, if piped then some c.stdout else none, c.ending, Standing.fresh⟩

def System.transport (s : System) (executable : String) (limit : Int) :
    Except Failure Transport :=
  if limit ≤ 0 then .error (.configuration "max_buffer must be > 0" "max_buffer" (.int limit))
  else .ok {
    executable := executable
    run := run s executable limit
    spawn := spawn s executable }

def transport (m : Machine) (executable : String) (limit : Int) : Except Failure Transport :=
  m.system.transport executable limit

end DocLedger.Host
