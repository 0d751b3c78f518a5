import DocLedger.Engine.Action

/-!
# Transports

A transport reaches an engine.  It runs the engine to its end and captures what
it wrote, or starts it in attached mode and hands over the child.  The scripted
transport answers from the replies of the scene and starts nothing.
-/

namespace DocLedger.Engine

/-- What a run of the engine left. -/
structure Completed where
  args : Command.Vector
  exitCode : Int
  stdout : String
  stderr : String
deriving Repr

/-- A way to reach an engine. -/
structure Transport where
  executable : String
  run : Invocation → Action Completed
  spawn : Invocation → Value → Action Attached

/-- The process number of every scripted child. -/
def scriptedPid : Int := 4242

/-- A scripted child in attached mode.  One that exits by itself has done so
from the start. -/
def scriptedChild (c : Child) (piped : Bool) : Attached where
  pid := .known (.int scriptedPid)
  output := if piped then some c.stdout else none
  ending := c.ending
  standing :=
    match c.ending with
    | .exits code => Standing.fresh.exit code
    | .lasts _ => Standing.fresh

/-- Whether a way to attach the output pipes it. -/
def pipes (stdio : Value) : Bool :=
  match stdio with
  | .text s => s == "pipe"
  | _ => false

/-- The next reply of a scene; without one the engine writes nothing. -/
def nextReply : Action Reply := do
  let s ← get
  match s.replies with
  | [] => return .output "" ""
  | reply :: rest => do
    set { s with replies := rest }
    return reply

/-- The transport that answers from the replies of the scene. -/
def Transport.scripted (executable : String) : Transport where
  executable := executable
  run invocation := do
    Action.recordCall ⟨invocation, none⟩
    match ← nextReply with
    | .output stdout stderr => return ⟨invocation.args, 0, stdout, stderr⟩
    | .failure e => throw (.ledger e)
    | .interrupt => throw (.fault .interrupt)
  spawn invocation stdio := do
    Action.recordCall ⟨invocation, some stdio⟩
    match (← get).start with
    | .child c => return scriptedChild c (pipes stdio)
    | .refusal cause => throw (.ledger (.spawn executable (some cause)))
    | .interrupt => throw (.fault .interrupt)

end DocLedger.Engine
