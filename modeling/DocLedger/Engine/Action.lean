import DocLedger.Command.Vector
import DocLedger.Engine.Child
import DocLedger.Engine.Executable
import DocLedger.Error

/-!
# Actions

An action may call the engine, log, count, and fail.  It works on a scene: the
journal, the calls of the engine so far, and what children wrote to the output
that they share with the program.  A failure undoes nothing: what was logged
before it stays logged.
-/

namespace DocLedger.Engine

/-- An invocation of the engine: its arguments, where it is started, and its
environment. -/
structure Invocation where
  args : Command.Vector
  cwd : Option String
  env : Option Environment
deriving Repr

/-- A call of the engine; an attached child has a way to attach its output. -/
structure Call where
  invocation : Invocation
  stdio : Option Value
deriving Repr

/-- What happens when the engine is run to its end, in place of a real run. -/
inductive Reply
  | output (stdout stderr : String)
  | failure (e : LedgerError)
  | interrupt
deriving Repr

/-- What happens when the engine is started, in place of a real start. -/
inductive Start
  | child (c : Child)
  /-- The engine cannot be started, for a reason. -/
  | refusal (cause : String)
  | interrupt
deriving Repr

/-- What actions work on. -/
structure Scene where
  journal : Log.Journal
  calls : List Call
  shared : Bytes
  replies : List Reply
  start : Start
deriving Repr

def Scene.fresh : Scene where
  journal := Log.Journal.fresh
  calls := []
  shared := []
  replies := []
  start := .child ⟨[], [], .lasts .ends⟩

abbrev Action (α : Type) := ExceptT Failure (StateM Scene) α

namespace Action

def log (r : Log.Record) : Action Unit :=
  modify fun s => { s with journal := s.journal.log r }

/-- Report an event; an amount that cannot be counted is a fault after the
event has been logged. -/
def report (logger : String) (e : Log.Event) : Action Unit := do
  let s ← get
  let (fault, journal) := s.journal.report logger e
  set { s with journal := journal }
  match fault with
  | none => return ()
  | some f => throw (.fault f)

def recordCall (call : Call) : Action Unit :=
  modify fun s => { s with calls := s.calls ++ [call] }

/-- Write to the output that children share with the program. -/
def share (bytes : Bytes) : Action Unit :=
  modify fun s => { s with shared := s.shared ++ bytes }

/-- Go on with a result, or fail with its failure. -/
def ofExcept {α : Type} : Except Failure α → Action α
  | .ok a => pure a
  | .error f => throw f

/-- An action in a scene: its outcome and the scene afterwards. -/
def runIn {α : Type} (a : Action α) (s : Scene) : Except Failure α × Scene :=
  (ExceptT.run a).run s

end Action

end DocLedger.Engine
