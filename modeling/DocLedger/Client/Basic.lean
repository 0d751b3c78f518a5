import DocLedger.Client.Operation
import DocLedger.Engine.Transport
import DocLedger.Index.Options

/-!
# Clients

A client works on one repository through a transport.  It never changes once it
is made.  Carrying out an operation calls the engine once, in the directory of
the repository, and decodes the answer.
-/

namespace DocLedger

open Engine (Action Completed Environment Invocation Transport)

/-- A client of a repository.  Whether its writes are exchanged with the remote at
once is the value that was given for it.  Its room is what the stack of its callers
leaves for the containers of a payload. -/
structure Client where
  repo : String
  transport : Transport
  autoSync : Value
  env : Environment
  index : Index.Config
  room : Nat

namespace Client

def logger : String := "ledgerdb.client"

/-- The path of a repository that a value gives; it must not be blank. -/
def repoPath (v : Value) : Except Failure String :=
  let required := Failure.configuration "repoPath is required" "repo_path" v
  if !v.truthy then .error required
  else if v.overlong then .error (.fault .tooManyDigits)
  else if Text.allBlank v.plain then .error required
  else .ok v.plain

/-- Make a client.  The repository is checked first, then the transport, then
the configuration of the index. -/
def make (repo : Value) (transport : Except Failure Transport) (env : Environment)
    (autoSync : Value) (index : Index.Layer) : Except Failure Client := do
  let path ← repoPath repo
  let transport ← transport
  let config ← Index.Config.ofSession path index
  return ⟨path, transport, autoSync, env, config, Command.callerRoom⟩

def shown (c : Client) : String :=
  "LedgerClient(repo_path=" ++ Text.Quoted.string c.repo ++ ", binary_path=" ++
    Text.Quoted.string c.transport.executable ++ ")"

def vector (c : Client) (words : Command.Vector) (write json : Bool) : Command.Vector :=
  Command.base (.text c.repo) json write c.autoSync.truthy ++ words

/-- An argument vector as an invocation in the repository. -/
def invocation (c : Client) (args : Command.Vector) : Invocation :=
  ⟨args, some c.repo, some c.env⟩

def operationVector (c : Client) (op : Operation) : Except Failure Command.Vector := do
  return c.vector (← op.words c.room) op.writes op.model?.isSome

/-- Decode what a run of the engine for an operation left. -/
def decode (op : Operation) (run : Completed) : Except Failure Answer :=
  match op.model? with
  | none => .ok (.output run.stdout)
  | some model => do
    let report ← Report.decode model run.args run.stdout run.stderr
    match op with
    | .log .. => return .entries (Report.listField report "entries")
    | _ => return .report model report

def perform (c : Client) (op : Operation) : Action Answer := do
  match op.warning? with
  | some warning => Action.log (.note Log.warning logger warning)
  | none => pure ()
  let args ← Action.ofExcept (c.operationVector op)
  let run ← c.transport.run (c.invocation args)
  Action.ofExcept (decode op run)

end Client

end DocLedger
