import DocLedger.Client.Indexing
import DocLedger.Console.Table
import DocLedger.Host.Transport
import DocLedger.Json.Printer
import DocLedger.Log.Setup

/-!
# Jobs

A command line does a job.  It prints on a terminal, complains on its second
stream, and works on a scene.  A job may end before it is done, with an exit
status or with a failure that nobody handles; what has been printed by then
stays printed.
-/

namespace DocLedger.Cli

open Engine (Action Scene Transport)

/-- What a command line works in. -/
structure World where
  machine : Host.Machine
  /-- The directory in which the bundled engine lies. -/
  package : String
  /-- The time that log lines show. -/
  time : String
  /-- The name of the host that log lines show. -/
  hostName : String
  /-- The width of the terminal. -/
  width : Nat
  /-- The transport of clients to an executable. -/
  connect : String → Except Failure Transport

/-- How a job ends before it is done. -/
inductive Leave
  | exits (code : Int)
  | fails (f : Failure)

/-- What has come of a job so far. -/
structure Progress where
  scene : Scene
  printed : String
  complaints : String

abbrev Job (α : Type) := ExceptT Leave (StateM Progress) α

namespace Job

/-- A job from some progress on: how it ends and the progress afterwards. -/
def runIn {α : Type} (j : Job α) (p : Progress) : Except Leave α × Progress :=
  (ExceptT.run j).run p

def printLines (lines : List (List Char)) : Job Unit :=
  modify fun p => { p with printed :=
    p.printed ++ String.join (lines.map fun line => String.ofList line ++ "\n") }

/-- Go on with a result; a failure is not handled. -/
def ofExcept {α : Type} : Except Failure α → Job α
  | .ok a => pure a
  | .error f => throw (.fails f)

def markedLines (width : Nat) (markup : String) : Except Fault (List (List Char)) := do
  return Console.wrap width .breaks (← Console.render markup)

def print (w : World) (markup : String) : Job Unit := do
  printLines (← ofExcept ((markedLines w.width markup).mapError .fault))

def printTable (w : World) (t : Console.Table) : Job Unit := do
  printLines (← ofExcept ((t.lines w.width).mapError .fault))

def printDocument (v : Value) : Job Unit :=
  printLines [Json.indented 0 v]

/-- Write marked text on the second stream. -/
def complain (w : World) (markup : String) : Job Unit := do
  let lines ← ofExcept ((markedLines w.width markup).mapError .fault)
  modify fun p => { p with complaints :=
    p.complaints ++ String.join (lines.map fun line => String.ofList line ++ "\n") }

def exit {α : Type} (code : Int) : Job α := throw (.exits code)

def inRed (markup : String) : String := "[red]" ++ markup ++ "[/red]"

def errorStatus : Int := 1

/-- End with a failure: an error of the library is printed, and other failures
are not handled. -/
def fail {α : Type} (w : World) : Failure → Job α
  | .ledger e => do
    complain w (inRed (Console.escape e.text))
    exit errorStatus
  | .fault f => throw (.fails (.fault f))

/-- Go on with a result, or end with its failure. -/
def orFail {α : Type} (w : World) : Except Failure α → Job α
  | .ok a => pure a
  | .error f => fail w f

def outcome {α : Type} (a : Action α) : Job (Except Failure α) := do
  let p ← get
  let (result, scene) := a.runIn p.scene
  set { p with scene := scene }
  return result

/-- Carry out an action, and end with its failure. -/
def perform {α : Type} (w : World) (a : Action α) : Job α := do
  orFail w (← outcome a)

def attempt {α : Type} (j : Job α) : Job (Except Leave α) :=
  tryCatch (Except.ok <$> j) fun leave => pure (.error leave)

end Job

end DocLedger.Cli
