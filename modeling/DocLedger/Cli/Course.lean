import DocLedger.Cli.Commands
import DocLedger.Client.Fleet

/-!
# The course of a command that follows a watch

The command reads the output of the watch piece by piece, prints the reports that
each piece completes, and at the end of the output waits for the engine to end.
When this is done, and also when anything goes wrong on the way, the command leaves
the block that the watch was opened for.  That stops the watch, and once the stop is
complete the command goes on with what is left to do.

`followWatch` runs a command to its end at once.  Here it goes its way turn by turn:
between two of its turns the child may end and the stop may go on, and the command
may be broken off at any moment before it leaves.
-/

namespace DocLedger.Cli

open Engine (Bytes)

/-- How a command comes to leave the watch that it follows. -/
inductive Parting
  /-- The engine has ended by itself, with an exit status. -/
  | ended (code : Int)
  /-- The output cannot be read any further. -/
  | failed (f : Failure)
  /-- Printing has failed, or the command has been broken off. -/
  | broken (leave : Leave)

/-- What is left to do once the watch has been stopped. -/
def Parting.job (w : World) : Parting → Job Int
  | ended code => pure code
  | failed f => Job.fail w f
  | broken leave => throw leave

/-- How far a command that follows a watch has come.  It waits and leaves as one of
the callers of the watch. -/
inductive Stage
  | reads (decoder : Stream.Decoder)
  | waits (caller : Nat)
  | leaves (caller : Nat) (parting : Parting)
  | finished (result : Except Leave Int)

/-- A command that follows a watch. -/
structure Course where
  handle : Watch.Handle
  session : Watch.Session
  stage : Stage
  progress : Progress

/-- What may happen next. -/
inductive Turn
  /-- The command reads a piece of the output; at the end of the output it is empty. -/
  | read (piece : Bytes)
  /-- The command is broken off while it reads, prints or waits. -/
  | breakOff (leave : Leave)
  /-- What the command waits for is there, and it goes on. -/
  | goOn
  /-- The stop begins. -/
  | begin
  /-- The child ends, by itself or because of a signal. -/
  | exit (code : Int)
  /-- The stop has waited long enough for the child to terminate. -/
  | expire
  /-- The stop sees that the child has ended. -/
  | finish

def printReports (w : World) (reports : List Value) : Job Unit :=
  reports.forM fun report => Job.printTable w (syncPass (Report.SyncPass.ofReport report))

namespace Course

/-- An event of the watch, which is made known. -/
def happen (c : Course) (event : Watch.Event) : Option Course := do
  let (session, new) ← c.session.step event
  let (_, scene) := (c.handle.announce new).runIn c.progress.scene
  return { c with session, progress := { c.progress with scene } }

def call (c : Course) (call : Watch.Call) (stage : Nat → Stage) : Option Course := do
  let next ← c.happen (.call call)
  return { next with stage := stage c.session.callers.length }

def leave (c : Course) (parting : Parting) : Option Course :=
  c.call .leave fun caller => .leaves caller parting

/-- Enter the block in which a watch is followed. -/
def enter (h : Watch.Handle) (progress : Progress) : Option Course :=
  let c : Course :=
    ⟨h, ⟨h.life, none, []⟩, .reads (Stream.Decoder.fresh Stream.standardLimit), progress⟩
  match h.reportOutput with
  | .ok _ => some c
  | .error f => c.leave (.failed f)

/-- Print the reports in some documents, and leave at the first thing that is wrong. -/
def display (w : World) (c : Course) (documents : List Value) : Option Course :=
  let (reports, failure, _) := Watch.takeReports none 0 documents
  let (printed, progress) := (printReports w reports).runIn c.progress
  let c := { c with progress }
  match printed, failure with
  | .error leave, _ => c.leave (.broken leave)
  | .ok (), some f => c.leave (.failed f)
  | .ok (), none => some c

def read (w : World) (c : Course) (decoder : Stream.Decoder) (piece : Bytes) : Option Course :=
  if piece.isEmpty then
    match decoder.close.1 with
    | .ok () => c.call .wait .waits
    | .error fault => c.leave (.failed fault.toFailure)
  else
    match decoder.feedBytes piece with
    | (.ok documents, next) => { c with stage := .reads next }.display w documents
    | (.error fault, _) => c.leave (.failed fault.toFailure)

/-- One turn.  A turn that is impossible leaves no course. -/
def step (w : World) (c : Course) : Turn → Option Course
  | .read piece =>
    match c.stage with
    | .reads decoder => c.read w decoder piece
    | _ => none
  | .breakOff leave =>
    match c.stage with
    | .reads _ => c.leave (.broken leave)
    | .waits caller => do (← c.happen (.cancel caller)).leave (.broken leave)
    | _ => none
  | .goOn =>
    match c.stage with
    | .waits caller => do
      let next ← c.happen (.resume caller)
      let code ← next.session.life.standing.returncode
      next.leave (.ended code)
    | .leaves caller parting => do
      let next ← c.happen (.resume caller)
      let (result, progress) := (parting.job w).runIn next.progress
      return { next with progress, stage := .finished result }
    | _ => none
  | .begin => c.happen .begin
  | .exit code => c.happen (.exit code)
  | .expire => c.happen .expire
  | .finish => c.happen .finish

/-- Several turns, one after another. -/
def run (w : World) (c : Course) : List Turn → Option Course
  | [] => some c
  | turn :: turns => do
    let next ← c.step w turn
    next.run w turns

/-- Whether the child of the watch has not ended. -/
def running (c : Course) : Bool := c.session.life.standing.running

end Course

end DocLedger.Cli
