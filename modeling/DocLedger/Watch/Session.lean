import DocLedger.Watch.Handle

/-!
# A watch and its callers

Any number of callers may stop a watch, leave it or wait for it at the same
time.  Each is given up at any moment while it waits, and goes on once what it
waits for is there.  Meanwhile the stop that the callers share goes its way and
the child ends when it likes.

A run of a session is a list of events in any order.  It leaves a history: what
was asked, sent, seen and returned, one after the other.
-/

namespace DocLedger.Watch

open Engine (Signal Standing)

/-- What a caller asks of a watch. -/
inductive Call
  | stop (patience : Int)
  /-- Leave the block that the watch was opened for, which stops it. -/
  | leave
  | wait
deriving Repr, DecidableEq

namespace Call

/-- How long a stop that this call begins waits for the child to terminate. -/
def patience? : Call → Option Int
  | stop patience => some patience
  | leave => some standardPatience
  | wait => none

/-- What the call returns when the child has ended with an exit status. -/
def result : Call → Option Int → Option Int
  | leave, _ => none
  | _, returncode => returncode

end Call

/-- A caller and whether it still waits. -/
structure Caller where
  call : Call
  waiting : Bool
deriving Repr, DecidableEq

/-- A watch with its callers, in the order in which they called.  The patience
is that of the call that began the stop. -/
structure Session where
  life : Lifecycle
  patience : Option Int
  callers : List Caller
deriving Repr, DecidableEq

/-- What may happen next in a session. -/
inductive Event
  | call (call : Call)
  /-- A caller that waits is given up. -/
  | cancel (caller : Nat)
  /-- A caller that waits goes on. -/
  | resume (caller : Nat)
  /-- The stop begins. -/
  | begin
  /-- The child ends, by itself or because of a signal. -/
  | exit (code : Int)
  /-- The stop has waited long enough for the child to terminate. -/
  | expire
  /-- The stop sees that the child has ended. -/
  | finish
deriving Repr, DecidableEq

/-- What happened in a session. -/
inductive Occurrence
  | called (call : Call)
  | cancelled (call : Call)
  | returned (call : Call) (value : Option Int)
  | sent (signal : Signal)
  | ended (code : Int)
  | expired (patience : Int)
  | told (notice : Notice)
deriving Repr, DecidableEq

namespace Occurrence

/-- What an occurrence makes known. -/
def notice? : Occurrence → Option Notice
  | .told notice => some notice
  | _ => none

/-- Whether a caller who waited for the child got its exit status. -/
def awaited : Occurrence → Bool
  | .returned .wait _ => true
  | _ => false

end Occurrence

/-- What happens to the child or to the clock with a move. -/
def Move.cause (patience : Option Int) : Move → List Occurrence
  | .exit code => [.ended code]
  | .expire => patience.toList.map .expired
  | _ => []

namespace Session

/-- A session over a child just started, before anybody calls. -/
def fresh : Session := ⟨.fresh .fresh, none, []⟩

/-- The signals sent on the way from one life of a watch to the next. -/
def sentBetween (before after : Lifecycle) : List Signal :=
  after.standing.sent.drop before.standing.sent.length

def make (s : Session) (move : Move) : Option (Session × List Occurrence) := do
  let (next, notices) ← s.life.step move
  return ({ s with life := next },
    move.cause s.patience ++ notices.map .told ++ (sentBetween s.life next).map .sent)

def take (s : Session) (call : Call) : Option (Session × List Occurrence) :=
  let called := { s with callers := s.callers ++ [⟨call, true⟩] }
  match call.patience? with
  | none => some (called, [.called call])
  | some patience => do
    let patience := if s.life.phase = .idle then some patience else s.patience
    let (next, made) ← { called with patience }.make .request
    return (next, .called call :: made)

/-- The call of a caller that still waits. -/
def waiting? (s : Session) (caller : Nat) : Option Call :=
  s.callers[caller]?.bind fun c => if c.waiting then some c.call else none

/-- A caller no longer waits. -/
def release (s : Session) (caller : Nat) : Session :=
  { s with callers := s.callers.modify caller fun c => { c with waiting := false } }

/-- A caller goes on: one that waits for the child once that has ended, any other
once the stop is complete. -/
def resume (s : Session) (caller : Nat) (call : Call) : Option (Session × List Occurrence) :=
  match call with
  | .wait => do
    let (next, made) ← s.make .notice
    return (next.release caller, made ++ [.returned call (call.result s.life.standing.returncode)])
  | _ => do
    let outcome ← s.life.outcome?
    return (s.release caller, [.returned call (call.result outcome)])

/-- One event of a session.  An event that cannot happen leaves no session. -/
def step (s : Session) : Event → Option (Session × List Occurrence)
  | .call call => s.take call
  | .cancel caller => do
    let call ← s.waiting? caller
    return (s.release caller, [.cancelled call])
  | .resume caller => do
    let call ← s.waiting? caller
    s.resume caller call
  | .begin => s.make .begin
  | .exit code => s.make (.exit code)
  | .expire => s.make .expire
  | .finish => s.make .finish

/-- Several events, one after another, and the history that they leave. -/
def run (s : Session) : List Event → Option (Session × List Occurrence)
  | [] => some (s, [])
  | event :: events => do
    let (next, new) ← s.step event
    let (last, later) ← next.run events
    return (last, new ++ later)

end Session

end DocLedger.Watch
