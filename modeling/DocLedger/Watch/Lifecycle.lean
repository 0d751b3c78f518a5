import DocLedger.Engine.Child

/-!
# The life of a watch

Several callers may ask for the stop of a watch, wait for its child, and be
given up while they wait, and the child may end by itself at any time.  All
callers share one stop.  It asks the child to terminate, kills it if that takes
too long, and completes once the child has ended.  The first of the stop and
the callers that wait to see the end of the child reports it, and no other
does.

`Lifecycle.step` makes one move.  Between two moves anything may happen, so a
run of a watch is a list of moves in any order.
-/

namespace DocLedger.Watch

open Engine (Signal Standing)

/-- How far the stop of a watch has come. -/
inductive Phase
  | idle
  | requested
  | terminating
  | killing
  | done (returncode : Option Int)
deriving Repr, DecidableEq

/-- The state of a watch: what has happened to its child, how far the stop has
come, and whether the end of the child has been reported. -/
structure Lifecycle where
  standing : Standing
  phase : Phase
  reported : Bool
deriving Repr, DecidableEq

/-- The moves of a watch. -/
inductive Move
  /-- A caller asks for the stop. -/
  | request
  /-- The stop begins. -/
  | begin
  /-- The child ends, by itself or because of a signal. -/
  | exit (code : Int)
  /-- The stop has waited long enough for the child to terminate. -/
  | expire
  /-- The stop sees that the child has ended. -/
  | finish
  /-- A caller who waits for the child sees that it has ended. -/
  | notice
deriving Repr, DecidableEq

/-- What a move makes known. -/
inductive Notice
  | terminating
  | ignored
  | stopped (returncode : Option Int)
deriving Repr, DecidableEq

namespace Lifecycle

/-- The life of a watch over a child, before anything is asked of it. -/
def fresh (standing : Standing) : Lifecycle := ⟨standing, .idle, false⟩

/-- Report the end of the child, once. -/
def report (l : Lifecycle) : Lifecycle × List Notice :=
  if l.reported then (l, []) else ({ l with reported := true }, [.stopped l.standing.returncode])

def complete (l : Lifecycle) : Lifecycle × List Notice :=
  let (told, notices) := l.report
  ({ told with phase := .done told.standing.returncode }, notices)

/-- Make a move.  A move that cannot be made leaves no state. -/
def step (l : Lifecycle) : Move → Option (Lifecycle × List Notice)
  | .request =>
    if l.phase = .idle then some ({ l with phase := .requested }, []) else some (l, [])
  | .begin =>
    if l.phase = .requested then
      if l.standing.running then
        some ({ l with standing := l.standing.signal .terminate, phase := .terminating },
          [.terminating])
      else some l.complete
    else none
  | .exit code =>
    if l.standing.running then some ({ l with standing := l.standing.exit code }, []) else none
  | .expire =>
    if l.phase = .terminating then
      some ({ l with standing := l.standing.signal .kill, phase := .killing }, [.ignored])
    else none
  | .finish =>
    if l.standing.running then none
    else if l.phase = .terminating ∨ l.phase = .killing then some l.complete
    else none
  | .notice => if l.standing.running then none else some l.report

/-- Make several moves, one after another. -/
def run (l : Lifecycle) : List Move → Option (Lifecycle × List Notice)
  | [] => some (l, [])
  | move :: moves => do
    let (next, notices) ← l.step move
    let (last, more) ← next.run moves
    return (last, notices ++ more)

/-- What a call that asked for the stop returns, once the stop is complete. -/
def outcome? (l : Lifecycle) : Option (Option Int) :=
  match l.phase with
  | .done returncode => some returncode
  | _ => none

end Lifecycle

end DocLedger.Watch
