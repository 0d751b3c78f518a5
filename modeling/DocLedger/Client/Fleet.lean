import DocLedger.Client.Indexing
import DocLedger.Watch.Session

/-!
# Watches side by side

Clients start watches in one scene, and every watch goes its way with its
callers.  A start that fails leaves no watch.  What a watch makes known is logged
at once.

A run of a fleet is a list of happenings in any order: starts, and events of the
watches that have been handed over.
-/

namespace DocLedger

open Engine (Action Scene)

/-- Make known what has happened. -/
def Watch.Handle.announce (h : Watch.Handle) (new : List Watch.Occurrence) : Action PUnit :=
  (new.filterMap Watch.Occurrence.notice?).forM h.tell

namespace Client

/-- A watch that has been handed over, with its callers and what has happened to
it. -/
structure Watched where
  handle : Watch.Handle
  session : Watch.Session
  history : List Watch.Occurrence

namespace Watched

/-- A watch that nobody has called yet. -/
def fresh (handle : Watch.Handle) : Watched := ⟨handle, ⟨handle.life, none, []⟩, []⟩

/-- A watch to which something has happened. -/
def next (w : Watched) (session : Watch.Session) (new : List Watch.Occurrence) : Watched :=
  ⟨w.handle, session, w.history ++ new⟩

/-- Whether the stop or a caller who waits has completed. -/
def settled (w : Watched) : Bool :=
  w.session.life.outcome?.isSome || w.history.any Watch.Occurrence.awaited

/-- The exit status of the child, once it has ended. -/
def returncode (w : Watched) : Option Int := w.session.life.standing.returncode

def running (w : Watched) : Bool := w.session.life.standing.running

end Watched

/-- The watches that have been handed over, in order, the scene that they share,
and what has been logged, with the watch that each record is about. -/
structure Fleet where
  scene : Scene
  watches : List Watched
  log : List (Option Nat × Log.Record)

/-- What may happen next in a fleet. -/
inductive Happening
  /-- A client starts a watch. -/
  | start (c : Client) (layer : Index.Layer)
  /-- Something happens to a watch. -/
  | event (watch : Nat) (event : Watch.Event)

namespace Fleet

/-- A fleet without watches. -/
def fresh (scene : Scene) : Fleet := ⟨scene, [], []⟩

/-- Go on to a later scene.  What has been logged since then is about a watch or
about none. -/
def pass (f : Fleet) (source : Option Nat) (scene : Scene) : Fleet :=
  { f with
    scene
    log := f.log ++ (scene.journal.records.drop f.scene.journal.records.length).map (source, ·) }

def start (f : Fleet) (c : Client) (layer : Index.Layer) : Fleet :=
  match (c.startWatch layer).runIn f.scene with
  | (.ok handle, scene) =>
    { f.pass (some f.watches.length) scene with watches := f.watches ++ [.fresh handle] }
  | (.error _, scene) => f.pass none scene

/-- Let something happen to a watch. -/
def proceed (f : Fleet) (i : Nat) (event : Watch.Event) : Option Fleet := do
  let w ← f.watches[i]?
  let (session, new) ← w.session.step event
  let (_, scene) := (w.handle.announce new).runIn f.scene
  return { f.pass (some i) scene with watches := f.watches.set i (w.next session new) }

/-- One happening.  One that is impossible leaves no fleet. -/
def step (f : Fleet) : Happening → Option Fleet
  | .start c layer => some (f.start c layer)
  | .event watch event => f.proceed watch event

/-- Several happenings, one after another. -/
def run (f : Fleet) : List Happening → Option Fleet
  | [] => some f
  | happening :: happenings => do
    let next ← f.step happening
    next.run happenings

/-- What has been logged about a watch. -/
def about (f : Fleet) (watch : Nat) : List Log.Record :=
  (f.log.filter fun entry => entry.1 == some watch).map Prod.snd

/-- How many watches are not settled. -/
def live (f : Fleet) : Nat := f.watches.countP fun w => !w.settled

end Fleet

end Client

end DocLedger
