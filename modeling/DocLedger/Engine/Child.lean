import DocLedger.Log.Event

/-!
# Children

The engine runs as a child.  A child writes to its two streams and ends, by
itself or because it is stopped.  The owner of an attached child reads its
output, asks it to stop, and learns its exit status once it has ended.
-/

namespace DocLedger.Engine

abbrev Bytes := List UInt8

/-- The signals that stop a child. -/
inductive Signal
  | terminate
  | kill
deriving Repr, DecidableEq

/-- The exit status of a child that a signal ends. -/
def Signal.status : Signal → Int
  | terminate => -15
  | kill => -9

/-- What a child does when it is asked to terminate. -/
inductive Reaction
  | ends
  | ignores
  /-- It writes what is left to write and exits on its own terms. -/
  | cleansUp (stdout stderr : Bytes) (code : Int)
deriving Repr, DecidableEq

/-- How a child ends. -/
inductive Ending
  | exits (code : Int)
  /-- It goes on until it is stopped. -/
  | lasts (reaction : Reaction)
deriving Repr, DecidableEq

namespace Ending

/-- The exit status of a child that nobody stops, if it ever ends. -/
def code? : Ending → Option Int
  | exits code => some code
  | lasts _ => none

/-- What a child does when it is asked to terminate. -/
def reaction : Ending → Reaction
  | exits _ => .ends
  | lasts reaction => reaction

end Ending

/-- What a child writes before it ends or goes on quietly, and how it ends.
The standard output comes in pieces. -/
structure Child where
  stdout : List Bytes
  stderr : Bytes
  ending : Ending
deriving Repr

/-- What has happened to a child: its exit status once it has ended, the signals
that its owner asked for, in order, and those that were sent. -/
structure Standing where
  returncode : Option Int
  asked : List Signal
  sent : List Signal
deriving Repr, DecidableEq

namespace Standing

/-- A child just started. -/
def fresh : Standing := ⟨none, [], []⟩

def running (s : Standing) : Bool := s.returncode.isNone

/-- Ask for a signal.  It is sent unless the child has ended. -/
def signal (s : Standing) (asked : Signal) : Standing :=
  { s with
    asked := s.asked ++ [asked]
    sent := if s.running then s.sent ++ [asked] else s.sent }

/-- The child ends, unless it has ended before. -/
def exit (s : Standing) (code : Int) : Standing :=
  if s.running then { s with returncode := some code } else s

end Standing

/-- A child started in attached mode.  Its output can be read where it is
piped: the pieces are those not read yet. -/
structure Attached where
  pid : Log.Reading
  output : Option (List Bytes)
  ending : Ending
  standing : Standing
deriving Repr

/-- The most bytes that one read takes. -/
def pieceLimit : Nat := 64 * 1024

/-- A piece cut into pieces of at most `limit` bytes; the fuel bounds their
number. -/
def cut (limit : Nat) : (fuel : Nat) → Bytes → List Bytes
  | 0, _ => []
  | fuel + 1, bytes =>
    if bytes.isEmpty then [] else bytes.take limit :: cut limit fuel (bytes.drop limit)

/-- The pieces that successive reads give. -/
def reads (pieces : List Bytes) : List Bytes :=
  pieces.flatMap fun piece => cut pieceLimit piece.length piece

theorem flatten_cut {limit : Nat} (hlimit : 0 < limit) {fuel : Nat} {bytes : Bytes}
    (hfuel : bytes.length ≤ fuel) : (cut limit fuel bytes).flatten = bytes := by
  induction fuel generalizing bytes with
  | zero => exact (List.length_eq_zero_iff.mp (Nat.le_zero.mp hfuel)).symm
  | succ fuel ih =>
      rw [cut]
      split
      · next hempty => exact (List.isEmpty_iff.mp hempty).symm
      · rw [List.flatten_cons, ih (by rw [List.length_drop]; omega), List.take_append_drop]

/-- Successive reads lose nothing. -/
theorem flatten_reads (pieces : List Bytes) : (reads pieces).flatten = pieces.flatten := by
  induction pieces with
  | nil => rfl
  | cons piece rest ih =>
      have hcut := flatten_cut (show 0 < pieceLimit by decide) (Nat.le_refl piece.length)
      rw [reads] at ih ⊢
      rw [List.flatMap_cons, List.flatten_append, hcut, ih, List.flatten_cons]

namespace Attached

def running (a : Attached) : Bool := a.standing.running

/-- The exit status of a child that has ended. -/
def returncode (a : Attached) : Option Int := a.standing.returncode

/-- Wait until the child ends by itself. -/
def wait (a : Attached) : Attached :=
  match a.ending.code? with
  | some code => { a with standing := a.standing.exit code }
  | none => a

/-- Add to the output that can be read. -/
def write (a : Attached) (bytes : Bytes) : Attached :=
  { a with output := a.output.map (· ++ [bytes]) }

/-- What a child that has not ended does about a signal: the exit status, if it
ends, and what it writes before. -/
def answer (a : Attached) (sent : Signal) : Option (Int × Bytes) :=
  if a.running then
    match sent, a.ending.reaction with
    | .terminate, .ignores => none
    | .terminate, .cleansUp stdout _ code => some (code, stdout)
    | _, _ => some (sent.status, [])
  else none

/-- Send a signal: the child afterwards, and what it wrote to an output that is
not piped. -/
def signal (a : Attached) (sent : Signal) : Attached × Bytes :=
  let told := { a with standing := a.standing.signal sent }
  match a.answer sent with
  | none => (told, [])
  | some (code, written) =>
    ({ told.write written with standing := told.standing.exit code },
      if a.output.isSome then [] else written)

end Attached

end DocLedger.Engine
