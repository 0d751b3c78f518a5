import DocLedger.Engine.Child

/-!
# Capturing what a child writes

Each stream of a child has a reader of its own.  The reads of both come in any
order, each as large as what can be had.  A reader keeps the chunks that it has
read and adds up their lengths; the one that first gets past the limit gives up,
and with it the capture.
-/

namespace DocLedger.Host

open Engine (Bytes Child Ending)

/-- The streams of a child. -/
inductive Channel
  | stdout
  | stderr
deriving Repr, DecidableEq

def Channel.name : Channel → String
  | stdout => "stdout"
  | stderr => "stderr"

/-- One read of a stream. -/
structure Read where
  channel : Channel
  chunk : Bytes
deriving Repr

def bytesOf (channel : Channel) (reads : List Read) : Bytes :=
  reads.flatMap fun r => if r.channel = channel then r.chunk else []

theorem bytesOf_append (channel : Channel) (reads more : List Read) :
    bytesOf channel (reads ++ more) = bytesOf channel reads ++ bytesOf channel more :=
  List.flatMap_append

theorem bytesOf_map_self (channel : Channel) (chunks : List Bytes) :
    bytesOf channel (chunks.map (Read.mk channel)) = chunks.flatten := by
  induction chunks with
  | nil => rfl
  | cons chunk rest ih =>
      rw [bytesOf] at ih ⊢
      rw [List.map_cons, List.flatMap_cons, ih, if_pos rfl, List.flatten_cons]

theorem bytesOf_map_of_ne {channel other : Channel} (h : other ≠ channel) (chunks : List Bytes) :
    bytesOf channel (chunks.map (Read.mk other)) = [] := by
  induction chunks with
  | nil => rfl
  | cons chunk rest ih =>
      rw [bytesOf] at ih ⊢
      rw [List.map_cons, List.flatMap_cons, ih, if_neg h, List.append_nil]

/-- A reader: how many bytes it has read, and the chunks that they came in. -/
structure Reader where
  total : Nat
  chunks : List Bytes
deriving Repr

def Reader.fresh : Reader := ⟨0, []⟩

/-- Take a chunk, unless there are more than `limit` bytes with it. -/
def Reader.take (limit : Int) (r : Reader) (chunk : Bytes) : Option Reader :=
  let total := r.total + chunk.length
  if limit < Int.ofNat total then none else some ⟨total, r.chunks ++ [chunk]⟩

/-- The readers of both streams. -/
structure Readers where
  stdout : Reader
  stderr : Reader
deriving Repr

namespace Readers

def fresh : Readers := ⟨.fresh, .fresh⟩

def of (rs : Readers) : Channel → Reader
  | .stdout => rs.stdout
  | .stderr => rs.stderr

/-- Put another reader in the place of that of a stream. -/
def put (rs : Readers) (channel : Channel) (r : Reader) : Readers :=
  match channel with
  | .stdout => { rs with stdout := r }
  | .stderr => { rs with stderr := r }

/-- Let the reader of the stream take what has been read of it; the stream that is
past the limit, if it is. -/
def take (limit : Int) (rs : Readers) (read : Read) : Except Channel Readers :=
  match (rs.of read.channel).take limit read.chunk with
  | some r => .ok (rs.put read.channel r)
  | none => .error read.channel

end Readers

/-- What is known of a child that has been run to its end. -/
inductive Outcome
  /-- A stream has grown past the limit, and the child was killed. -/
  | overflow (channel : Channel)
  | ended (code : Int) (stdout stderr : Bytes)
  /-- The child never ends. -/
  | endless
deriving Repr, DecidableEq

/-- Capture both streams of a child, up to a limit for each, and wait for its
end. -/
def capture (limit : Int) (reads : List Read) (ending : Ending) : Outcome :=
  match reads.foldlM (Readers.take limit) .fresh with
  | .error channel => .overflow channel
  | .ok rs =>
    match ending with
    | .exits code => .ended code rs.stdout.chunks.flatten rs.stderr.chunks.flatten
    | .lasts _ => .endless

end DocLedger.Host
