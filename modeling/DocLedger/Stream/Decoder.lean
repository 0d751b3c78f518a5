import DocLedger.Error
import DocLedger.Json.Parser

/-!
# A stream of JSON documents

The engine reports each pass of a watch as one object over several lines, and
the operating system delivers its output in pieces cut at any byte.  The
decoder keeps the text of the document that is not complete yet, together with
the part of a character at the end of the last piece, and hands out each
document as soon as its last character is there.
-/

namespace DocLedger.Stream

/-- A decoder between two pieces: the part of a character, the text not yet
used, and the most characters that an incomplete document may have. -/
structure Decoder where
  limit : Int
  partialChar : Text.Utf8.State
  pending : List Char

/-- The most characters of an incomplete document, unless another limit is
given. -/
def standardLimit : Int := 10 * 1024 * 1024

def Decoder.fresh (limit : Int) : Decoder := ⟨limit, .between, []⟩

/-- The most characters of bad text that an error shows. -/
def shownLength : Nat := 40

/-- Why the stream is at fault. -/
inductive StreamFault
  /-- Text that starts no document. -/
  | unexpected (text : List Char)
  | overflow
  /-- The stream ends inside a document. -/
  | truncated (text : List Char)
  /-- An integer of a document has too many digits. -/
  | tooManyDigits (count : Nat)
deriving Repr, DecidableEq

def StreamFault.toFailure : StreamFault → Failure
  | .unexpected text => .ledger (.decode
      ("unexpected watch output: " ++ String.ofList (Text.Quoted.text (text.take shownLength)))
      [] "")
  | .overflow =>
    .ledger (.decode "watch output exceeded buffer without a complete document" [] "")
  | .truncated text => .ledger (.decode
      ("truncated watch output: " ++ String.ofList (Text.Quoted.text (text.take shownLength)))
      [] "")
  | .tooManyDigits count => .fault (.tooManyDigitsRead count)

/-- Whether a character starts a document of a stream. -/
def opensDocument (c : Char) : Bool := c == '\x7b' || c == '['

/-- What a text holds: its complete documents, the text after them, and what is
wrong with that, if anything. -/
structure Split where
  documents : List Value
  rest : List Char
  fault : Option StreamFault

/-- Take the complete documents off the front of a text.  The fuel bounds their
number. -/
def split (limit : Int) : (fuel : Nat) → List Char → Split
  | 0, cs => ⟨[], cs, none⟩
  | fuel + 1, cs =>
    match Text.trimStart cs with
    | [] => ⟨[], [], none⟩
    | c :: more =>
      if opensDocument c then
        match Json.readFront (c :: more) with
        | .ok (document, rest) =>
          let later := split limit fuel rest
          ⟨document :: later.documents, later.rest, later.fault⟩
        | .error (.tooManyDigits count) => ⟨[], c :: more, some (.tooManyDigits count)⟩
        | .error (.malformed ..) =>
          if limit < Int.ofNat (c :: more).length then ⟨[], [], some .overflow⟩
          else ⟨[], c :: more, none⟩
      else ⟨[], [], some (.unexpected (c :: more))⟩

namespace Decoder

/-- Add text: the documents that it completes, or the fault of the stream. -/
def feed (d : Decoder) (cs : List Char) : Except StreamFault (List Value) × Decoder :=
  let text := d.pending ++ cs
  let result := split d.limit (text.length + 1) text
  let next := { d with pending := result.rest }
  match result.fault with
  | none => (.ok result.documents, next)
  | some fault => (.error fault, next)

def feedBytes (d : Decoder) (bytes : List UInt8) : Except StreamFault (List Value) × Decoder :=
  let (shown, state) := Text.Utf8.read d.partialChar bytes
  { d with partialChar := state }.feed shown

/-- End the stream; text that is left over is a fault. -/
def close (d : Decoder) : Except StreamFault Unit × Decoder :=
  let left := Text.trim (d.pending ++ Text.Utf8.finish d.partialChar)
  let next := { d with partialChar := .between, pending := [] }
  if left.isEmpty then (.ok (), next) else (.error (.truncated left), next)

end Decoder

end DocLedger.Stream
