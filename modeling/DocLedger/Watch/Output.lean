import DocLedger.Engine.Child
import DocLedger.Report.Model
import DocLedger.Stream.Decoder

/-!
# What a watch has to say

The output of a watch can be read by lines or by reports.  Both readings stop
at the first thing that is wrong, after everything before it, and both may be
given up after a number of items; what is not read by then stays.
-/

namespace DocLedger.Watch

open Engine (Bytes)

/-- What a reading took: the items, what went wrong, if anything, and the
output that is left. -/
structure Taken (α : Type) where
  items : List α
  failure : Option Failure
  rest : List Bytes

def lineFeed : UInt8 := 10

/-- Put a byte in front of lines. -/
def addByte (byte : UInt8) (lines : List Bytes) : List Bytes :=
  if byte == lineFeed then [byte] :: lines
  else
    match lines with
    | [] => [[byte]]
    | line :: rest => (byte :: line) :: rest

/-- The lines of some bytes, each with the end of line that belongs to it.  The
last line may have none. -/
def lines (bytes : Bytes) : List Bytes := bytes.foldr addByte []

/-- The most bytes of a line that can be read. -/
def lineLimit : Nat := 64 * 1024

def lineText (line : Bytes) : String :=
  let isEnd (c : Char) : Bool := c == '\n' || c == '\r'
  String.ofList ((Text.Utf8.decode line).reverse.dropWhile isEnd).reverse

def isEnded (line : Bytes) : Bool := line.getLast? == some lineFeed

def enough (limit : Option Nat) (count : Nat) : Bool :=
  match limit with
  | some n => n ≤ count
  | none => false

/-- Read lines, of which `count` have been read before. -/
def takeLines (limit : Option Nat) (count : Nat) : List Bytes → Taken String
  | [] => ⟨[], none, []⟩
  | line :: rest =>
    if isEnded line then
      if lineLimit < line.length - 1 then ⟨[], some (.fault .longLine), rest⟩
      else if enough limit (count + 1) then ⟨[lineText line], none, rest⟩
      else
        let more := takeLines limit (count + 1) rest
        { more with items := lineText line :: more.items }
    else if lineLimit < line.length then ⟨[], some (.fault .longRemainder), rest⟩
    else ⟨[lineText line], none, rest⟩

def readLines (limit : Option Nat) (output : List Bytes) : Taken String :=
  takeLines limit 0 (lines output.flatten)

/-- The reports in some documents, up to the first that has not the shape of a
report or to the limit; with it whether the reading stops. -/
def takeReports (limit : Option Nat) (count : Nat) :
    List Value → List Value × Option Failure × Bool
  | [] => ([], none, false)
  | document :: rest =>
    match Report.validate .indexSync [] "" document with
    | .error failure => ([], some failure, true)
    | .ok report =>
      if enough limit (count + 1) then ([report], none, true)
      else
        let (reports, failure, stops) := takeReports limit (count + 1) rest
        (report :: reports, failure, stops)

/-- Read the reports of a stream piece by piece; a reading that stops leaves
out the documents of its last piece that it has not come to. -/
def takePieces (limit : Option Nat) (count : Nat) (decoder : Stream.Decoder) :
    List Bytes → Taken Value
  | [] =>
    match decoder.close.1 with
    | .ok () => ⟨[], none, []⟩
    | .error fault => ⟨[], some fault.toFailure, []⟩
  | piece :: rest =>
    match decoder.feedBytes piece with
    | (.error fault, _) => ⟨[], some fault.toFailure, rest⟩
    | (.ok documents, next) =>
      let (reports, failure, stops) := takeReports limit count documents
      if stops then ⟨reports, failure, rest⟩
      else
        let more := takePieces limit (count + reports.length) next rest
        { more with items := reports ++ more.items }

def readReports (limit : Option Nat) (output : List Bytes) : Taken Value :=
  takePieces limit 0 (Stream.Decoder.fresh Stream.standardLimit) (Engine.reads output)

end DocLedger.Watch
