import DocLedger.Engine.Child
import DocLedger.Engine.Executable
import DocLedger.Host.Files
import DocLedger.Script.Printing

/-!
# Shells

A shell has arguments, parameters, a place among the files, an input and two
outputs.  A step of a shell may stop it: the shell exits, goes on for so long
that only a signal ends it, or leaves a repetition.
-/

namespace DocLedger.Script

open Engine (Bytes Environment)
open Host (Files Place)

/-- Where the output of a command goes. -/
inductive Sink
  | stdout
  | stderr
  | nowhere
deriving Repr, DecidableEq

/-- What is done about a request to terminate. -/
inductive Trap
  | standard
  | ignored
  | handler (source : List Char)
deriving Repr, DecidableEq

/-- The state of a shell. -/
structure Shell where
  name : String
  args : List String
  bindings : Environment
  directory : Place
  files : Files
  input : Bytes
  stdout : Bytes
  stderr : Bytes
  outTo : Sink
  errTo : Sink
  status : Int
  trap : Trap
  /-- The time spent waiting, in milliseconds. -/
  waited : Nat

/-- Why a shell, or a repetition in it, stops. -/
inductive Stop
  | exits (code : Int)
  | lasts
  /-- The repetition is left, or only this round of it. -/
  | leaves (altogether : Bool)
deriving Repr, DecidableEq

abbrev Run (α : Type) := ExceptT Stop (StateM Shell) α

/-- The time after which a shell counts as one that goes on until it is
stopped, in milliseconds. -/
def patience : Nat := 5000

def writeTo (sink : Sink) (bytes : Bytes) : Run Unit :=
  modify fun s =>
    match sink with
    | .stdout => { s with stdout := s.stdout ++ bytes }
    | .stderr => { s with stderr := s.stderr ++ bytes }
    | .nowhere => s

def write (bytes : Bytes) : Run Unit := do writeTo (← get).outTo bytes

def complain (message : String) : Run Unit := do
  let s ← get
  writeTo s.errTo (bytesOf (s.name ++ ": " ++ message ++ "\n").toList)

def setStatus (code : Int) : Run Unit := modify fun s => { s with status := code }

/-- The status that says that something is true, or that it is not. -/
def setTruth (b : Bool) : Run Unit := setStatus (if b then 0 else 1)

def spend (ms : Nat) : Run Unit := do
  modify fun s => { s with waited := s.waited + ms }
  if patience ≤ (← get).waited then throw .lasts

/-- The value of a parameter, if it is set. -/
def parameter? (s : Shell) (name : String) : Option String :=
  match name with
  | "#" => some (toString s.args.length)
  | "@" => some (Text.joined " " s.args)
  | "*" => some (Text.joined " " s.args)
  | "?" => some (toString s.status)
  | "$" => some "$$"
  | "0" => some s.name
  | _ =>
    match name.toNat? with
    | some n => s.args[n - 1]?
    | none => s.bindings.get? name

end DocLedger.Script
