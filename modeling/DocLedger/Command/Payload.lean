import DocLedger.Error
import DocLedger.Json.Printer

/-!
# Payloads

The body of a document goes on the command line as text.  A text is passed on
as it is, so that callers may hand over JSON; any other value is written as
compact JSON, as long as its containers have room inside one another.
-/

namespace DocLedger.Command

/-- The room that the stack of a caller leaves for the containers of a payload:
almost all of the thousand calls that may be under way. -/
def callerRoom : Nat := 980

/-- The failure of a payload that cannot be written: a configuration error about the
given field.  A value without room is not refused; that the stack is used up ends the
call, in writing or in quoting. -/
def unwritten (room : Room) (field : String) (v : Value) : Json.PrintFault → Failure
  | .tooDeep => .fault Json.PrintFault.tooDeep.toFault
  | fault =>
    .configurationWithin room (field ++ " is not JSON serializable: " ++ fault.message) field v

def payloadWithin (room : Room) (field : String) (v : Value) : Except Failure String :=
  match v with
  | .text s => .ok s
  | _ => ((Json.render (.compactWithin room) v).map String.ofList).mapError (unwritten room field v)

/-- The text of a payload where its containers have any room. -/
def payloadText (field : String) (v : Value) : Except Failure String :=
  payloadWithin none field v

end DocLedger.Command
