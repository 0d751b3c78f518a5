import DocLedger.Value.Literal

/-!
# Exceptions of records

A record may carry an exception as three things: its kind, the exception and
the trace of calls.  Values that callers put in their place are looked at in the
same way, and only nothing at all reads as one.
-/

namespace DocLedger.Log

/-- The line of an exception: its kind and its words. -/
def exceptionLine (kind words : String) : String :=
  if words == "" then kind else kind ++ ": " ++ words

def noException : String := exceptionLine "NoneType" "None"

def carried (v : Value) (index : Nat) : Except Fault Value :=
  match v with
  | .mapping entries =>
    match entries.find? fun entry => entry.1.same (.int index) with
    | some (_, w) => .ok w
    | none => .error (.noEntry index)
  | .loop true => .error (.noEntry index)
  | .set _ => .error (.notSubscriptable v.typeName)
  | v =>
    match v.items? with
    | none => .error (.notSubscriptable v.qualifiedTypeName)
    | some items =>
      match items[index]? with
      | some w => .ok w
      | none => .error (.indexRange v.typeName)

def exceptionText (v : Value) : Except Fault String := do
  let trace ← carried v 2
  let _ ← carried v 0
  let exception ← carried v 1
  if !trace.isNull then throw (.noAttribute trace.qualifiedTypeName "tb_frame")
  if !exception.isNull then
    throw (.noAttribute exception.qualifiedTypeName "__suppress_context__")
  return noException

end DocLedger.Log
