import DocLedger.Value.Basic

/-!
# Arguments by name

A call may give its arguments by name.  Its signature says which names it
takes: some are bound already when the names are looked at, some have to be
given, some may be, and a call that is open takes any other name too.
-/

namespace DocLedger

/-- The names that a call takes. -/
structure Signature where
  /-- The name of the call in reports. -/
  call : String
  /-- The parameters that have their argument already. -/
  bound : List String
  required : List String
  optional : List String
  /-- Whether a call takes any other name too. -/
  isOpen : Bool
deriving Repr, DecidableEq

namespace Signature

def ofFunction (call : String) (required optional : List String) : Signature :=
  ⟨call, [], required, optional, false⟩

/-- The signature of a method, whose object is bound. -/
def ofMethod (call : String) (required optional : List String) : Signature :=
  ⟨call, ["self"], required, optional, false⟩

/-- The signature of what makes an object of a kind. -/
def ofMaker (kind : String) (required optional : List String) : Signature :=
  ofMethod (kind ++ ".__init__") required optional

/-- What is wrong with a name that is given, if anything. -/
def nameFault? (s : Signature) (name : String) : Option Fault :=
  if s.bound.contains name then some (.repeatedArgument s.call name)
  else if s.isOpen || s.required.contains name || s.optional.contains name then none
  else some (.unexpectedArgument s.call name)

/-- The names of some arguments, all of which have to be texts. -/
def names : List (Value × Value) → Except Fault (List String)
  | [] => .ok []
  | (.text name, _) :: rest => (names rest).map (name :: ·)
  | _ :: _ => .error .keywordNotText

def missing (s : Signature) (given : List String) : List String :=
  s.required.filter fun name => !given.contains name

/-- Check the names of arguments: the first name that does not fit is at fault,
and then what is missing. -/
def check (s : Signature) (arguments : List (Value × Value)) : Except Fault Unit := do
  let given ← names arguments
  match given.findSome? s.nameFault?, s.missing given with
  | some fault, _ => .error fault
  | none, [] => .ok ()
  | none, left => .error (.missingArguments s.call left)

end Signature

/-- The argument of a name, or what stands for it where it is not given. -/
def Value.argument (arguments : List (Value × Value)) (name : String) (otherwise : Value := .null) :
    Value :=
  (Value.lookup name arguments).getD otherwise

end DocLedger
