import DocLedger.Script.Calculation
import DocLedger.Script.Command
import DocLedger.Script.Shell

/-!
# Expansion of words

A word stands for texts: its parameters, outputs and calculations are replaced,
and what is not between quotes is split at blanks.  Redirections are followed
for the time of one command.
-/

namespace DocLedger.Script

/-- Fields of a word while it is expanded: those complete, and the one begun, if
any.  Each character carries whether it is quoted. -/
structure Fields where
  complete : List (List (Char × Bool))
  begun : Option (List (Char × Bool))

def Fields.add (f : Fields) (cs : List Char) (quoted : Bool) : Fields :=
  { f with begun := some (f.begun.getD [] ++ cs.map fun c => (c, quoted)) }

def Fields.close (f : Fields) : Fields :=
  match f.begun with
  | some field => ⟨f.complete ++ [field], none⟩
  | none => f

def separates (c : Char) : Bool := c == ' ' || c == '\t' || c == '\n'

/-- Add the text of an unquoted expansion, which is split into fields. -/
def Fields.split (f : Fields) (cs : List Char) : Fields :=
  cs.foldl (fun f c => if separates c then f.close else f.add [c] false) f

def Fields.expansion (f : Fields) (text : String) (quoted : Bool) : Fields :=
  if quoted then f.add text.toList true else f.split text.toList

/-- Add the arguments, each as a field of its own. -/
def Fields.arguments (f : Fields) (quoted : Bool) : List String → Fields
  | [] => f
  | [last] => f.expansion last quoted
  | arg :: rest => ((f.expansion arg quoted).close).arguments quoted rest

/-- Add a piece of a word, given how scripts are run for their output. -/
def addPiece (run : List Char → Run String) (f : Fields) : Piece → Run Fields
  | .literal text quoted => return f.add text quoted
  | .parameter name fallback quoted => do
    let s ← get
    if name == "@" then return f.arguments quoted s.args
    let value := match parameter? s name with
      | some value => if value == "" && fallback.whenEmpty then String.ofList fallback.text else value
      | none => String.ofList fallback.text
    return f.expansion value quoted
  | .output source quoted => return f.expansion (← run source) quoted
  | .calculation source quoted => do
    let s ← get
    let value (name : String) : Int := integerOf ((parameter? s name).getD "")
    return f.expansion (toString (calculated value source)) quoted

/-- Take away the quotes around the arguments where there are none: a word that
is nothing but the quoted arguments gives no field for no argument. -/
def withoutEmptyQuotes (w : Word) : Word :=
  match w with
  | [.literal [] true, .parameter "@" fallback true] => [.parameter "@" fallback true]
  | _ => w

def fieldsOf (run : List Char → Run String) (w : Word) : Run (List (List (Char × Bool))) := do
  let f ← (withoutEmptyQuotes w).foldlM (addPiece run) ⟨[], none⟩
  return f.close.complete

def fieldText (field : List (Char × Bool)) : String := String.ofList (field.map Prod.fst)

def textsOf (run : List Char → Run String) (ws : List Word) : Run (List String) := do
  let fields ← ws.mapM (fieldsOf run)
  return fields.flatten.map fieldText

/-- The one text that a word stands for where it is not split. -/
def wholeOf (run : List Char → Run String) (w : Word) : Run (List (Char × Bool)) := do
  let quoted := w.map fun piece =>
    match piece with
    | .literal text q => Piece.literal text q
    | .parameter name fallback _ => .parameter (if name == "@" then "*" else name) fallback true
    | .output source _ => .output source true
    | .calculation source _ => .calculation source true
  return (← fieldsOf run quoted).flatten

def redirect (run : List Char → Run String) : Redirection → Run Unit
  | .duplicate stream source => modify fun s =>
    let sink := if source == 2 then s.errTo else if source == 1 then s.outTo else .nowhere
    if stream == 2 then { s with errTo := sink } else { s with outTo := sink }
  | .toFile stream target => do
    let path := fieldText (← wholeOf run target)
    modify fun s =>
      let sink : Sink := if path == "/dev/stderr" then s.errTo
        else if path == "/dev/stdout" then s.outTo else .nowhere
      if stream == 2 then { s with errTo := sink } else { s with outTo := sink }
  | .fromFile source => do
    let path := fieldText (← wholeOf run source)
    modify fun s =>
      match s.files.find s.directory path with
      | .entry _ (.file bytes _) => { s with input := bytes }
      | _ => { s with input := [] }
  | .fromText text => do
    let bytes := bytesOf ((← wholeOf run text).map Prod.fst)
    modify fun s => { s with input := bytes }

def redirecting (run : List Char → Run String) (rs : List Redirection) (body : Run Unit) :
    Run Unit := do
  let before ← get
  rs.forM (redirect run)
  body
  let reads := rs.any fun r =>
    match r with
    | .fromFile _ => true
    | .fromText _ => true
    | _ => false
  modify fun s => { s with outTo := before.outTo, errTo := before.errTo,
                           input := if reads then before.input else s.input }

end DocLedger.Script
