import DocLedger.Command.Payload
import DocLedger.Command.Vector
import DocLedger.Report.Model

/-!
# Operations on a repository

An operation says what to do with documents or with the repository.  It has
the words of one invocation of the engine.  Operations that write are told
apart from those that only read, and those whose answer is a report from those
whose answer is the engine's own text.
-/

namespace DocLedger

/-- An operation on a repository. -/
inductive Operation
  | get (collection docId : Value)
  | put (collection docId payload : Value)
  | patch (collection docId ops : Value)
  | delete (collection docId : Value)
  | log (collection docId : Value)
  | revert (collection docId txId txHash : Value)
  | push
  | status
  | applyCollection (name schema indexes : Value)
  | verify (deep : Bool)
  | gc (prune : Value)
  | snapshot (threshold most : Value) (dryRun : Bool)
deriving Repr

namespace Operation

/-- Check the path of a schema: it must not be blank. -/
def checkSchema (schema : Value) : Except Failure Unit :=
  let required : Failure :=
    .ledger (.configuration "collection schema path is required" (some "schema") .null)
  if !schema.truthy then .error required
  else
    match schema with
    | .text s => if Text.allBlank s then .error required else .ok ()
    | .bytes bs =>
      if bs.all Text.isBlankByte then .error required else .ok ()
    | v => .error (.fault (.noAttribute v.qualifiedTypeName "strip"))

/-- The words of an operation, with so much room for the containers of a payload. -/
def words (room : Nat) : Operation → Except Failure Command.Vector
  | get collection docId => .ok (Command.document (.text "get") collection docId [])
  | put collection docId payload => do
    let text ← Command.payloadWithin (some room) "payload" payload
    return Command.document (.text "put") collection docId (Command.words ["--payload", text])
  | patch collection docId ops => do
    let text ← Command.payloadWithin (some room) "ops" ops
    return Command.document (.text "patch") collection docId (Command.words ["--ops", text])
  | delete collection docId => .ok (Command.document (.text "delete") collection docId [])
  | log collection docId => .ok (Command.document (.text "log") collection docId [])
  | revert collection docId txId txHash => .ok (Command.revert collection docId txId txHash)
  | push => .ok (Command.words ["push"])
  | status => .ok (Command.words ["status"])
  | applyCollection name schema indexes => do
    checkSchema schema
    (Command.applyCollection name schema indexes).mapError .fault
  | verify deep => .ok (Command.verify deep)
  | gc prune => .ok (Command.gc prune)
  | snapshot threshold most dryRun => (Command.snapshot threshold most dryRun).mapError .fault

def writes : Operation → Bool
  | put .. => true
  | patch .. => true
  | delete .. => true
  | revert .. => true
  | applyCollection .. => true
  | snapshot .. => true
  | _ => false

/-- The model of the report that answers an operation; other operations are
answered by the engine's own text. -/
def model? : Operation → Option Report.Model
  | get .. => some .get
  | put .. => some .put
  | patch .. => some .put
  | delete .. => some .put
  | log .. => some .log
  | revert .. => some .put
  | push => none
  | status => some .status
  | applyCollection .. => none
  | verify _ => some .integrity
  | gc _ => some .gc
  | snapshot .. => some .snapshot

/-- What the user should know before an operation is carried out. -/
def warning? : Operation → Option String
  | revert collection docId txId txHash =>
    if txId.truthy && txHash.truthy then
      some ("revert " ++ collection.plain ++ "/" ++ docId.plain ++
        " given both tx_id and tx_hash; forwarding both")
    else none
  | _ => none

end Operation

/-- The answer to an operation. -/
inductive Answer
  | report (model : Report.Model) (report : Value)
  /-- The history of a document. -/
  | entries (reports : List Value)
  | output (text : String)
deriving Repr

end DocLedger
