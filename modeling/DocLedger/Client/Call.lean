import DocLedger.Client.Indexing
import DocLedger.Command.Call
import DocLedger.Value.Keywords

/-!
# Calls of a client by name

A caller names what a client is to do and gives the arguments by name.  Each
call has a signature; operations are made from arguments that fit it.
-/

namespace DocLedger

namespace Client

/-- The arguments that a call of a client takes. -/
def signature? (name : String) : Option Signature :=
  let takes (required optional : List String) : Option Signature :=
    some (.ofMethod ("LedgerClient." ++ name) required optional)
  match name with
  | "get" => takes ["collection", "doc_id"] []
  | "put" => takes ["collection", "doc_id"] ["payload"]
  | "patch" => takes ["collection", "doc_id", "ops"] []
  | "delete" => takes ["collection", "doc_id"] []
  | "log" => takes ["collection", "doc_id"] []
  | "revert" => takes ["collection", "doc_id"] ["tx_id", "tx_hash"]
  | "push" => takes [] []
  | "status" => takes [] []
  | "apply_collection" => takes ["name", "schema"] ["indexes"]
  | "verify" => takes [] ["deep"]
  | "gc" => takes [] ["prune"]
  | "snapshot" => takes [] ["threshold", "max_snapshots", "dry_run"]
  | "index_sync" => takes [] ["overrides"]
  | "start_index_watch" => takes [] ["options"]
  | "open_index" => takes [] ["db_path"]
  | "build_args" => takes ["args", "write"] ["json_output"]
  | _ => none

/-- Check the arguments of a call; a name without a signature takes any. -/
def checkCall (name : String) (arguments : List (Value × Value)) : Except Fault Unit :=
  match signature? name with
  | some s => s.check arguments
  | none => .ok ()

/-- The argument vector of a subcommand whose words are the items of a value. -/
def vectorOf (c : Client) (arguments : List (Value × Value)) : Except Fault Command.Vector := do
  let given (name : String) (otherwise : Value := .null) : Value :=
    Value.argument arguments name otherwise
  return c.vector (← Command.Builder.itemsOf (given "args")) (given "write").truthy
    (given "json_output" (.bool true)).truthy

end Client

/-- The operation of a name with some arguments; other names ask for the
status. -/
def Operation.ofArguments (name : String) (arguments : List (Value × Value)) : Operation :=
  let given (name : String) : Value := Value.argument arguments name
  let collection := given "collection"
  let docId := given "doc_id"
  match name with
  | "get" => .get collection docId
  | "put" => .put collection docId (given "payload")
  | "patch" => .patch collection docId (given "ops")
  | "delete" => .delete collection docId
  | "log" => .log collection docId
  | "revert" => .revert collection docId (given "tx_id") (given "tx_hash")
  | "push" => .push
  | "apply_collection" => .applyCollection (given "name") (given "schema") (given "indexes")
  | "verify" => .verify (given "deep").truthy
  | "gc" => .gc (given "prune")
  | "snapshot" => .snapshot (given "threshold") (given "max_snapshots") (given "dry_run").truthy
  | _ => .status

end DocLedger
