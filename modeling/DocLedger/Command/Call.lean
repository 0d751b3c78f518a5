import DocLedger.Command.Vector
import DocLedger.Index.Options
import DocLedger.Value.Keywords

/-!
# Building vectors by name

Each way to build an argument vector has a name and takes its arguments by
name.  An argument that is left out has its standard value where it has one.
-/

namespace DocLedger.Command

/-- The ways to build a vector, and the one to label it. -/
inductive Builder
  | base
  | document
  | revert
  | index
  | applyCollection
  | verify
  | gc
  | snapshot
  | label
deriving Repr, DecidableEq

namespace Builder

/-- What a builder is called and which arguments it takes. -/
def signature : Builder → Signature
  | base => .ofFunction "base_args" ["repo_path", "json_output"] ["write", "auto_sync"]
  | document => .ofFunction "doc_args" ["action", "collection", "doc_id"] ["extra"]
  | revert => .ofFunction "revert_args" ["collection", "doc_id"] ["tx_id", "tx_hash"]
  | index => .ofFunction "index_args" ["subcommand", "config"] []
  | applyCollection => .ofFunction "collection_apply_args" ["name", "schema_path"] ["indexes"]
  | verify => .ofFunction "verify_args" [] ["deep"]
  | gc => .ofFunction "gc_args" [] ["prune"]
  | snapshot => .ofFunction "snapshot_args" [] ["threshold", "max_snapshots", "dry_run"]
  | label => .ofFunction "describe_subcommand" ["args"] []

def all : List Builder :=
  [base, document, revert, index, applyCollection, verify, gc, snapshot, label]

def ofName? (name : String) : Option Builder :=
  all.find? fun b => b.signature.call == name

/-- The items of a value, which has to have some. -/
def itemsOf (v : Value) : Except Fault (List Value) :=
  match v.items? with
  | some items => .ok items
  | none => .error (.notIterable v.qualifiedTypeName)

def entriesOf : Value → List (Value × Value)
  | .mapping entries => entries
  | _ => []

def built (v : Except Fault Vector) : Except Failure Value :=
  (v.map Value.list).mapError .fault

/-- Build a vector, or label one.  The configuration of an index is made before
the names are looked at. -/
def call (b : Builder) (arguments : List (Value × Value)) : Except Failure Value := do
  let given (name : String) (otherwise : Value := .null) : Value :=
    Value.argument arguments name otherwise
  let config ←
    match b with
    | index => (Index.Config.ofEntries (entriesOf (given "config"))).map some
    | _ => .ok none
  (b.signature.check arguments).mapError .fault
  match b, config with
  | base, _ => built (.ok (Command.base (given "repo_path") (given "json_output").truthy
      (given "write").truthy (given "auto_sync" (.bool true)).truthy))
  | document, _ => built do
      let extra ← itemsOf (given "extra" (.list []))
      return Command.document (given "action") (given "collection") (given "doc_id") extra
  | revert, _ => built (.ok (Command.revert (given "collection") (given "doc_id") (given "tx_id")
      (given "tx_hash")))
  | index, some config => do
    let task ← (IndexTask.ofWord (given "subcommand")).mapError Failure.fault
    return .list (← Command.index task config)
  | index, none => built (.ok [])
  | applyCollection, _ => built (Command.applyCollection (given "name") (given "schema_path")
      (given "indexes"))
  | verify, _ => built (.ok (Command.verify (given "deep").truthy))
  | gc, _ => built (.ok (Command.gc (given "prune")))
  | snapshot, _ => built (Command.snapshot (given "threshold") (given "max_snapshots")
      (given "dry_run").truthy)
  | label, _ =>
    ((do return .text (← Command.label (← itemsOf (given "args"))) : Except Fault Value)).mapError
      .fault

end Builder

end DocLedger.Command
