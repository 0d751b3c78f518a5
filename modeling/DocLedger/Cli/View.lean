import DocLedger.Console.Table
import DocLedger.Report.Model

/-!
# Views of reports

What the command line shows of a report.  Most texts of the engine are shown as
marked text; the places and the messages of issues are escaped.
-/

namespace DocLedger.Cli

open Console (Table)

def absent : String := "-"

/-- A text, or the mark for what is not given. -/
def given (text : Option String) : String :=
  match text with
  | some "" => absent
  | some s => s
  | none => absent

def shownBool (b : Bool) : String := (Value.bool b).plain

def properties (title : String) (rows : List (String × String)) : Table :=
  ⟨title, ["Property", "Value"], rows.map fun (name, value) => [name, value]⟩

/-- The table of a transaction that has been committed. -/
def committed (report : Value) : Table :=
  properties "Committed"
    [("Commit", Report.textField report "commit"), ("Tx Hash", Report.textField report "tx_hash"),
      ("Tx ID", Report.textField report "tx_id")]

def syncPass (p : Report.SyncPass) : Table :=
  properties "Index Sync"
    [("Status", if p.hasChanges then "[green]applied[/green]" else "[dim]idle[/dim]"),
      ("Reset", shownBool p.reset), ("Fetched", shownBool p.fetched),
      ("Commits", toString p.commits), ("Txs Applied", toString p.txsApplied),
      ("Docs Upserted", toString p.docsUpserted), ("Docs Deleted", toString p.docsDeleted),
      ("Collections", toString p.collections), ("Last Commit", given p.lastCommit)]

def shownHashLength : Nat := 12

/-- The row of an entry of a document's history. -/
def historyRow (entry : Value) : List String :=
  [Report.textField entry "tx_id", Text.leading shownHashLength (Report.textField entry "tx_hash"),
    Text.leading shownHashLength (given (Report.optionalText entry "parent_hash")),
    Report.textField entry "op", toString (Report.integerField entry "timestamp")]

def history (collection docId : String) (entries : List Value) : Table :=
  ⟨collection ++ "/" ++ docId, ["Tx ID", "Tx Hash", "Parent", "Op", "Timestamp"],
    entries.map historyRow⟩

/-- The properties that the manifest of a repository adds. -/
def manifestRows (manifest : Value) : List (String × String) :=
  if manifest.isNull then []
  else
    [("Name", Report.textField manifest "name"),
      ("Stream Layout", given (Report.optionalText manifest "stream_layout")),
      ("History Mode", given (Report.optionalText manifest "history_mode"))]

def repositoryStatus (report : Value) : Table :=
  properties "Repository Status"
    ([("Path", Report.textField report "path"), ("Bare", shownBool (Report.truthField report "bare")),
        ("Head", given (Report.optionalText report "head"))] ++
      manifestRows ((report.get? "manifest").getD .null))

def issueRow (issue : Value) : List String :=
  [Console.escape (Report.textField issue "stream_path"), Report.textField issue "code",
    Console.escape (Report.textField issue "message")]

def issueTable (issues : List Value) : Table :=
  ⟨"Integrity Issues", ["Stream", "Code", "Message"], issues.map issueRow⟩

def checkSummary (i : Report.Integrity) : String :=
  "Streams: " ++ toString i.streams ++ ", valid: " ++ toString i.valid

end DocLedger.Cli
