import DocLedger.Text.Blank

/-!
# Where the engine is found

A variable of the environment names the engine's executable.  Where it is not
set, or blank, the executable is the one that lies in the package.
-/

namespace DocLedger.Engine

/-- An environment: variables and their values. -/
abbrev Environment := List (String × String)

namespace Environment

def get? (env : Environment) (name : String) : Option String :=
  (env.find? fun entry => entry.1 == name).map Prod.snd

/-- Set a variable: a variable already there keeps its place. -/
def set (env : Environment) (name value : String) : Environment :=
  match env with
  | [] => [(name, value)]
  | (n, v) :: rest =>
    if n == name then (n, value) :: rest else (n, v) :: set rest name value

/-- An environment with the variables of another on top. -/
def overlay (env more : Environment) : Environment :=
  more.foldl (fun done entry => done.set entry.1 entry.2) env

end Environment

/-- The variable that names the engine's executable. -/
def executableVariable : String := "LEDGERDB_BIN"

/-- The executable inside the package's directory. -/
def bundledExecutable (package : String) : String :=
  package ++ "/bin/ledgerdb"

/-- The engine's executable in an environment. -/
def executable (package : String) (env : Environment) : String :=
  let chosen := (env.get? executableVariable).getD ""
  if Text.allBlank chosen then bundledExecutable package else chosen

end DocLedger.Engine
