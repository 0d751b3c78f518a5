import DocLedger.Cli.Run

/-!
# The program

The program takes its words, the variables of its environment and the files
that they name, carries the command line out, and writes the two streams.  An
engine is a script that the program carries out itself; a file is executable
when it starts as a script does.
-/

namespace DocLedger.Program

def variableNames : List String :=
  ["PATH", "HOME", "LANG", "TZ", "COLUMNS", "HOSTNAME", "PWD", Engine.executableVariable]

def environment : IO Engine.Environment := do
  variableNames.filterMapM fun name => do
    return (← IO.getEnv name).map fun value => (name, value)

/-- The directory of the bundled engine. -/
def package : String := "/usr/lib/docledger"

/-- The width of a terminal that does not tell it. -/
def standardWidth : Nat := 80

def width (env : Engine.Environment) : Nat :=
  ((env.get? "COLUMNS").bind String.toNat?).getD standardWidth

/-- Add a file, if there is one at the path. -/
def addFile (files : Host.Files) (path : String) : IO Host.Files := do
  try
    let bytes := (← IO.FS.readBinFile path).toList
    return files.put path (.file bytes (bytes.take 2 == [35, 33]))
  catch _ => return files

/-- The files that a command line may need: those that its words name, the
executables that an environment names, and the index of a repository. -/
def files (env : Engine.Environment) (words : List String) : IO Host.Files := do
  let bare := Host.Files.bare (Host.parts ((env.get? "PWD").getD "/"))
  let engine := Engine.executable package env
  let named := (words ++ words.map (Index.joinPath · Index.dbName)).filter (· != "")
  (named ++ Host.candidates engine env ++ ["./" ++ Index.dbName]).foldlM addFile bare

/-- What the program says about how it is used. -/
def usage : String :=
  "usage: docledger [--repo PATH] [--bin PATH] [--sync | --no-sync] [--log-level LEVEL] " ++
    "[--json-logs] (doc | index | push | status | verify | exec) ...\n"

/-- Write what a run has left, and give the exit status. -/
def finish (o : Cli.Outcome) : IO UInt32 := do
  let stdout ← IO.getStdout
  stdout.write o.scene.shared.toByteArray
  stdout.putStr o.stdout
  IO.eprint o.stderr
  match o.ending with
  | .exits code => return UInt32.ofNat (Int.toNat (code % 256))
  | .stops .help => do
    stdout.putStr usage
    return 0
  | .stops .usage => do
    IO.eprint usage
    return 2
  | .fails f => do
    IO.eprintln f.text
    return 1

end DocLedger.Program

open DocLedger in
/-- Carry out a command line. -/
def main (words : List String) : IO UInt32 := do
  let env ← Program.environment
  let machine : Host.Machine := ⟨← Program.files env words, env⟩
  let now := Int.ofNat (← IO.monoMsNow)
  let time := (Log.timeText (Log.createdAt now) (Log.beyondSecond now)).toOption.getD ""
  let world : Cli.World :=
    { machine, package := Program.package, time, hostName := Log.hostOf (env.get? "HOSTNAME"),
      width := Program.width env,
      connect := fun path => Host.transport machine path Host.standardLimit }
  Program.finish (Cli.run world Engine.Scene.fresh words)
