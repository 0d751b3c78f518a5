import DocLedger.Cli.Commands

/-!
# Runs of the command line

The words before the command are read, the logging is set up, the rest is read,
and the command does its job.  What is logged goes to the second stream, before
the complaints.
-/

namespace DocLedger.Cli

open Engine (Scene)

/-- How a run ends. -/
inductive Ending
  | exits (code : Int)
  /-- The command line is not carried out. -/
  | stops (why : Stop)
  | fails (f : Failure)

/-- The result of a run: how it ends, what is on the two streams, and the scene
that it leaves. -/
structure Outcome where
  ending : Ending
  stdout : String
  stderr : String
  scene : Scene

def interruptStatus : Int := 130

namespace Outcome

/-- The result of a run that does nothing. -/
def idle (scene : Scene) (ending : Ending) : Outcome := ⟨ending, "", "", scene⟩

/-- How a run ends whose job ends in some way. -/
def endingOf : Except Leave Unit → Ending
  | .ok () => .exits 0
  | .error (.exits code) => .exits code
  | .error (.fails (.fault .interrupt)) => .exits interruptStatus
  | .error (.fails f) => .fails f

def ofJob (logging : Log.Setup) (time : String) (scene : Scene) (job : Job Unit) : Outcome :=
  let (result, progress) := (ExceptT.run job).run ⟨scene, "", ""⟩
  let logged := (logging.console time progress.scene.journal.records).toOption.getD ""
  ⟨endingOf result, progress.printed, logged ++ progress.complaints, progress.scene⟩

end Outcome

def run (w : World) (scene : Scene) (words : List String) : Outcome :=
  match readSession words with
  | .error stop => .idle scene (.stops stop)
  | .ok (session, command, rest) =>
    match Log.levelOf (.text session.logLevel) with
    | .error f => .idle scene (.fails (.fault f))
    | .ok level =>
      match readRequest command rest with
      | .error stop => .idle scene (.stops stop)
      | .ok request =>
        .ofJob ⟨level, session.jsonLogs, none, w.hostName⟩ w.time scene (request.job w session)

end DocLedger.Cli
