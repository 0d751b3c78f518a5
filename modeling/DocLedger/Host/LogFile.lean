import DocLedger.Host.Files
import DocLedger.Log.Setup
import DocLedger.Value.Keywords

/-!
# Log files

A log file is named by a path, which is taken from the directory in which the
program works and made as short as its parts allow.  The file is created where
there is none, but its directory has to be there.  Only then is the level of
the setup looked at.
-/

namespace DocLedger.Host

/-- A place as it is shown.  The directory in which the program works stands for
all that leads to it. -/
def Files.shownPlace (files : Files) (place : Place) : String :=
  let shown := Text.joined "/" place
  if !files.home.isEmpty && files.home.isPrefixOf place then shown else "/" ++ shown

def pathOf : Value → Except Fault String
  | .text path => .ok path
  | .bytes bs => .ok (Text.Utf8.decodeString bs)
  | v => .error (.notPath v.qualifiedTypeName)

/-- Where a log file is to be.  The path must not be that of a directory, and
what leads to it has to be one. -/
def Files.logPlace (files : Files) (path : String) : Except Fault Place :=
  let place := placeOf files.home path
  let shown := files.shownPlace place
  if path.contains (Char.ofNat 0) then .error .nulByte
  else match files.walk [] place, files.walk [] place.dropLast with
    | .entry _ .directory, _ => .error (.os (.directory shown))
    | .entry .., _ => .ok place
    | _, .entry _ .directory => .ok place
    | _, .missing => .error (.os (.notFound shown))
    | _, _ => .error (.os (.notDirectory shown))

def setupSignature : Signature :=
  .ofFunction "configure_logging" [] ["level", "json_format", "log_file"]

/-- The setup that some arguments make on a host. -/
def Files.logSetup (files : Files) (host : String) (arguments : List (Value × Value)) :
    Except Fault Log.Setup := do
  setupSignature.check arguments
  let given := Value.argument arguments "log_file"
  let file ← if given.truthy then do
      let path ← pathOf given
      let _ ← files.logPlace path
      pure (some path)
    else pure none
  let level ← Log.levelOf (Value.argument arguments "level" (.text "INFO"))
  return ⟨level, (Value.argument arguments "json_format" (.bool true)).truthy, file, host⟩

end DocLedger.Host
