import SecretRotation.CommandLine.Run
import SecretRotation.Material.Stream
import Std.Time.DateTime.Timestamp

/-!
# The command

What a command finds is read from the machine, and what it comes to is printed. No cluster is known to this command, so a
cycle ends where it would be reached.
-/

namespace SecretRotation.Main

/-- How the command is used. -/
def usage : String := linesText [
  "Usage: warden [OPTIONS] <COMMAND>",
  "",
  "Commands:",
  "  reconcile     Run one cycle over a secret",
  "  check-config  Validate the configuration and print a summary",
  "  windows       Show the maintenance windows",
  "",
  "Options:",
  "  -c, --config <CONFIG>        Path of the configuration file",
  "  -l, --log-level <LOG_LEVEL>  Log level",
  "      --json-logs              Write logs as JSON",
  "  -h, --help                   Show this help",
  "  -V, --version                Show the version"]

/-- What stands under a path. -/
def readFile (path : String) : IO FileContent := do
  try
    let content ← IO.FS.readBinFile path
    return .bytes content
  catch
    | .noFileOrDirectory .. => return .missing
    | .permissionDenied .. => return .denied
    | _ => return .directory

/-- The variables that matter. -/
def readEnvironment : IO Environment := do
  let mut found := []
  for name in Environment.names do
    if let some value ← IO.getEnv name then
      found := (name, value) :: found
  return .ofList found

/-- The present, at whole nanoseconds. -/
def readClock : IO Instant := do
  let now ← Std.Time.Timestamp.now
  let nanos := now.toNanosecondsSinceUnixEpoch.toInt
  return ⟨nanos / 1000000000, (nanos % 1000000000).toNat % 2000000000, Nat.mod_lt _ (by decide)⟩

/-- Runs a command and prints what it comes to. -/
def execute (i : Invocation) (environment : Environment) : IO UInt32 := do
  let path := i.configPath.getD Settings.systemPath
  let content ← readFile path
  let seed ← IO.getRandomBytes 64
  let host : Host := {
    file := fun _ => content,
    environment,
    now := ← readClock,
    cluster := .error (.setup "no cluster is configured"),
    entropy := .ofSeed seed.toList,
    keys := .standard }
  match (i.run host).result with
  | .ok lines =>
    IO.print (linesText lines)
    return 0
  | .error failure =>
    IO.eprint failure.report
    return 1

end SecretRotation.Main

open SecretRotation in
/-- The command line. -/
def main (words : List String) : IO UInt32 := do
  let environment ← Main.readEnvironment
  match Invocation.parse environment words with
  | .ok invocation => Main.execute invocation environment
  | .error .help =>
    IO.print Main.usage
    return 0
  | .error .version =>
    IO.println versionText
    return 0
  | .error .usage =>
    IO.eprint Main.usage
    return 2
