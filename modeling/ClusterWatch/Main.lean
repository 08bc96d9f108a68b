import ClusterWatch.CommandLine.Run
import Std.Time.DateTime.Timestamp

/-!
The command line of the program: takes arguments, environment, files and time from the system, and
hands them to `CommandLine.run`.
-/

namespace ClusterWatch.CommandLine

def usageText : String :=
  "Usage: clusterwatch [--config PATH] <sysctls|names|validate|status>\n"

def readText (path : String) : IO (Except FileError String) := do
  try
    match String.fromUTF8? (← IO.FS.readBinFile path) with
    | some text => return .ok text
    | none => return .error .notText
  catch
    | .noFileOrDirectory .. => return .error .missing
    | e => return .error (.other (toString e))

def currentTime : IO Timestamp := do
  let now ← Std.Time.Timestamp.now
  let nanoseconds := now.toNanosecondsSinceUnixEpoch.toInt.toNat
  return .ofUnix (nanoseconds / 1000000000) (nanoseconds % 1000000000)

def readEnvironment : IO Environment := do
  let names := ["RACTOPO_CONFIG", "RACTOPO_SCRIPT_MOUNT", "RACTOPO_PYTHON"]
  let values ← names.mapM fun name => return (name, ← IO.getEnv name)
  return fun name => (values.lookup name).join

/-- Reads the files that a command may ask for. -/
def readFiles (env : Environment) (args : Arguments) : IO Files := do
  let config := args.config.getD env.configPath
  let paths :=
    match args.command with
    | .status fixture .. => [config, fixture]
    | _ => [config]
  let texts ← paths.mapM fun path => return (path, ← readText path)
  return fun path => (texts.lookup path).getD (.error .missing)

end ClusterWatch.CommandLine

open ClusterWatch.CommandLine in
/-- Carries out a command line and answers with the exit code. -/
def main (args : List String) : IO UInt32 := do
  match Arguments.parse args with
  | .error usage =>
    if usage = .information then IO.print usageText else IO.eprint usageText
    return UInt32.ofNat usage.exitCode
  | .ok args =>
    let env ← readEnvironment
    let files ← readFiles env args
    match run env files (← currentTime) args with
    | .ok text =>
      IO.print text
      return 0
    | .error e =>
      IO.eprintln e.message
      return 1
