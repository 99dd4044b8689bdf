import Untrack.Command.Log
import Untrack.Command.Run

/-!
# The command line

Reads the arguments and the environment, runs the command, and writes what it
reports. Rules come over a transport, and the one that stands here reaches no
server.
-/

namespace Untrack.Main

/-- The variables of the environment that stand in for settings. -/
def environment : IO (String → Option String) := do
  let values ← Command.Setting.all.mapM fun setting => do
    return (setting.variableName, ← IO.getEnv setting.variableName)
  return fun name => (values.lookup name).join

/-- Why a file could not be opened. -/
def faultText : IO.Error → String
  | .noFileOrDirectory _ code _ =>
      "No such file or directory (os error " ++ toString code ++ ")"
  | .permissionDenied _ code _ =>
      "Permission denied (os error " ++ toString code ++ ")"
  | .inappropriateType _ code _ =>
      "Is a directory (os error " ++ toString code ++ ")"
  | other => toString other

/-- The file for a log, opened at its end, or why there is none. -/
def openLog (location : String) : IO (Except String IO.FS.Handle) := do
  try
    return .ok (← IO.FS.Handle.mk location .append)
  catch fault =>
    return .error (faultText fault)

/-- Write the notices of a report, one to a line. -/
def writeLog (log : IO.FS.Stream) (report : Command.Report) : IO Unit :=
  report.notices.forM fun notice =>
    log.putStrLn (Command.logLine notice)

/-- Write what a report says on the two standard streams. -/
def writeReport (report : Command.Report) : IO Unit := do
  report.printed.forM fun line => IO.println line
  report.complaints.forM fun line => IO.eprintln line

/-- Run the command with some options. -/
def runWith (options : Command.Options) : IO Command.Report := do
  let now ← IO.monoMsNow
  let run (fault : Option String) : Command.Report :=
    (Command.run (fun _ => fault) Http.unreachable (fun _ => now) options ()).report
  if Command.isStream options.logLocation then
    let report := run none
    let log ←
      if options.logLocation = "stdout" then IO.getStdout else IO.getStderr
    writeLog log report
    return report
  else
    match ← openLog options.logLocation with
    | .error fault => return run (some fault)
    | .ok file =>
        let report := run none
        writeLog (IO.FS.Stream.ofHandle file) report
        return report

end Untrack.Main

/-- Follow the arguments, or say why not. -/
def main (arguments : List String) : IO UInt32 := do
  let report ←
    match Untrack.Command.readOptions (← Untrack.Main.environment) arguments with
    | .ok options => Untrack.Main.runWith options
    | .error stop => pure stop.report
  Untrack.Main.writeReport report
  return report.exitCode.toUInt32
