import ChangeRouting.CommandLine.Execute
import Std.Time.DateTime.Timestamp

/-!
# ChangeRouting.Main

The program: commands on the files of this machine, and cycles that go on until one fails for good.
-/

namespace ChangeRouting

/-- The outcome of an action, a failure as a fault. -/
def guardedAction (action : IO α) : IO (Except Fault α) := do
  try return .ok (← action)
  catch failure => return .error (.file (toString failure))

/-- The files of this machine. -/
def machineFiles : FileSystem IO where
  read path := do
    try return .ok (some (← IO.FS.readFile path))
    catch
      | .noFileOrDirectory .. => return .ok none
      | failure => return .error (.file (toString failure))
  write path text := guardedAction (IO.FS.writeFile path text)
  makeDirectory path := guardedAction (IO.FS.createDirAll path)

/-- The time by the clock of this machine. -/
def clock : IO Millis := do
  return (← Std.Time.Timestamp.now).toMillisecondsSinceUnixEpoch.val

/-- Run work of a command and print what it printed. -/
def printing (work : Shell IO α) : IO (Except Fault α) := do
  let (result, output) ← work.run.run ""
  (← IO.getStdout).putStr output
  (← IO.getStdout).flush
  return result

/-- Run cycle after cycle, an interval apart, until one fails for good. -/
partial def keepRouting (config : Configuration) (filter : LogFilter) (service : Service) :
    IO Fault := do
  match ← printing (Shell.attempt machineFiles filter (← clock) config service) with
  | .error fault => return fault
  | .ok service =>
    IO.sleep config.routing.interval.toUInt32
    keepRouting config filter service

end ChangeRouting

open ChangeRouting

/-- Do what the arguments ask for. -/
def main (arguments : List String) : IO UInt32 := do
  let complain (complaint : String) : IO Unit := do
    if complaint ≠ "" then IO.eprintln complaint
  match ← execute machineFiles (← clock) arguments with
  | .ended status output complaint =>
    IO.print output
    complain complaint
    return status.toUInt32
  | .running output config filter =>
    IO.print output
    match ← printing (Shell.service machineFiles filter (← clock) config) with
    | .error fault =>
      complain ("Error: " ++ fault.message)
      return 1
    | .ok (service, _) =>
      let fault ← keepRouting config filter service
      complain ("Error: " ++ fault.message)
      return 1
