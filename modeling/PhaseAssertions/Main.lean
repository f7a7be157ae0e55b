import PhaseAssertions.Command.Run

/-!
# The program

The outermost layer: it looks up the variables of the environment and the files
that the command line names, runs the command on them, and prints what comes of
it.  Log lines start with the seconds since the start of the system clock.
-/

namespace PhaseAssertions.Program

/-- Why the operating system refused something. -/
def faultOf : IO.Error → AccessFault
  | .noFileOrDirectory _ _ _ => .notFound
  | .inappropriateType _ 20 _ => .notDirectory
  | .inappropriateType _ 21 _ => .isDirectory
  | .permissionDenied _ code _ => .other "Permission denied" code.toNat
  | error => .other (toString error) 5

def lookUp (path : String) : IO (Except AccessFault FileEntry) := do
  if path.isEmpty then return .error .notFound
  let place := (← IO.currentDir) / path
  try
    let metadata ← place.metadata
    if metadata.type == .dir then
      return .ok (.directory metadata.byteSize.toNat)
    return .ok (.file (← IO.FS.readBinFile place).toList)
  catch error =>
    return .error (faultOf error)

/-- The variables of the environment that a run depends on. -/
def readEnvironment : IO (String → Option String) := do
  let values ← environmentNames.mapM fun name => return (name, ← IO.getEnv name)
  return fun name => (values.lookup name).join

def readFiles (paths : List String) : IO Files := do
  let entries ← paths.mapM fun path => return (path, ← lookUp path)
  return {
    directory := (← IO.currentDir).toString
    find := fun path => (entries.lookup path).getD (.error .notFound) }

def clock : IO String := do
  let milliseconds ← IO.monoMsNow
  let fraction := toString (1000 + milliseconds % 1000)
  return toString (milliseconds / 1000) ++ "." ++ (fraction.drop 1).toString

def run (environment : String → Option String) (invocation : Invocation) : IO UInt32 := do
  let files ← readFiles invocation.command.paths
  let outcome := invocation.run environment files
  let errors ← IO.getStderr
  let style := invocation.lineStyle environment (← errors.isTty)
  let time ← clock
  for record in outcome.records do
    errors.putStrLn (record.line style time)
  IO.print outcome.output
  errors.putStr outcome.complaint
  return UInt32.ofNat outcome.exitCode

end PhaseAssertions.Program

open PhaseAssertions in
def main (arguments : List String) : IO UInt32 := do
  let environment ← Program.readEnvironment
  match CommandLine.parse environment arguments with
  | .ok invocation => Program.run environment invocation
  | .error error =>
    IO.print (error.output Version.number)
    (← IO.getStderr).putStr error.complaint
    return UInt32.ofNat error.exitCode
