import NodeGraph.Runner.Run

/-!
# The runner's command line

`main` runs the runner on the real file system and the host's monotonic clock: its first argument
names the settings file (`runner.ron` in the working directory by default). Log lines go to
standard output, warnings about the log filter and fault reports to standard error, and the exit
code is the run's.
-/

namespace NodeGraph

/-- The file error for a failed read. -/
def FileError.ofIo : IO.Error → FileError
  | .noFileOrDirectory .. => .notFound
  | .inappropriateType _ 20 _ => .notDirectory
  | .inappropriateType _ 21 _ | .otherError 21 _ => .isDirectory
  | .permissionDenied .. => .other "Permission denied (os error 13)"
  | e => .other (toString e)

/-- Reads a text file, giving the reason when it cannot be read. -/
def readText (p : String) : IO (Except FileError String) := do
  try
    return .ok (← IO.FS.readFile p)
  catch e =>
    return .error (FileError.ofIo e)

/-- Seconds since the time kept in `last` (zero when none is kept), keeping the time now; whole
seconds and nanoseconds are converted apart, as a duration is. -/
def elapsedSince (last : IO.Ref (Option Nat)) : IO Float32 := do
  let now ← IO.monoNanosNow
  let before ← last.get
  last.set (some now)
  match before with
  | none => return 0
  | some t =>
    let d := now - t
    return (d / 1000000000).toFloat32 + (d % 1000000000).toFloat32 / 1000000000

end NodeGraph

/-- Runs the graph runner with the command-line arguments. -/
def main (args : List String) : IO UInt32 := do
  let last ← IO.mkRef none
  let o ← NodeGraph.runRunner NodeGraph.readText (NodeGraph.elapsedSince last) args
  for line in o.stdout do
    IO.println line
  for line in o.stderr do
    IO.eprintln line
  return o.exit.toUInt32
