import IssueGraph.CommandLine.Run
import IssueGraph.CommandLine.Usage

/-!
# The program

Reads the files that a command line names, runs it and prints what comes of it.
-/
namespace IssueGraph.Program

open CommandLine

/-- The number of an error of the system, which may be given as a negative one. -/
def number (code : UInt32) : Nat := min code.toNat (-code).toNat

/-- The fault that an error of the system reports. -/
def fault : IO.Error → FileFault
  | .noFileOrDirectory .. => .notFound
  | .inappropriateType _ code text | .invalidArgument _ code text | .permissionDenied _ code text =>
    match number code with
    | 20 => .notDirectory
    | 21 => .isDirectory
    | 36 => .nameTooLong
    | n => .other n text
  | e => .other 5 e.toString

/-- The bytes of a file. -/
def readFile (path : String) : IO (Except FileFault (List UInt8)) := do
  try
    return .ok (← IO.FS.readBinFile path).toList
  catch e =>
    return .error (fault e)

/-- The files at some paths, as they are now. -/
def readFiles (paths : List String) : IO Files := do
  let found ← paths.mapM fun path => return (path, ← readFile path)
  return .ofRead fun path => (found.lookup path).getD (.error .notFound)

/-- The terminal and the environment variables that reports look at. The system is not asked for the
columns of the terminal. -/
def console : IO Report.Console := do
  let names := ["BLOCKGRAPH_MAX_WIDTH", "BLOCKGRAPH_ASCII", "BLOCKGRAPH_COLOR", "NO_COLOR"]
  let values ← names.mapM fun name => return (name, ← IO.getEnv name)
  return {
    environment := fun name => (values.lookup name).join
    takesColor := ← (← IO.getStdout).isTty }

/-- Run an invocation, and say whether it succeeded. -/
def run (i : Invocation) : IO Bool := do
  let files ← readFiles (Board.paths i.file i.config)
  let outcome := i.run files (← console)
  outcome.log.forM fun entry => IO.eprintln entry.text
  IO.print outcome.output
  match outcome.failure with
  | some failure =>
    IO.eprintln ("Error: " ++ failure.message)
    return false
  | none => return true

end IssueGraph.Program

def main (args : List String) : IO UInt32 := do
  match IssueGraph.CommandLine.Invocation.ofArguments args with
  | .ok invocation => return if ← IssueGraph.Program.run invocation then 0 else 1
  | .error stop =>
    if stop.isWanted then
      IO.println stop.message
      return 0
    IO.eprintln stop.message
    return 2
