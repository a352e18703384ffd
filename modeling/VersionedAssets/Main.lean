import VersionedAssets.CommandLine
import VersionedAssets.FileTree.Listing

/-! # The program

Reads its settings from arguments and variables of the environment and the files that it serves from
a listing on standard input. Records go to standard error.
-/

namespace VersionedAssets.Program

/-- The variables of the environment that are set. -/
def readVariables : IO Variables :=
  Config.variableNames.filterMapM fun name => do
    return (← IO.getEnv name).map fun value => (name, value)

/-- The lines of a stream up to its end, after those in `done`, which are in reverse. -/
partial def readLines (input : IO.FS.Stream) (done : List String) : IO (List String) := do
  let line ← input.getLine
  if line.isEmpty then return done.reverse
  else readLines input (Text.join "" (Text.pieces '\n' line) :: done)

/-- Prints the journal. -/
def printJournal (world : World) : IO Unit :=
  world.journal.forM fun record => IO.eprintln record.line

/-- Runs the program after its arguments have been read. -/
def run (invocation : CommandLine.Invocation) : IO UInt32 := do
  let env ← readVariables
  let files := FileTree.ofLines (← readLines (← IO.getStdin) [])
  let (outcome, world) := CommandLine.run invocation env {} { host := { files } }
  printJournal world
  match outcome with
  | .ok outcome =>
    IO.print outcome.output
    IO.eprint outcome.errors
    return outcome.status.toUInt32
  | .error fault =>
    IO.eprintln (fault.kind ++ ": " ++ fault.message)
    return 1

end VersionedAssets.Program

/-- Serves resources, or prints the URL of one of them. -/
def main (arguments : List String) : IO UInt32 := do
  match VersionedAssets.CommandLine.parse arguments with
  | .ok invocation => VersionedAssets.Program.run invocation
  | .error ending =>
    IO.print ending.output
    return ending.status.toUInt32
