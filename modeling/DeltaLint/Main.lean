import DeltaLint.Cli.Command
import DeltaLint.Description

/-!
# The program

The machine to work on is described on standard input, as one JSON document.
The program runs its command line on it, writes what the command writes, and
ends with its status.
-/

namespace DeltaLint

/-- Writes one thing to the stream it is for; what goes to files stays in the description. -/
def put (w : Write) : IO Unit := do
  match w.channel with
  | .stdout => (← IO.getStdout).putStr w.text
  | .stderr => (← IO.getStderr).putStr w.text
  | .file _ => pure ()

/-- Tells of a failure that nobody expected. -/
def tellFailure (f : Failure) : IO Unit := do
  (← IO.getStderr).putStr (f.message ++ "\n")

/-- Runs a command line on a description. -/
def runOn (description : String) (args : List String) : IO UInt32 := do
  let d := (Json.read description.toList).getD .null
  let o := Cli.run (Description.surroundings d) args
  o.writes.forM put
  o.failure.forM tellFailure
  return o.status.toUInt32

end DeltaLint

def main (args : List String) : IO UInt32 := do
  DeltaLint.runOn (← (← IO.getStdin).getLine) args
