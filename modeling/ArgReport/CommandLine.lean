import ArgReport.Report.Basic
import ArgReport.Text.Lossy
import ArgReport.Usage

/-!
# The program on a command line

The program is given its command line as entries of any bytes, the first being
its own name. It decodes them, checks that there is an argument, and reports on
every entry. How that ends is an exit: a status and what went to the output and
to the error output.

An output that nobody reads, or that has no room, takes nothing at all. It is a
sink with a fault at its very beginning.
-/

namespace ArgReport

/-- Where the output of the program goes. -/
inductive Output
  /-- To a reader who takes everything. -/
  | pipe
  /-- To a reader who has gone. -/
  | closed
  /-- To a device without room. -/
  | full
  deriving DecidableEq, Repr

/-- What the output says to a write, if it does not take it. -/
def Output.refusal? : Output -> Option Refusal
  | .pipe => none
  | .closed => some (.system .brokenPipe)
  | .full => some (.system .noSpace)

/-- The output as a sink to which nothing has been written. -/
def Output.sink (output : Output) : Sink :=
  { faults := output.refusal?.toList.map fun refusal =>
      { place := 0, effect := .refuse refusal } }

/-- How the program ends. -/
structure Exit where
  /-- Zero if everything was reported. -/
  status : Nat
  /-- The bytes that the output took. -/
  output : List UInt8
  /-- The text on the error output. -/
  errors : String
  deriving DecidableEq, Repr

/-- The exit of a run over all entries. -/
def Run.exit (run : Run Failure) : Exit :=
  match run.result with
  | .ok () => { status := 0, output := run.sink.bytes, errors := "" }
  | .error failure =>
      { status := 1
        output := run.sink.bytes
        errors := failure.diagnostic.line ++ "\n" }

/-- Run the program on the entries of a command line. -/
def runProgram (output : Output) (entries : List (List UInt8)) : Exit :=
  let arguments := entries.map decodeLossy
  match checkUsage arguments with
  | .error error =>
      { status := error.exitStatus, output := [], errors := error.message }
  | .ok () =>
      (Report.blocks 0 arguments output.sink Reporter.defaults).exit

end ArgReport
