import ArgReport.CommandLine

/-!
# The executable

The outer layer reads the arguments, lets the program run on them, and passes on
what it ends with. Lean gives a program its arguments without the name it was
called by, so the entry of the name is the one in the usage line.
-/

namespace ArgReport

/-- What an error of the real output means for the program. -/
def Output.ofError? : IO.Error -> Option Output
  | .resourceVanished _ _ => some .closed
  | .resourceExhausted _ _ _ => some .full
  | _ => none

/-- Pass on an exit. The answer is the status. -/
def Exit.emit (exit : Exit) : IO UInt32 := do
  let stdout ← IO.getStdout
  let stderr ← IO.getStderr
  stdout.write exit.output.toByteArray
  stdout.flush
  stderr.putStr exit.errors
  return UInt32.ofNat exit.status

end ArgReport

open ArgReport in
/-- Report on the arguments of the command line. -/
def main (arguments : List String) : IO UInt32 := do
  let entries := (programName :: arguments).map utf8
  try
    (runProgram .pipe entries).emit
  catch error =>
    match Output.ofError? error with
    | some output => (runProgram output entries).emit
    | none => throw error
