/-!
# Usage

A command line begins with the program's name and must have something after it.
A command line that has not is refused with a message that says how the program
is called.
-/

namespace ArgReport

/-- The program's name in its usage line. -/
def programName : String := "myapp"

/-- The line that says how the program is called. -/
def usageLine : String := "Usage: " ++ programName ++ " <ARGS>..."

/-- What is wrong with a command line that has no arguments. -/
def usageComplaint : String := "at least one argument is required"

/-- Why a command line is refused. -/
inductive UsageError
  /-- Nothing comes after the program's name. -/
  | missingArgument
  deriving DecidableEq, Repr

namespace UsageError

/-- The message that goes with the refusal. -/
def message : UsageError -> String
  | .missingArgument =>
      "error: " ++ usageComplaint ++ "\n\n" ++ usageLine ++ "\n"

/-- The status with which the program ends. -/
def exitStatus : UsageError -> Nat
  | .missingArgument => 2

/-- The message goes to the error output rather than to the output. -/
def OnErrorOutput : UsageError -> Prop
  | .missingArgument => True

instance (error : UsageError) : Decidable error.OnErrorOutput :=
  match error with
  | .missingArgument => isTrue trivial

end UsageError

/-- Accept a command line that has an argument besides the program's name. -/
def checkUsage (arguments : List String) : Except UsageError Unit :=
  if arguments.length < 2 then
    .error .missingArgument
  else
    .ok ()

theorem checkUsage_eq_ok_iff {arguments : List String} :
    checkUsage arguments = .ok () ↔ 2 ≤ arguments.length := by
  unfold checkUsage
  split
  · simp
    omega
  · simp
    omega

end ArgReport
