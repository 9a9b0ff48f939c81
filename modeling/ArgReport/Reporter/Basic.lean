import ArgReport.Reporter.Builtin

/-!
# Reporters

A reporter is asked about arguments one at a time. It is either built in, or it
follows a script: it counts the times it is asked, may write a fixed text, and
may fail on a given call or on a given argument.

Asking a reporter has two effects that do not depend on each other. The sink
takes what the reporter writes, which may fail part of the way, and the reporter
counts the call, whatever becomes of it.
-/

namespace ArgReport

/-- What a scripted reporter does each time it is asked. -/
structure Script where
  /-- The reporter's name. -/
  name : String
  /-- The text it writes, if it writes any. -/
  output : Option String := none
  /-- The number of the call on which it fails. -/
  failingCall : Option Nat := none
  /-- The argument on which it fails. -/
  failingArgument : Option String := none
  /-- What it says when it fails. -/
  complaint : String := "boom"
  deriving DecidableEq, Repr

/-- The script lets this call about this argument fail. Calls count from one. -/
def Script.Fails
    (script : Script)
    (call : Nat)
    (argument : String) : Prop :=
  script.failingCall = some call ∨ script.failingArgument = some argument

instance (script : Script) (call : Nat) (argument : String) :
    Decidable (script.Fails call argument) :=
  inferInstanceAs (Decidable (_ ∨ _))

/-- A reporter and, if it is scripted, how often it has been asked. -/
inductive Reporter
  /-- One of the reporters that come with the program. -/
  | standard (builtin : Builtin)
  /-- A reporter that follows a script, and the calls it has counted. -/
  | scripted (script : Script) (calls : Nat := 0)
  deriving DecidableEq, Repr

/-- Why a reporter failed. -/
inductive ReporterError
  /-- The line of a built-in reporter could not be written. -/
  | line (builtin : Builtin) (cause : SinkError)
  /-- The text of a scripted reporter could not be written. -/
  | output (cause : SinkError)
  /-- The script says so. -/
  | scripted (complaint : String)
  deriving DecidableEq, Repr

/-- The text of the error. -/
def ReporterError.message : ReporterError -> String
  | .line builtin cause => builtin.label ++ " write: " ++ cause.message
  | .output cause => cause.message
  | .scripted complaint => complaint

/-- Write the text of a script, if it has one. -/
def Script.write (script : Script) : EStateM ReporterError Sink Unit :=
  match script.output with
  | none => pure ()
  | some text => EStateM.adaptExcept .output (Sink.writeAll (utf8 text))

namespace Reporter

/-- The reporters that the program asks about each argument. -/
def defaults : List Reporter :=
  Builtin.all.map Reporter.standard

/-- The name under which a reporter's failures are told. -/
def name : Reporter -> String
  | .standard builtin => builtin.label
  | .scripted script _ => script.name

/-- The reporter after it has been asked once more. -/
def asked : Reporter -> Reporter
  | .standard builtin => .standard builtin
  | .scripted script calls => .scripted script (calls + 1)

/-- Write what the reporter has to say about an argument. -/
def report (reporter : Reporter) (argument : String) :
    EStateM ReporterError Sink Unit :=
  match reporter with
  | .standard builtin =>
      EStateM.adaptExcept (.line builtin) (builtin.write argument)
  | .scripted script calls => do
      script.write
      if script.Fails (calls + 1) argument then
        throw (.scripted script.complaint)

/-- The whole text that the reporter writes about an argument. -/
def text : Reporter -> String -> String
  | .standard builtin, argument => builtin.line argument
  | .scripted script _, _ => script.output.getD ""

end Reporter

/-- One time that a reporter was asked. -/
structure Call where
  /-- The reporter's place in its list. -/
  index : Nat
  /-- The reporter as it was before the call. -/
  reporter : Reporter
  /-- What it was asked about. -/
  argument : String
  deriving DecidableEq, Repr

/-- The note that a scripted reporter makes of a call: its name, the number of
the call, and the argument. Built-in reporters make none. -/
def Call.note? (call : Call) : Option String :=
  match call.reporter with
  | .standard _ => none
  | .scripted script calls =>
      some (script.name ++ "#" ++ toString (calls + 1) ++ ":" ++ call.argument)

end ArgReport
