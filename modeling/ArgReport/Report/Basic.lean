import ArgReport.Diagnostic
import ArgReport.Run
import ArgReport.Text.Quoted

/-!
# Reports on arguments

A report has one block for each argument, in order. A block is the notice, the
border, what each reporter says about the argument, and the border again. The
notice is flushed as soon as it is written, and nothing else is.

The first thing that fails ends the report. The failure tells which part it was
and why, and for a reporter also its name and the argument.
-/

namespace ArgReport

/-- The text that opens every block. -/
def noticeText : String := "Here is a little message...\n"

/-- What frames the words of the reporters: sixty stars. -/
def borderText : String := String.ofList (List.replicate 60 '*')

/-- Write a notice and flush it. -/
def writeNotice (text : String) : EStateM SinkError Sink Unit := do
  Sink.writeAll (utf8 text)
  Sink.flush

/-- Write the border and end the line. -/
def writeBorder : EStateM SinkError Sink Unit :=
  Sink.writeEach [utf8 borderText, utf8 "\n"]

/-- What ended a report. -/
inductive Failure
  /-- A notice could not be written or flushed. -/
  | notice (cause : SinkError)
  /-- A border could not be written. -/
  | border (cause : SinkError)
  /-- A reporter failed on an argument. -/
  | reporter (name : String) (argument : String) (cause : ReporterError)
  deriving DecidableEq, Repr

namespace Failure

/-- Which part of the report failed. -/
def context : Failure -> String
  | .notice _ => "writing message"
  | .border _ => "writing banner"
  | .reporter name argument _ =>
      name ++ " failed on " ++ Quoted.quote argument

/-- Why it failed. -/
def reason : Failure -> String
  | .notice cause => cause.message
  | .border cause => cause.message
  | .reporter _ _ cause => cause.message

/-- The reason within the part that failed. -/
def diagnostic (failure : Failure) : Diagnostic :=
  Diagnostic.within { root := failure.reason } failure.context

@[simp] theorem chain_diagnostic (failure : Failure) :
    failure.diagnostic.chain = [failure.context, failure.reason] := by
  simp [diagnostic]

/-- A failure is told as its context and its reason. -/
theorem line_diagnostic (failure : Failure) :
    failure.diagnostic.line =
      "error: " ++ (failure.context ++ ": " ++ failure.reason) := by
  simp [Diagnostic.line]

end Failure

namespace Report

/-- Ask each reporter in turn about an argument. The reporters are numbered from
`index` on. Those after one that fails are not asked. -/
def consult (argument : String) (index : Nat) (sink : Sink) :
    List Reporter -> Run Failure
  | [] => Run.idle sink []
  | reporter :: rest =>
      let call : Call := { index, reporter, argument }
      match reporter.report argument sink with
      | .error cause sink =>
          { result := .error (.reporter reporter.name argument cause)
            sink
            reporters := reporter.asked :: rest
            calls := [call] }
      | .ok () sink =>
          let further := consult argument (index + 1) sink rest
          { further with
            reporters := reporter.asked :: further.reporters
            calls := call :: further.calls }

/-- Write the notice that opens a block. -/
def openBlock : Sink -> List Reporter -> Run Failure :=
  Run.writing .notice (writeNotice noticeText)

/-- Write the border above or below the words of the reporters. -/
def drawBorder : Sink -> List Reporter -> Run Failure :=
  Run.writing .border writeBorder

/-- Write the block of one argument. -/
def block
    (argument : String)
    (index : Nat)
    (sink : Sink)
    (reporters : List Reporter) : Run Failure :=
  (((openBlock sink reporters).andThen drawBorder).andThen
    (consult argument index)).andThen drawBorder

/-- Write the blocks of all arguments. -/
def blocks (index : Nat) :
    List String -> Sink -> List Reporter -> Run Failure
  | [], sink, reporters => Run.idle sink reporters
  | argument :: rest, sink, reporters =>
      (block argument index sink reporters).andThen (blocks index rest)

@[simp] theorem blocks_nil
    (index : Nat)
    (sink : Sink)
    (reporters : List Reporter) :
    blocks index [] sink reporters = Run.idle sink reporters := rfl

@[simp] theorem blocks_cons
    (index : Nat)
    (argument : String)
    (rest : List String)
    (sink : Sink)
    (reporters : List Reporter) :
    blocks index (argument :: rest) sink reporters =
      (block argument index sink reporters).andThen (blocks index rest) := rfl

end Report
end ArgReport
