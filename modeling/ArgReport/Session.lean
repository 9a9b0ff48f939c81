import ArgReport.Report.Basic
import ArgReport.Usage

/-!
# Sessions at a desk

A desk is a sink and the reporters that write to it. It can be asked for one
thing at a time: a line, a call of a reporter, a notice, a border, a report by
some of the reporters, or the check of a command line. Whatever a step leaves
behind, in the sink and in the reporters, the next step finds.

The answer to a step says how it ended and shows what it added: bytes, flushed
positions and calls. A failed step does not end the session.
-/

namespace ArgReport

/-- One thing to ask of a desk. -/
inductive Step
  /-- The line of a built-in reporter about an argument. -/
  | line (builtin : Builtin) (argument : String)
  /-- A call of the reporter at a place of the desk. -/
  | consult (index : Nat) (argument : String)
  /-- A notice of any text. -/
  | notice (text : String)
  /-- A border. -/
  | border
  /-- A report by the reporters from one place up to, but not at, another. -/
  | report (arguments : List String) (first : Nat) (last : Nat)
  /-- The check of a command line. -/
  | check (arguments : List String)
  deriving DecidableEq, Repr

/-- How a step can fail. -/
inductive StepError
  /-- A reporter failed. -/
  | reporter (cause : ReporterError)
  /-- The sink failed. -/
  | sink (cause : SinkError)
  /-- A report ended early. -/
  | report (failure : Failure)
  /-- A command line was refused. -/
  | usage (error : UsageError)
  deriving DecidableEq, Repr

/-- The text of the error. For a report it is the part that failed. -/
def StepError.message : StepError -> String
  | .reporter cause => cause.message
  | .sink cause => cause.message
  | .report failure => failure.diagnostic.headline
  | .usage error => error.message

/-- What a step answers. -/
structure Answer where
  /-- Whether the step succeeded. -/
  result : Except StepError Unit
  /-- The bytes accepted during the step. -/
  out : List UInt8
  /-- The positions flushed during the step. -/
  flushes : List Nat
  /-- The calls made during the step. -/
  calls : List Call
  /-- The position after the step. -/
  position : Nat

/-- The notes that scripted reporters made during the step. -/
def Answer.log (answer : Answer) : List String :=
  answer.calls.filterMap Call.note?

/-- A sink and the reporters that write to it. -/
structure Desk where
  /-- The sink. -/
  sink : Sink
  /-- The reporters. -/
  reporters : List Reporter
  deriving DecidableEq, Repr

namespace Desk

/-- The desk has every reporter that a step names. -/
def Serves (desk : Desk) : Step -> Prop
  | .consult index _ => index < desk.reporters.length
  | .report _ first last =>
      first ≤ last ∧ last ≤ desk.reporters.length
  | .line _ _ | .notice _ | .border | .check _ => True

instance (desk : Desk) (step : Step) : Decidable (desk.Serves step) :=
  match step with
  | .consult index _ =>
      inferInstanceAs (Decidable (index < desk.reporters.length))
  | .report _ first last =>
      inferInstanceAs
        (Decidable (first ≤ last ∧ last ≤ desk.reporters.length))
  | .line _ _ | .notice _ | .border | .check _ => isTrue trivial

/-- Ask the reporter at a place. Where no reporter is, nothing happens. -/
def consult (desk : Desk) (index : Nat) (argument : String) : Run StepError :=
  match desk.reporters[index]? with
  | none => Run.idle desk.sink desk.reporters
  | some reporter =>
      let asked := desk.reporters.set index reporter.asked
      let run :=
        Run.writing .reporter (reporter.report argument) desk.sink asked
      { run with calls := [{ index, reporter, argument }] }

/-- Report on some arguments with some of the reporters. The others stay as
they are. -/
def report
    (desk : Desk)
    (arguments : List String)
    (first last : Nat) : Run StepError :=
  let before := desk.reporters.take first
  let chosen := (desk.reporters.drop first).take (last - first)
  let after := (desk.reporters.drop first).drop (last - first)
  let run := Report.blocks first arguments desk.sink chosen
  { result := run.result.mapError .report
    sink := run.sink
    reporters := before ++ run.reporters ++ after
    calls := run.calls }

/-- Check a command line. The desk is not touched. -/
def check (desk : Desk) (arguments : List String) : Run StepError :=
  { result := (checkUsage arguments).mapError .usage
    sink := desk.sink
    reporters := desk.reporters
    calls := [] }

/-- Do what a step asks for. -/
def perform (desk : Desk) : Step -> Run StepError
  | .line builtin argument =>
      Run.writing (fun cause => .reporter (.line builtin cause))
        (builtin.write argument) desk.sink desk.reporters
  | .consult index argument => desk.consult index argument
  | .notice text =>
      Run.writing .sink (writeNotice text) desk.sink desk.reporters
  | .border => Run.writing .sink writeBorder desk.sink desk.reporters
  | .report arguments first last => desk.report arguments first last
  | .check arguments => desk.check arguments

/-- The answer to a step and the desk it leaves. -/
def answer (desk : Desk) (step : Step) : Answer × Desk :=
  let position := desk.sink.position
  let flushed := desk.sink.flushes.length
  let run := desk.perform step
  ( { result := run.result
      out := (run.sink.accepted.extract position).toList
      flushes := run.sink.flushes.drop flushed
      calls := run.calls
      position := run.sink.position },
    { sink := run.sink, reporters := run.reporters } )

/-- The answers to steps taken one after another, and the desk they leave. -/
def session (desk : Desk) : List Step -> List Answer × Desk
  | [] => ([], desk)
  | step :: rest =>
      let answered := desk.answer step
      let others := answered.2.session rest
      (answered.1 :: others.1, others.2)

@[simp] theorem session_nil (desk : Desk) :
    desk.session [] = ([], desk) := rfl

@[simp] theorem session_cons
    (desk : Desk)
    (step : Step)
    (rest : List Step) :
    desk.session (step :: rest) =
      ( (desk.answer step).1 :: ((desk.answer step).2.session rest).1,
        ((desk.answer step).2.session rest).2 ) := rfl

end Desk
end ArgReport
