import ArgReport.Proofs.Sink.Outcome
import ArgReport.Run

/-!
# Plans

A plan lists, in order, what a stretch of work does when nothing stops it: the
calls it notes, the bytes it writes, its flushes, and the point at which it
gives up by itself. A plan does not know the sink. Carried out on a sink, it
goes on until something fails, and what fails names the error.

So the part of a run that depends on faults is one recursion over a list. What
a single task does is said once here, and properties of whole runs are
inductions on plans.
-/

namespace ArgReport

namespace Run

variable {Error Other : Type}

theorem andThen_of_ok
    {run : Run Error}
    (completed : run.result = .ok ())
    (next : Sink -> List Reporter -> Run Error) :
    run.andThen next =
      { next run.sink run.reporters with
        calls := run.calls ++ (next run.sink run.reporters).calls } := by
  simp only [andThen, completed]

theorem andThen_of_error
    {run : Run Error}
    {failure : Error}
    (failed : run.result = .error failure)
    (next : Sink -> List Reporter -> Run Error) :
    run.andThen next = run := by
  simp only [andThen, failed]

/-- The same stretch, with its error told in other terms. -/
def mapError (tell : Error -> Other) (run : Run Error) : Run Other :=
  { result := run.result.mapError tell
    sink := run.sink
    reporters := run.reporters
    calls := run.calls }

theorem mapError_andThen
    (tell : Error -> Other)
    (run : Run Error)
    (next : Sink -> List Reporter -> Run Error) :
    (run.andThen next).mapError tell =
      (run.mapError tell).andThen fun sink reporters =>
        (next sink reporters).mapError tell := by
  obtain ⟨result, sink, reporters, calls⟩ := run
  cases result with
  | error failure => rfl
  | ok => rfl

theorem mapError_writing
    {Cause : Type}
    (tell : Error -> Other)
    (failed : Cause -> Error)
    (action : EStateM Cause Sink Unit)
    (sink : Sink)
    (reporters : List Reporter) :
    (writing failed action sink reporters).mapError tell =
      writing (tell ∘ failed) action sink reporters := by
  unfold writing
  split <;> rfl

theorem result_mapError_eq_ok_iff
    {tell : Error -> Other}
    {run : Run Error} :
    (run.mapError tell).result = .ok () ↔ run.result = .ok () := by
  cases ended : run.result with
  | ok _ => simp [mapError, ended, Except.mapError]
  | error failure => simp [mapError, ended, Except.mapError]

end Run

/-- One thing that a stretch of work does. -/
inductive Task (Error : Type)
  /-- Note a call and let the reporter count it. -/
  | ask (call : Call)
  /-- Write bytes to their end. -/
  | write (bytes : List UInt8) (blame : SinkError -> Error)
  /-- Ask the sink to pass on what it has. -/
  | flush (blame : SinkError -> Error)
  /-- Give up, whatever the sink does. -/
  | fail (failure : Error)

namespace Task

variable {Error Other : Type}

/-- Carry out a task. -/
def perform
    (task : Task Error)
    (sink : Sink)
    (reporters : List Reporter) : Run Error :=
  match task with
  | .ask call =>
      { result := .ok ()
        sink
        reporters := reporters.modify call.index Reporter.asked
        calls := [call] }
  | .write bytes blame => Run.writing blame (Sink.writeAll bytes) sink reporters
  | .flush blame => Run.writing blame Sink.flush sink reporters
  | .fail failure =>
      { result := .error failure, sink, reporters, calls := [] }

/-- The same task, with its error told in other terms. -/
def mapError (tell : Error -> Other) : Task Error -> Task Other
  | .ask call => .ask call
  | .write bytes blame => .write bytes (tell ∘ blame)
  | .flush blame => .flush (tell ∘ blame)
  | .fail failure => .fail (tell failure)

theorem perform_mapError
    (tell : Error -> Other)
    (task : Task Error)
    (sink : Sink)
    (reporters : List Reporter) :
    (task.mapError tell).perform sink reporters =
      (task.perform sink reporters).mapError tell := by
  cases task with
  | ask call => rfl
  | write bytes blame =>
      simp only [mapError, perform, Run.writing]
      split <;> rfl
  | flush blame =>
      simp only [mapError, perform, Run.writing]
      split <;> rfl
  | fail failure => rfl

end Task

/-- What a stretch of work does, task after task. -/
abbrev Plan (Error : Type) := List (Task Error)

namespace Plan

variable {Error Other : Type}

/-- Carry out a plan until a task fails. -/
def run : Plan Error -> Sink -> List Reporter -> Run Error
  | [], sink, reporters => Run.idle sink reporters
  | task :: rest, sink, reporters =>
      (task.perform sink reporters).andThen (run rest)

@[simp] theorem run_nil (sink : Sink) (reporters : List Reporter) :
    run ([] : Plan Error) sink reporters = Run.idle sink reporters := rfl

theorem run_cons
    (task : Task Error)
    (rest : Plan Error)
    (sink : Sink)
    (reporters : List Reporter) :
    run (task :: rest) sink reporters =
      (task.perform sink reporters).andThen (run rest) := rfl

theorem run_singleton
    (task : Task Error)
    (sink : Sink)
    (reporters : List Reporter) :
    run [task] sink reporters = task.perform sink reporters := by
  rw [run_cons]
  exact Run.andThen_idle _

/-- Two plans in a row are carried out one after the other. -/
theorem run_append
    (first second : Plan Error)
    (sink : Sink)
    (reporters : List Reporter) :
    run (first ++ second) sink reporters =
      (run first sink reporters).andThen (run second) := by
  induction first generalizing sink reporters with
  | nil => simp
  | cons task rest inductionHypothesis =>
      rw [List.cons_append, run_cons, run_cons, Run.andThen_assoc]
      congr 1
      funext sink reporters
      exact inductionHypothesis sink reporters

theorem run_mapError
    (tell : Error -> Other)
    (plan : Plan Error)
    (sink : Sink)
    (reporters : List Reporter) :
    run (plan.map (Task.mapError tell)) sink reporters =
      (run plan sink reporters).mapError tell := by
  induction plan generalizing sink reporters with
  | nil => rfl
  | cons task rest inductionHypothesis =>
      rw [List.map_cons, run_cons, run_cons, Run.mapError_andThen,
        Task.perform_mapError]
      congr 1
      funext sink reporters
      exact inductionHypothesis sink reporters

/-! ## One task at a time -/

section Tasks

variable
  (rest : Plan Error)
  (sink : Sink)
  (reporters : List Reporter)

@[simp] theorem run_ask (call : Call) :
    run (.ask call :: rest) sink reporters =
      let further := run rest sink
        (reporters.modify call.index Reporter.asked)
      { further with calls := call :: further.calls } := rfl

theorem run_write_of_ok
    {bytes : List UInt8}
    {next : Sink}
    (wrote : Sink.writeAll bytes sink = .ok () next)
    (blame : SinkError -> Error) :
    run (.write bytes blame :: rest) sink reporters =
      run rest next reporters := by
  simp [run_cons, Task.perform, Run.writing, Run.andThen, wrote]

theorem run_write_of_error
    {bytes : List UInt8}
    {cause : SinkError}
    {next : Sink}
    (wrote : Sink.writeAll bytes sink = .error cause next)
    (blame : SinkError -> Error) :
    run (.write bytes blame :: rest) sink reporters =
      { result := .error (blame cause), sink := next, reporters, calls := [] } := by
  simp [run_cons, Task.perform, Run.writing, Run.andThen, wrote]

theorem run_flush_of_ok
    {next : Sink}
    (flushed : Sink.flush sink = .ok () next)
    (blame : SinkError -> Error) :
    run (.flush blame :: rest) sink reporters = run rest next reporters := by
  simp [run_cons, Task.perform, Run.writing, Run.andThen, flushed]

theorem run_flush_of_error
    {cause : SinkError}
    {next : Sink}
    (flushed : Sink.flush sink = .error cause next)
    (blame : SinkError -> Error) :
    run (.flush blame :: rest) sink reporters =
      { result := .error (blame cause), sink := next, reporters, calls := [] } := by
  simp [run_cons, Task.perform, Run.writing, Run.andThen, flushed]

@[simp] theorem run_fail (failure : Error) :
    run (.fail failure :: rest) sink reporters =
      { result := .error failure, sink, reporters, calls := [] } := rfl

end Tasks

end Plan
end ArgReport
