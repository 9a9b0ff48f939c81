import ArgReport.Reporter.Basic

/-!
# Runs

A run is a stretch of work on a sink and a list of reporters that has come to
its end, one way or the other. It keeps what the stretch leaves behind: the
sink, the reporters with their counts, and a journal of the calls that were
made. Runs follow one another until one of them fails.
-/

namespace ArgReport

/-- A stretch of work that has come to its end. -/
structure Run (Error : Type) where
  /-- Whether the stretch was completed. -/
  result : Except Error Unit
  /-- The sink as the stretch leaves it. -/
  sink : Sink
  /-- The reporters as the stretch leaves them. -/
  reporters : List Reporter
  /-- The calls made during the stretch, in order. -/
  calls : List Call

namespace Run

variable {Error : Type}

/-- The stretch in which nothing happens. -/
def idle (sink : Sink) (reporters : List Reporter) : Run Error :=
  { result := .ok (), sink, reporters, calls := [] }

/-- The stretch in which something is written and no reporter is asked. -/
def writing
    {Cause : Type}
    (failed : Cause -> Error)
    (action : EStateM Cause Sink Unit)
    (sink : Sink)
    (reporters : List Reporter) : Run Error :=
  match action sink with
  | .ok () sink => { result := .ok (), sink, reporters, calls := [] }
  | .error cause sink =>
      { result := .error (failed cause), sink, reporters, calls := [] }

/-- Go on with a further stretch, unless this one failed. -/
def andThen
    (run : Run Error)
    (next : Sink -> List Reporter -> Run Error) : Run Error :=
  match run.result with
  | .error _ => run
  | .ok () =>
      let further := next run.sink run.reporters
      { further with calls := run.calls ++ further.calls }

@[simp] theorem idle_andThen
    (sink : Sink)
    (reporters : List Reporter)
    (next : Sink -> List Reporter -> Run Error) :
    (idle sink reporters).andThen next = next sink reporters := by
  simp [idle, andThen]

@[simp] theorem andThen_idle (run : Run Error) :
    run.andThen idle = run := by
  obtain ⟨result, sink, reporters, calls⟩ := run
  cases result with
  | error failure => rfl
  | ok => simp [andThen, idle]

/-- Three stretches in a row may be put together from either end. -/
theorem andThen_assoc
    (run : Run Error)
    (next last : Sink -> List Reporter -> Run Error) :
    (run.andThen next).andThen last =
      run.andThen fun sink reporters =>
        (next sink reporters).andThen last := by
  obtain ⟨result, sink, reporters, calls⟩ := run
  cases result with
  | error failure => rfl
  | ok =>
      generalize middle_eq : next sink reporters = middle
      obtain ⟨middleResult, _, _, _⟩ := middle
      cases middleResult with
      | error failure => simp [andThen, middle_eq]
      | ok => simp [andThen, middle_eq, List.append_assoc]

end Run
end ArgReport
