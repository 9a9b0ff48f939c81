import ArgReport.Report.Basic

/-!
# Reporters further on in a list

The reporters of a report are numbered by their places in a list, and the
numbers show in the journal. Nothing else depends on them: a report by reporters
that stand further on is the same report, with its calls noted further on.
-/

namespace ArgReport

/-- The same call, of a reporter that stands further on. -/
def Call.moved (distance : Nat) (call : Call) : Call :=
  { call with index := call.index + distance }

theorem Call.note?_comp_moved (distance : Nat) :
    Call.note? ∘ Call.moved distance = Call.note? := rfl

namespace Run

variable {Error Cause : Type}

/-- The same stretch, with its reporters further on. -/
def moved (distance : Nat) (run : Run Error) : Run Error :=
  { run with calls := run.calls.map (Call.moved distance) }

theorem writing_moved
    (distance : Nat)
    (failed : Cause -> Error)
    (action : EStateM Cause Sink Unit)
    (sink : Sink)
    (reporters : List Reporter) :
    (writing failed action sink reporters).moved distance =
      writing failed action sink reporters := by
  unfold writing
  split <;> rfl

theorem andThen_moved
    (distance : Nat)
    (run : Run Error)
    (next : Sink -> List Reporter -> Run Error) :
    (run.andThen next).moved distance =
      (run.moved distance).andThen fun sink reporters =>
        (next sink reporters).moved distance := by
  obtain ⟨result, sink, reporters, calls⟩ := run
  cases result with
  | error failure => rfl
  | ok => simp [andThen, moved]

end Run

namespace Report

theorem consult_moved
    (argument : String)
    (index distance : Nat)
    (sink : Sink)
    (reporters : List Reporter) :
    consult argument (index + distance) sink reporters =
      (consult argument index sink reporters).moved distance := by
  induction reporters generalizing index sink with
  | nil => rfl
  | cons reporter rest inductionHypothesis =>
      rw [consult, consult]
      cases reporter.report argument sink with
      | error cause next => rfl
      | ok _ next =>
          simp only [Nat.add_right_comm index distance 1, inductionHypothesis]
          rfl

theorem block_moved
    (argument : String)
    (index distance : Nat)
    (sink : Sink)
    (reporters : List Reporter) :
    block argument (index + distance) sink reporters =
      (block argument index sink reporters).moved distance := by
  have consultMoved : consult argument (index + distance) =
      fun sink reporters =>
        (consult argument index sink reporters).moved distance := by
    funext sink reporters
    exact consult_moved argument index distance sink reporters
  have borderMoved : drawBorder = fun sink reporters =>
      (drawBorder sink reporters).moved distance := by
    funext sink reporters
    exact (Run.writing_moved _ _ _ _ _).symm
  have openMoved : (openBlock sink reporters).moved distance =
      openBlock sink reporters :=
    Run.writing_moved _ _ _ _ _
  rw [block, block, Run.andThen_moved, Run.andThen_moved, Run.andThen_moved,
    openMoved, ← borderMoved, consultMoved]

/-- A report is the same wherever its reporters stand. -/
theorem blocks_moved
    (index distance : Nat)
    (arguments : List String)
    (sink : Sink)
    (reporters : List Reporter) :
    blocks (index + distance) arguments sink reporters =
      (blocks index arguments sink reporters).moved distance := by
  induction arguments generalizing sink reporters with
  | nil => rfl
  | cons argument rest inductionHypothesis =>
      rw [blocks_cons, blocks_cons, Run.andThen_moved, block_moved]
      congr 1
      funext sink reporters
      exact inductionHypothesis sink reporters

end Report
end ArgReport
