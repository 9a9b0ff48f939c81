import ArgReport.Proofs.Plan.Report
import ArgReport.Session

/-!
# The plans of steps

Each step at a desk is a plan carried out on its sink and its reporters. What
the plan is depends on the step and on the reporters, and never on the sink. So
what holds of all plans holds of all steps, and by induction of sessions.
-/

namespace ArgReport

/-- What a step does. -/
def Step.plan (reporters : List Reporter) : Step -> Plan StepError
  | .line builtin argument =>
      [.write (utf8 (builtin.line argument))
        (.reporter ∘ ReporterError.line builtin)]
  | .consult index argument =>
      match reporters[index]? with
      | none => []
      | some reporter => reporter.plan index argument .reporter
  | .notice text => [.write (utf8 text) .sink, .flush .sink]
  | .border => [.write (utf8 borderLine) .sink]
  | .report arguments first last =>
      (Report.plan first arguments
        ((reporters.drop first).take (last - first))).map
          (Task.mapError .report)
  | .check arguments =>
      match checkUsage arguments with
      | .ok () => []
      | .error error => [.fail (.usage error)]

namespace Desk

theorem consult_eq_run_plan
    (desk : Desk)
    (index : Nat)
    (argument : String) :
    desk.consult index argument =
      Plan.run (Step.plan desk.reporters (.consult index argument)) desk.sink
        desk.reporters := by
  rw [consult, Step.plan]
  cases found : desk.reporters[index]? with
  | none => rfl
  | some reporter =>
      have counted : desk.reporters.set index reporter.asked =
          desk.reporters.modify index Reporter.asked := by
        have : Inhabited Reporter := ⟨reporter⟩
        rw [List.modify_eq_set, found]
        rfl
      simp only [Reporter.run_plan, counted]

theorem report_eq_run_plan
    (desk : Desk)
    (arguments : List String)
    (first last : Nat) :
    desk.report arguments first last =
      Plan.run (Step.plan desk.reporters (.report arguments first last))
        desk.sink desk.reporters := by
  have whole : desk.reporters =
      desk.reporters.take first ++
        ((desk.reporters.drop first).take (last - first) ++
          (desk.reporters.drop first).drop (last - first)) := by
    rw [List.take_append_drop, List.take_append_drop]
  have numbered : (desk.reporters.drop first).take (last - first) ≠ [] ->
      (desk.reporters.take first).length = first := by
    intro some
    rw [List.length_take, Nat.min_eq_left]
    apply Nat.le_of_not_lt
    intro beyond
    rw [List.drop_of_length_le (Nat.le_of_lt beyond)] at some
    exact some List.take_nil
  have carriedOut := Report.run_plan_among numbered arguments desk.sink
    ((desk.reporters.drop first).drop (last - first))
  rw [← whole] at carriedOut
  rw [report, Step.plan, Plan.run_mapError, carriedOut]
  simp only [Run.mapError, Run.among, List.append_assoc]

/-- A step carries out its plan. -/
theorem perform_eq_run_plan (desk : Desk) (step : Step) :
    desk.perform step =
      Plan.run (step.plan desk.reporters) desk.sink desk.reporters := by
  cases step with
  | line builtin argument =>
      rw [perform, Step.plan, Plan.run_singleton, Task.perform, Run.writing,
        Builtin.write_apply]
      rfl
  | consult index argument => exact desk.consult_eq_run_plan index argument
  | notice text =>
      rw [perform, Step.plan, Plan.run_notice]
  | border =>
      rw [perform, Step.plan, Plan.run_singleton, Task.perform, Run.writing,
        writeBorder_apply]
      rfl
  | report arguments first last =>
      exact desk.report_eq_run_plan arguments first last
  | check arguments =>
      rw [perform, Step.plan, check]
      cases checkUsage arguments <;> rfl

end Desk
end ArgReport
