import ArgReport.Proofs.Plan.Budget
import ArgReport.Proofs.ReportPrefix

/-!
# Reports by the default reporters

The default reporters follow no script. A report by them never gives up by
itself, so on a sink that takes everything it succeeds, and when it succeeds it
has written the whole text of the report.
-/

namespace ArgReport

@[simp] theorem Reporter.map_asked_defaults :
    Reporter.defaults.map Reporter.asked = Reporter.defaults := rfl

/-- The whole block of an argument, as the default reporters make it. -/
theorem blockText_defaults (argument : String) :
    blockText Reporter.defaults argument =
      noticeText ++ borderLine ++
        (Builtin.line .echo argument ++ Builtin.line .measure argument ++
          Builtin.line .encode argument) ++ borderLine := by
  simp [blockText, findingsText, Reporter.defaults, Builtin.all,
    Reporter.text, String.append_assoc]

namespace Report

theorem not_fail_mem_consultPlan_defaults
    (argument : String)
    (index : Nat)
    (failure : Failure) :
    .fail failure ∉ consultPlan argument index Reporter.defaults := by
  simp [consultPlan, Reporter.plan, Reporter.complaint?, Reporter.defaults,
    Builtin.all]

/-- The default reporters never give up. -/
theorem not_fail_mem_plan_defaults
    (index : Nat)
    (arguments : List String)
    (failure : Failure) :
    .fail failure ∉ plan index arguments Reporter.defaults := by
  induction arguments with
  | nil => exact List.not_mem_nil
  | cons argument rest inductionHypothesis =>
      rw [plan, Reporter.map_asked_defaults, List.mem_append, not_or]
      refine ⟨?_, inductionHypothesis⟩
      simp [blockPlan, noticePlan, borderPlan,
        not_fail_mem_consultPlan_defaults]

/-- A report by the default reporters writes a beginning of its text, and all of
it exactly when it succeeds. -/
theorem blocks_defaults_taken
    (index : Nat)
    (arguments : List String)
    (sink : Sink) :
    let run := blocks index arguments sink Reporter.defaults
    let expected := utf8 (reportText Reporter.defaults arguments)
    ∃ added, run.sink.bytes = sink.bytes ++ added ∧ added <+: expected ∧
      (run.result = .ok () ↔ added = expected) := by
  intro run expected
  obtain ⟨others, sameResult, sameSink⟩ :=
    blocks_eq_run_plan index arguments sink Reporter.defaults
  obtain ⟨added, bytes, begun, completed, failed⟩ := Plan.run_taken
    (flushesEarly_plan index arguments Reporter.defaults) sink others
  rw [text_plan] at begun completed failed
  rw [← sameResult] at completed failed
  rw [← sameSink] at bytes
  refine ⟨added, bytes, begun, completed, fun whole => ?_⟩
  cases result : run.result with
  | ok => rfl
  | error failure =>
      rcases failed failure result with givesUp | less
      · exact absurd givesUp
          (not_fail_mem_plan_defaults index arguments failure)
      · rw [whole] at less
        exact absurd less (Nat.lt_irrefl _)

/-- A report by the default reporters that succeeds has written all of its
text. -/
theorem bytes_blocks_defaults_of_ok
    {index : Nat}
    {arguments : List String}
    {sink : Sink}
    (completed :
      (blocks index arguments sink Reporter.defaults).result = .ok ()) :
    (blocks index arguments sink Reporter.defaults).sink.bytes =
      sink.bytes ++ utf8 (reportText Reporter.defaults arguments) := by
  obtain ⟨added, bytes, _, whole⟩ :=
    blocks_defaults_taken index arguments sink
  rw [bytes, whole.1 completed]

/-- On a sink that takes bytes, and where no fault is left, a report by the
default reporters succeeds. -/
theorem blocks_defaults_of_quiet
    {sink : Sink}
    (takes : sink.chunk ≠ some 0)
    (quiet : sink.IsQuiet)
    (index : Nat)
    (arguments : List String) :
    (blocks index arguments sink Reporter.defaults).result = .ok () := by
  obtain ⟨others, sameResult, _⟩ :=
    blocks_eq_run_plan index arguments sink Reporter.defaults
  obtain ⟨_, gaveUp⟩ := Plan.run_of_quiet
    (plan index arguments Reporter.defaults) takes quiet others
  rw [sameResult]
  cases ended : (Plan.run (plan index arguments Reporter.defaults) sink
      others).result with
  | ok => rfl
  | error failure =>
      exact absurd (gaveUp failure ended)
        (not_fail_mem_plan_defaults index arguments failure)

end Report
end ArgReport
