import ArgReport.Proofs.Plan.Budget
import ArgReport.Proofs.Plan.Session

/-!
# An account of failures

Whatever has happened at a desk before, a step pays for what it answers. A
failure that the sink causes takes one off its budget, and a failure that takes
nothing off comes from a script. So no failure of the sink is passed over, told
twice or made up, and over a session the numbers agree.

The check of a command line stands apart. It may fail, but has nothing to do
with the sink or the reporters.
-/

namespace ArgReport

/-- The step failed because the script of a reporter says so. -/
def StepError.IsScripted : StepError -> Prop
  | .reporter cause => cause.IsScripted
  | .sink _ => False
  | .report failure => failure.IsScripted
  | .usage _ => False

instance (error : StepError) : Decidable error.IsScripted :=
  match error with
  | .reporter cause => inferInstanceAs (Decidable cause.IsScripted)
  | .sink _ => isFalse id
  | .report failure => inferInstanceAs (Decidable failure.IsScripted)
  | .usage _ => isFalse id

namespace Step

/-- The step is the check of a command line. -/
def IsCheck : Step -> Prop
  | .check _ => True
  | .line _ _ | .consult _ _ | .notice _ | .border | .report _ _ _ => False

instance (step : Step) : Decidable step.IsCheck :=
  match step with
  | .check _ => isTrue trivial
  | .line _ _ | .consult _ _ | .notice _ | .border | .report _ _ _ =>
      isFalse id

theorem tellsTruly_plan
    {step : Step}
    (notCheck : ¬step.IsCheck)
    (reporters : List Reporter) :
    Plan.TellsTruly StepError.IsScripted (step.plan reporters) := by
  cases step with
  | line builtin argument =>
      intro task member
      rw [plan, List.mem_singleton] at member
      subst member
      exact fun _ => id
  | consult index argument =>
      rw [plan]
      split
      · intro task member
        cases member
      · have faithful (cause : ReporterError) :
            StepError.IsScripted (.reporter cause) ↔ cause.IsScripted := Iff.rfl
        exact Reporter.tellsTruly_plan faithful _ _ _
  | notice text =>
      intro task member
      rw [plan, List.mem_cons, List.mem_singleton] at member
      rcases member with rfl | rfl <;> exact fun _ => id
  | border =>
      intro task member
      rw [plan, List.mem_singleton] at member
      subst member
      exact fun _ => id
  | report arguments first last =>
      exact (Report.tellsTruly_plan _ _ _).map fun _ => Iff.rfl
  | check arguments => exact absurd trivial notCheck

theorem givesUpFairly_plan
    {step : Step}
    (notCheck : ¬step.IsCheck)
    (reporters : List Reporter) :
    Plan.GivesUpFairly none (step.plan reporters) := by
  cases step with
  | line _ _ | notice _ | border => trivial
  | consult index argument =>
      rw [plan]
      split
      · trivial
      · exact Reporter.givesUpFairly_plan _ _ _ _ _
  | report arguments first last =>
      exact (Report.givesUpFairly_plan _ _ _ _).map _
  | check arguments => exact absurd trivial notCheck

end Step

/-- The step failed by a script. -/
def Answer.IsScripted (answer : Answer) : Prop :=
  match answer.result with
  | .ok () => False
  | .error error => error.IsScripted

instance (answer : Answer) : Decidable answer.IsScripted :=
  match answer with
  | ⟨.ok (), _, _, _, _⟩ => isFalse id
  | ⟨.error error, _, _, _, _⟩ => inferInstanceAs (Decidable error.IsScripted)

theorem Answer.isScripted_of_error
    {answer : Answer}
    {error : StepError}
    (failed : answer.result = .error error) :
    answer.IsScripted ↔ error.IsScripted := by
  rw [IsScripted, failed]

theorem Answer.not_isScripted_of_ok
    {answer : Answer}
    (succeeded : answer.result = .ok ()) :
    ¬answer.IsScripted := by
  rw [IsScripted, succeeded]
  exact id

/-- What the answer to a step says about the budget that the step leaves, and
the other way round. -/
structure Desk.Accounts (desk : Desk) (step : Step) : Prop where
  atMostOne :
    (desk.answer step).2.sink.hardBudget ≤ desk.sink.hardBudget ∧
      desk.sink.hardBudget ≤ (desk.answer step).2.sink.hardBudget + 1
  charged :
    (desk.answer step).2.sink.hardBudget < desk.sink.hardBudget ->
      ∃ error, (desk.answer step).1.result = .error error ∧
        ¬error.IsScripted
  uncharged :
    ¬step.IsCheck ->
      (desk.answer step).2.sink.hardBudget = desk.sink.hardBudget ->
      ∀ error, (desk.answer step).1.result = .error error ->
        error.IsScripted ∧
          ∃ call, (desk.answer step).1.calls.getLast? = some call ∧
            call.Fails
  untouched : step.IsCheck -> (desk.answer step).2 = desk

namespace Desk

/-- How many steps of a session fail, checks of command lines apart. -/
def failures (desk : Desk) (steps : List Step) : Nat :=
  (steps.zip (desk.session steps).1).countP fun (step, answer) =>
    ¬step.IsCheck ∧ answer.result ≠ .ok ()

/-- How many steps of a session fail by a script. -/
def scriptedFailures (desk : Desk) (steps : List Step) : Nat :=
  (desk.session steps).1.countP fun answer => answer.IsScripted

/-! ## One step -/

theorem answer_settled
    {desk : Desk}
    (takes : desk.sink.chunk ≠ some 0)
    {step : Step}
    (notCheck : ¬step.IsCheck) :
    (desk.answer step).2.sink.chunk ≠ some 0 ∧
      Plan.Settled StepError.IsScripted desk.sink
        (desk.answer step).1.result (desk.answer step).2.sink := by
  simp only [answer, perform_eq_run_plan]
  exact Plan.run_settled (Step.tellsTruly_plan notCheck desk.reporters) takes _

/-- A check leaves the desk alone, and is not refused by a script. -/
theorem answer_of_isCheck
    (desk : Desk)
    {step : Step}
    (check : step.IsCheck) :
    (desk.answer step).2 = desk ∧ ¬(desk.answer step).1.IsScripted := by
  cases step with
  | check arguments =>
      refine ⟨rfl, ?_⟩
      cases outcome : checkUsage arguments with
      | ok _ =>
          apply Answer.not_isScripted_of_ok
          simp [answer, perform, Desk.check, outcome, Except.mapError]
      | error error =>
          have failed : (desk.answer (.check arguments)).1.result =
              .error (.usage error) := by
            simp [answer, perform, Desk.check, outcome, Except.mapError]
          rw [Answer.isScripted_of_error failed]
          exact id
  | line _ _ | consult _ _ | notice _ | border | report _ _ _ =>
      exact False.elim check

theorem exists_failing_call
    {desk : Desk}
    {step : Step}
    (notCheck : ¬step.IsCheck)
    {error : StepError}
    (failed : (desk.answer step).1.result = .error error)
    (scripted : error.IsScripted) :
    ∃ call, (desk.answer step).1.calls.getLast? = some call ∧
      call.Fails := by
  simp only [answer, perform_eq_run_plan] at failed ⊢
  exact Plan.exists_failing_call
    (Step.tellsTruly_plan notCheck desk.reporters)
    (Step.givesUpFairly_plan notCheck desk.reporters) failed scripted

theorem accounts
    {desk : Desk}
    (takes : desk.sink.chunk ≠ some 0)
    (step : Step) :
    desk.Accounts step := by
  by_cases check : step.IsCheck
  · have same := (desk.answer_of_isCheck check).1
    refine ⟨?_, ?_, fun notCheck => absurd check notCheck, fun _ => same⟩
    · rw [same]
      omega
    · rw [same]
      intro less
      exact absurd less (Nat.lt_irrefl _)
  · have untouched : step.IsCheck -> (desk.answer step).2 = desk :=
      fun isCheck => absurd isCheck check
    cases (answer_settled takes check).2 with
    | completed succeeded same =>
        refine ⟨?_, ?_, ?_, untouched⟩
        · omega
        · intro less
          omega
        · intro _ _ error failed
          cases succeeded.symm.trans failed
    | charged failure failed unscripted spent =>
        refine ⟨?_, ?_, ?_, untouched⟩
        · omega
        · intro _
          exact ⟨failure, failed, unscripted⟩
        · intro _ same
          omega
    | scripted failure failed scripted same =>
        refine ⟨?_, ?_, ?_, untouched⟩
        · omega
        · intro less
          omega
        · intro notCheck _ error alsoFailed
          have told : failure = error :=
            Except.error.inj (failed.symm.trans alsoFailed)
          rw [told] at scripted
          exact ⟨scripted, exists_failing_call notCheck alsoFailed scripted⟩

/-! ## Sessions -/

theorem takes_answer
    {desk : Desk}
    (takes : desk.sink.chunk ≠ some 0)
    (step : Step) :
    (desk.answer step).2.sink.chunk ≠ some 0 := by
  by_cases check : step.IsCheck
  · rw [(desk.answer_of_isCheck check).1]
    exact takes
  · exact (answer_settled takes check).1

theorem takes_session
    {desk : Desk}
    (takes : desk.sink.chunk ≠ some 0)
    (steps : List Step) :
    (desk.session steps).2.sink.chunk ≠ some 0 := by
  induction steps generalizing desk with
  | nil => exact takes
  | cons step rest inductionHypothesis =>
      exact inductionHypothesis (takes_answer takes step)

theorem failures_cons
    (desk : Desk)
    (step : Step)
    (rest : List Step) :
    desk.failures (step :: rest) =
      (desk.answer step).2.failures rest +
        if ¬step.IsCheck ∧ (desk.answer step).1.result ≠ .ok () then 1
        else 0 := by
  simp only [failures, session_cons, List.zip_cons_cons, List.countP_cons,
    decide_eq_true_eq]

theorem scriptedFailures_cons
    (desk : Desk)
    (step : Step)
    (rest : List Step) :
    desk.scriptedFailures (step :: rest) =
      (desk.answer step).2.scriptedFailures rest +
        if (desk.answer step).1.IsScripted then 1 else 0 := by
  simp only [scriptedFailures, session_cons, List.countP_cons,
    decide_eq_true_eq]

/-- What failed in a session has been paid for, or comes from a script. -/
theorem failures_add_hardBudget
    {desk : Desk}
    (takes : desk.sink.chunk ≠ some 0)
    (steps : List Step) :
    desk.failures steps + (desk.session steps).2.sink.hardBudget =
      desk.sink.hardBudget + desk.scriptedFailures steps := by
  induction steps generalizing desk with
  | nil => exact Nat.zero_add _
  | cons step rest inductionHypothesis =>
      have further := inductionHypothesis (takes_answer takes step)
      rw [failures_cons, scriptedFailures_cons, session_cons]
      simp only
      by_cases check : step.IsCheck
      · obtain ⟨same, unscripted⟩ := desk.answer_of_isCheck check
        rw [same] at further ⊢
        rw [if_neg (fun failed => failed.1 check), if_neg unscripted]
        exact further
      · cases (answer_settled takes check).2 with
        | completed succeeded same =>
            rw [if_neg (fun failed => failed.2 succeeded),
              if_neg (Answer.not_isScripted_of_ok succeeded)]
            omega
        | charged failure failed unscripted spent =>
            rw [if_pos ⟨check, by rw [failed]; simp⟩,
              if_neg (mt (Answer.isScripted_of_error failed).1 unscripted)]
            omega
        | scripted failure failed scripted same =>
            rw [if_pos ⟨check, by rw [failed]; simp⟩,
              if_pos ((Answer.isScripted_of_error failed).2 scripted)]
            omega

theorem hardBudget_session_le
    {desk : Desk}
    (takes : desk.sink.chunk ≠ some 0)
    (steps : List Step) :
    (desk.session steps).2.sink.hardBudget ≤ desk.sink.hardBudget := by
  induction steps generalizing desk with
  | nil => exact Nat.le_refl _
  | cons step rest inductionHypothesis =>
      have further := inductionHypothesis (takes_answer takes step)
      exact Nat.le_trans further (accounts takes step).atMostOne.1

/-- At a desk whose sink is quiet a step succeeds unless a script says
otherwise, and leaves the sink quiet. -/
theorem answer_of_quiet
    {desk : Desk}
    (takes : desk.sink.chunk ≠ some 0)
    (quiet : desk.sink.IsQuiet)
    (step : Step) :
    (desk.answer step).2.sink.IsQuiet ∧
      (¬step.IsCheck -> (desk.answer step).1.result = .ok () ∨
        (desk.answer step).1.IsScripted) := by
  by_cases check : step.IsCheck
  · rw [(desk.answer_of_isCheck check).1]
    exact ⟨quiet, fun notCheck => absurd check notCheck⟩
  · obtain ⟨stillQuiet, gaveUp⟩ := Plan.run_of_quiet
      (step.plan desk.reporters) takes quiet desk.reporters
    rw [← perform_eq_run_plan] at stillQuiet gaveUp
    refine ⟨stillQuiet, fun _ => ?_⟩
    cases result : (desk.answer step).1.result with
    | ok => exact .inl rfl
    | error error =>
        refine .inr ((Answer.isScripted_of_error result).2 ?_)
        exact Step.tellsTruly_plan check desk.reporters (.fail error)
          (gaveUp error result)

theorem session_of_quiet
    {desk : Desk}
    (takes : desk.sink.chunk ≠ some 0)
    (quiet : desk.sink.IsQuiet)
    (steps : List Step) :
    ∀ pair ∈ steps.zip (desk.session steps).1,
      ¬pair.1.IsCheck -> pair.2.result = .ok () ∨ pair.2.IsScripted := by
  induction steps generalizing desk with
  | nil =>
      intro pair member
      cases member
  | cons step rest inductionHypothesis =>
      obtain ⟨stillQuiet, settled⟩ := answer_of_quiet takes quiet step
      intro pair member
      rw [session_cons, List.zip_cons_cons, List.mem_cons] at member
      rcases member with rfl | further
      · exact settled
      · exact inductionHypothesis (takes_answer takes step) stillQuiet pair
          further

/-- After any session, each step is accounted for, and so is the session as a
whole: its failures are what the sink has been charged with and what scripts
have said. When the sink has become quiet, no step fails any more but by a
script. -/
theorem session_accounts
    {desk : Desk}
    (takes : desk.sink.chunk ≠ some 0)
    (steps : List Step) :
    let reached := (desk.session steps).2
    (∀ step, reached.Accounts step) ∧
      reached.sink.hardBudget ≤ desk.sink.hardBudget ∧
      desk.failures steps =
        (desk.sink.hardBudget - reached.sink.hardBudget) +
          desk.scriptedFailures steps ∧
      (reached.sink.IsQuiet -> ∀ later : List Step,
        ∀ pair ∈ later.zip (reached.session later).1,
          ¬pair.1.IsCheck ->
            pair.2.result = .ok () ∨ pair.2.IsScripted) := by
  intro reached
  have stillTakes : reached.sink.chunk ≠ some 0 := takes_session takes steps
  have balance := failures_add_hardBudget takes steps
  have less := hardBudget_session_le takes steps
  refine ⟨accounts stillTakes, less, ?_, session_of_quiet stillTakes⟩
  simp only [reached]
  omega

/-- A session in which the sink fails twice, a script once, and a check once. -/
theorem session_accounts_of_failing_desk :
    let sink : Sink :=
      { chunk := some 3
        faults :=
          [ { place := 2, effect := .refuse .interrupted, times := 4 },
            { place := 5, effect := .stall },
            { place := 5, effect := .refuse (.system .noSpace), times := 2 } ]
        flushFaults := [{ place := 0, effect := .interrupted }] }
    let reporters : List Reporter :=
      [.scripted { name := "strict", failingArgument := some "x" }]
    let desk : Desk := { sink, reporters }
    let steps : List Step :=
      [.notice "abc", .consult 0 "x", .check [], .report ["y"] 0 1]
    let reached := (desk.session steps).2
    desk.sink.chunk ≠ some 0 ∧ (∀ step, reached.Accounts step) ∧
      desk.failures steps = 3 ∧ desk.scriptedFailures steps = 1 ∧
      desk.sink.hardBudget = 4 ∧ reached.sink.hardBudget = 2 := by
  intro sink reporters desk steps reached
  have takes : desk.sink.chunk ≠ some 0 := by decide
  obtain ⟨accounted, _, balance, _⟩ := session_accounts takes steps
  have scripted : desk.scriptedFailures steps = 1 := by decide +kernel
  have before : desk.sink.hardBudget = 4 := by decide
  have after : reached.sink.hardBudget = 2 := by decide +kernel
  refine ⟨takes, accounted, ?_, scripted, before, after⟩
  rw [balance, scripted, before]
  exact congrArg (fun left => 4 - left + 1) after

end Desk
end ArgReport
