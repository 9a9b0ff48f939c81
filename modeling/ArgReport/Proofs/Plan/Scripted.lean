import ArgReport.Proofs.Plan.Text

/-!
# Scripted failures

A report fails because of its sink or because of a script. The error tells which
it was: a plan gives up by itself only with a scripted error, and none of its
writes and flushes tells a scripted error.

A scripted error also has its reason in the journal. The last call noted before
a plan gives up is one that its script lets fail.
-/

namespace ArgReport

/-- The reporter failed because its script says so. -/
def ReporterError.IsScripted : ReporterError -> Prop
  | .line _ _ => False
  | .output _ => False
  | .scripted _ => True

instance (error : ReporterError) : Decidable error.IsScripted :=
  match error with
  | .line _ _ => isFalse id
  | .output _ => isFalse id
  | .scripted _ => isTrue trivial

/-- The report ended because the script of a reporter says so. -/
def Failure.IsScripted : Failure -> Prop
  | .notice _ => False
  | .border _ => False
  | .reporter _ _ cause => cause.IsScripted

instance (failure : Failure) : Decidable failure.IsScripted :=
  match failure with
  | .notice _ => isFalse id
  | .border _ => isFalse id
  | .reporter _ _ cause => inferInstanceAs (Decidable cause.IsScripted)

/-- The reporter's script lets this call fail. -/
def Call.Fails (call : Call) : Prop :=
  match call.reporter with
  | .standard _ => False
  | .scripted script calls => script.Fails (calls + 1) call.argument

/-- The task tells its errors truly: a scripted one if it gives up, and another
one if the sink fails. -/
def Task.TellsTruly
    {Error : Type}
    (isScripted : Error -> Prop) : Task Error -> Prop
  | .ask _ => True
  | .write _ blame => ∀ cause, ¬isScripted (blame cause)
  | .flush blame => ∀ cause, ¬isScripted (blame cause)
  | .fail failure => isScripted failure

/-- Every task of the plan tells its errors truly. -/
def Plan.TellsTruly
    {Error : Type}
    (isScripted : Error -> Prop)
    (plan : Plan Error) : Prop :=
  ∀ task ∈ plan, task.TellsTruly isScripted

namespace Plan

variable
  {Error : Type}
  {isScripted : Error -> Prop}

theorem TellsTruly.append
    {first second : Plan Error}
    (firstTells : first.TellsTruly isScripted)
    (secondTells : second.TellsTruly isScripted) :
    TellsTruly isScripted (first ++ second) := by
  intro task member
  rcases List.mem_append.1 member with inFirst | inSecond
  · exact firstTells task inFirst
  · exact secondTells task inSecond

theorem TellsTruly.map
    {Other : Type}
    {isScriptedOther : Other -> Prop}
    {tell : Error -> Other}
    {plan : Plan Error}
    (tells : plan.TellsTruly isScripted)
    (faithful : ∀ error, isScriptedOther (tell error) ↔ isScripted error) :
    TellsTruly isScriptedOther (plan.map (Task.mapError tell)) := by
  intro task member
  obtain ⟨former, formerMember, rfl⟩ := List.mem_map.1 member
  have formerTells := tells former formerMember
  cases former with
  | ask call => trivial
  | write bytes blame =>
      intro cause scripted
      exact formerTells cause ((faithful _).1 scripted)
  | flush blame =>
      intro cause scripted
      exact formerTells cause ((faithful _).1 scripted)
  | fail failure => exact (faithful failure).2 formerTells

/-- Wherever the plan gives up, the last call before is one that its script lets
fail. The call that comes before the plan, if there is one, is `last`. -/
def GivesUpFairly : Option Call -> Plan Error -> Prop
  | _, [] => True
  | _, .ask call :: rest => GivesUpFairly (some call) rest
  | last, .write _ _ :: rest => GivesUpFairly last rest
  | last, .flush _ :: rest => GivesUpFairly last rest
  | last, .fail _ :: _ => ∃ call, last = some call ∧ call.Fails

theorem GivesUpFairly.append
    {last : Option Call}
    {first second : Plan Error}
    (firstFair : GivesUpFairly last first)
    (secondFair : ∀ last, GivesUpFairly last second) :
    GivesUpFairly last (first ++ second) := by
  induction first generalizing last with
  | nil => exact secondFair last
  | cons task rest inductionHypothesis =>
      cases task with
      | ask _ | write _ _ | flush _ => exact inductionHypothesis firstFair
      | fail _ => exact firstFair

theorem GivesUpFairly.map
    {Other : Type}
    (tell : Error -> Other)
    {last : Option Call}
    {plan : Plan Error}
    (fair : GivesUpFairly last plan) :
    GivesUpFairly last (plan.map (Task.mapError tell)) := by
  induction plan generalizing last with
  | nil => trivial
  | cons task rest inductionHypothesis =>
      cases task with
      | ask _ | write _ _ | flush _ => exact inductionHypothesis fair
      | fail _ => exact fair

/-- A run that ends with a scripted error ends with a call that its script lets
fail. -/
theorem exists_failing_call
    {plan : Plan Error}
    (tells : plan.TellsTruly isScripted)
    {last : Option Call}
    (fair : GivesUpFairly last plan)
    {sink : Sink}
    {reporters : List Reporter}
    {failure : Error}
    (failed : (plan.run sink reporters).result = .error failure)
    (scripted : isScripted failure) :
    ∃ call,
      (last.toList ++ (plan.run sink reporters).calls).getLast? = some call ∧
        call.Fails := by
  induction plan generalizing last sink reporters with
  | nil => cases failed
  | cons task rest inductionHypothesis =>
      have restTells : TellsTruly isScripted rest :=
        fun other member => tells other (List.mem_cons_of_mem _ member)
      have taskTells := tells task List.mem_cons_self
      cases task with
      | ask call =>
          obtain ⟨failing, found, fails⟩ :=
            inductionHypothesis restTells fair failed
          refine ⟨failing, ?_, fails⟩
          have noted : (call :: (run rest sink
              (reporters.modify call.index Reporter.asked)).calls).getLast? =
                some failing := found
          rw [run_ask, List.getLast?_append]
          simp only [noted, Option.some_or]
      | write bytes blame =>
          cases wrote : Sink.writeAll bytes sink with
          | error cause next =>
              rw [run_write_of_error _ _ _ wrote] at failed
              injection failed with same
              rw [← same] at scripted
              exact absurd scripted (taskTells cause)
          | ok _ next =>
              rw [run_write_of_ok _ _ _ wrote] at failed ⊢
              exact inductionHypothesis restTells fair failed
      | flush blame =>
          cases flushed : Sink.flush sink with
          | error cause next =>
              rw [run_flush_of_error _ _ _ flushed] at failed
              injection failed with same
              rw [← same] at scripted
              exact absurd scripted (taskTells cause)
          | ok _ next =>
              rw [run_flush_of_ok _ _ _ flushed] at failed ⊢
              exact inductionHypothesis restTells fair failed
      | fail failure =>
          obtain ⟨call, rfl, fails⟩ := fair
          exact ⟨call, rfl, fails⟩

end Plan

theorem Reporter.not_isScripted_blame
    (reporter : Reporter)
    (cause : SinkError) :
    ¬(reporter.blame cause).IsScripted := by
  cases reporter <;> exact id

theorem Reporter.tellsTruly_plan
    {Error : Type}
    {isScripted : Error -> Prop}
    {tell : ReporterError -> Error}
    (faithful : ∀ cause, isScripted (tell cause) ↔ cause.IsScripted)
    (index : Nat)
    (argument : String)
    (reporter : Reporter) :
    Plan.TellsTruly isScripted (reporter.plan index argument tell) := by
  intro task member
  rw [plan, List.mem_cons, List.mem_cons, List.mem_map] at member
  rcases member with rfl | rfl | ⟨complaint, _, rfl⟩
  · trivial
  · intro cause scripted
    exact reporter.not_isScripted_blame cause ((faithful _).1 scripted)
  · exact (faithful (.scripted complaint)).2 trivial

/-- A reporter complains about no call but those that its script lets fail. -/
theorem Reporter.givesUpFairly_plan
    {Error : Type}
    (tell : ReporterError -> Error)
    (index : Nat)
    (argument : String)
    (reporter : Reporter)
    (last : Option Call) :
    Plan.GivesUpFairly last (reporter.plan index argument tell) := by
  cases reporter with
  | standard builtin => trivial
  | scripted script calls =>
      simp only [plan, complaint?]
      split
      · rename_i fails
        exact ⟨_, rfl, fails⟩
      · trivial

namespace Report

theorem tellsTruly_noticePlan :
    Plan.TellsTruly Failure.IsScripted noticePlan := by
  intro task member
  simp only [noticePlan, List.mem_cons, List.not_mem_nil, or_false] at member
  rcases member with rfl | rfl <;> exact fun _ => id

theorem tellsTruly_borderPlan :
    Plan.TellsTruly Failure.IsScripted borderPlan := by
  intro task member
  rw [borderPlan, List.mem_singleton] at member
  subst member
  exact fun _ => id

theorem tellsTruly_consultPlan
    (argument : String)
    (index : Nat)
    (reporters : List Reporter) :
    Plan.TellsTruly Failure.IsScripted
      (consultPlan argument index reporters) := by
  induction reporters generalizing index with
  | nil =>
      intro task member
      cases member
  | cons reporter rest inductionHypothesis =>
      have faithful (cause : ReporterError) :
          Failure.IsScripted (.reporter reporter.name argument cause) ↔
            cause.IsScripted := Iff.rfl
      rw [consultPlan]
      exact (reporter.tellsTruly_plan faithful index argument).append
        (inductionHypothesis (index + 1))

theorem tellsTruly_plan
    (index : Nat)
    (arguments : List String)
    (reporters : List Reporter) :
    Plan.TellsTruly Failure.IsScripted (plan index arguments reporters) := by
  induction arguments generalizing reporters with
  | nil =>
      intro task member
      cases member
  | cons argument rest inductionHypothesis =>
      rw [plan, blockPlan]
      exact (tellsTruly_noticePlan.append (tellsTruly_borderPlan.append
        ((tellsTruly_consultPlan argument index reporters).append
          tellsTruly_borderPlan))).append (inductionHypothesis _)

theorem givesUpFairly_consultPlan
    (argument : String)
    (index : Nat)
    (reporters : List Reporter)
    (last : Option Call) :
    Plan.GivesUpFairly last (consultPlan argument index reporters) := by
  induction reporters generalizing index last with
  | nil => trivial
  | cons reporter rest inductionHypothesis =>
      exact (reporter.givesUpFairly_plan _ index argument last).append
        (inductionHypothesis (index + 1))

theorem givesUpFairly_plan
    (index : Nat)
    (arguments : List String)
    (reporters : List Reporter)
    (last : Option Call) :
    Plan.GivesUpFairly last (plan index arguments reporters) := by
  induction arguments generalizing reporters last with
  | nil => trivial
  | cons argument rest inductionHypothesis =>
      have block (before : Option Call) :
          Plan.GivesUpFairly before (blockPlan argument index reporters) :=
        (givesUpFairly_consultPlan argument index reporters before).append
          fun _ => trivial
      exact (block last).append (inductionHypothesis _)

end Report
end ArgReport
