import ArgReport.Proofs.Plan.Outcome
import ArgReport.Proofs.Plan.Report

/-!
# The text of a plan

The text of a plan is everything it writes, whether or not it gives up before.
As long as a plan does not give up, its text is what it utters. The text of the
plan of a report is the text of the report, and in it each flush comes at the
end of a notice.
-/

namespace ArgReport
namespace Plan

variable {Error : Type}

/-- Everything that a plan writes. -/
def text : Plan Error -> List UInt8
  | [] => []
  | .ask _ :: rest => text rest
  | .write bytes _ :: rest => bytes ++ text rest
  | .flush _ :: rest => text rest
  | .fail _ :: rest => text rest

@[simp] theorem text_append (first second : Plan Error) :
    text (first ++ second) = text first ++ text second := by
  induction first with
  | nil => rfl
  | cons task rest inductionHypothesis =>
      cases task <;> simp [text, inductionHypothesis]

theorem utterance_eq_text
    {plan : Plan Error}
    (completed : plan.ending = .ok ()) :
    plan.utterance = plan.text := by
  induction plan with
  | nil => rfl
  | cons task rest inductionHypothesis =>
      cases task with
      | ask call => exact inductionHypothesis completed
      | write bytes blame =>
          rw [utterance, text, inductionHypothesis completed]
      | flush blame => exact inductionHypothesis completed
      | fail failure => cases completed

/-! ## Two plans in a row -/

section Append

variable
  {first : Plan Error}
  (second : Plan Error)

theorem flushPoints_append_of_ok (completed : first.ending = .ok ()) :
    Plan.flushPoints (first ++ second) =
      first.flushPoints ++
        second.flushPoints.map fun point =>
          (first.utterance.length + point.1, point.2) := by
  induction first with
  | nil => simp [flushPoints, utterance]
  | cons task rest inductionHypothesis =>
      cases task with
      | ask call => exact inductionHypothesis completed
      | write bytes blame =>
          rw [List.cons_append, flushPoints, flushPoints, utterance,
            inductionHypothesis completed]
          simp [Function.comp_def, Nat.add_assoc]
      | flush blame =>
          rw [List.cons_append, flushPoints, flushPoints, utterance,
            inductionHypothesis completed, List.cons_append]
      | fail failure => cases completed

theorem flushPoints_append_of_error
    {failure : Error}
    (failed : first.ending = .error failure) :
    Plan.flushPoints (first ++ second) = first.flushPoints := by
  induction first with
  | nil => cases failed
  | cons task rest inductionHypothesis =>
      cases task with
      | ask call => exact inductionHypothesis failed
      | write bytes blame =>
          rw [List.cons_append, flushPoints, flushPoints,
            inductionHypothesis failed]
      | flush blame =>
          rw [List.cons_append, flushPoints, flushPoints,
            inductionHypothesis failed]
      | fail other => rfl

end Append

/-- The plan flushes nothing. -/
def Unflushed (plan : Plan Error) : Prop :=
  ∀ blame, .flush blame ∉ plan

theorem flushPoints_of_unflushed
    {plan : Plan Error}
    (unflushed : plan.Unflushed) :
    plan.flushPoints = [] := by
  induction plan with
  | nil => rfl
  | cons task rest inductionHypothesis =>
      have further : flushPoints rest = [] :=
        inductionHypothesis fun blame member =>
          unflushed blame (List.mem_cons_of_mem _ member)
      cases task with
      | ask call => exact further
      | write bytes blame => rw [flushPoints, further, List.map_nil]
      | flush blame =>
          exact False.elim (unflushed blame List.mem_cons_self)
      | fail failure => rfl

end Plan

/-! ## Reporters -/

namespace Reporter

@[simp] theorem text_asked (reporter : Reporter) :
    reporter.asked.text = reporter.text := by
  funext argument
  cases reporter <;> rfl

theorem text_plan
    {Error : Type}
    (index : Nat)
    (argument : String)
    (tell : ReporterError -> Error)
    (reporter : Reporter) :
    Plan.text (reporter.plan index argument tell) =
      utf8 (reporter.text argument) := by
  rw [plan]
  cases reporter.complaint? argument <;>
    exact List.append_nil (utf8 (reporter.text argument))

end Reporter

/-- Asking reporters does not change what they write. -/
theorem blockText_map_asked (reporters : List Reporter) :
    blockText (reporters.map Reporter.asked) = blockText reporters := by
  funext argument
  simp [blockText, findingsText, Function.comp_def]

theorem reportText_map_asked
    (reporters : List Reporter)
    (arguments : List String) :
    reportText (reporters.map Reporter.asked) arguments =
      reportText reporters arguments := by
  rw [reportText, reportText, blockText_map_asked]

@[simp] theorem reportText_nil (reporters : List Reporter) :
    reportText reporters [] = "" := rfl

@[simp] theorem reportText_cons
    (reporters : List Reporter)
    (argument : String)
    (rest : List String) :
    reportText reporters (argument :: rest) =
      blockText reporters argument ++ reportText reporters rest := by
  simp [reportText]

theorem reportText_append
    (reporters : List Reporter)
    (first second : List String) :
    reportText reporters (first ++ second) =
      reportText reporters first ++ reportText reporters second := by
  induction first with
  | nil => simp
  | cons argument rest inductionHypothesis =>
      rw [List.cons_append, reportText_cons, reportText_cons,
        inductionHypothesis, String.append_assoc]

/-! ## Reports -/

namespace Report

theorem text_consultPlan
    (argument : String)
    (index : Nat)
    (reporters : List Reporter) :
    Plan.text (consultPlan argument index reporters) =
      utf8 (findingsText reporters argument) := by
  induction reporters generalizing index with
  | nil => simp [consultPlan, Plan.text, findingsText]
  | cons reporter rest inductionHypothesis =>
      rw [consultPlan, Plan.text_append, Reporter.text_plan,
        inductionHypothesis]
      simp [findingsText]

theorem text_blockPlan
    (argument : String)
    (index : Nat)
    (reporters : List Reporter) :
    Plan.text (blockPlan argument index reporters) =
      utf8 (blockText reporters argument) := by
  simp only [blockPlan, Plan.text_append, text_consultPlan, blockText,
    utf8_append, noticePlan, borderPlan, Plan.text, List.append_nil,
    List.append_assoc]

/-- The plan of a report writes the report. -/
theorem text_plan
    (index : Nat)
    (arguments : List String)
    (reporters : List Reporter) :
    Plan.text (plan index arguments reporters) =
      utf8 (reportText reporters arguments) := by
  induction arguments generalizing reporters with
  | nil => simp [plan, Plan.text]
  | cons argument rest inductionHypothesis =>
      rw [plan, Plan.text_append, text_blockPlan, inductionHypothesis,
        reportText_map_asked, reportText_cons, utf8_append]

theorem unflushed_consultPlan
    (argument : String)
    (index : Nat)
    (reporters : List Reporter) :
    Plan.Unflushed (consultPlan argument index reporters) := by
  induction reporters generalizing index with
  | nil =>
      intro blame member
      cases member
  | cons reporter rest inductionHypothesis =>
      intro blame member
      rw [consultPlan, List.mem_append] at member
      rcases member with own | others
      · simp [Reporter.plan] at own
      · exact inductionHypothesis (index + 1) blame others

/-- A block is flushed once, after its notice. -/
theorem flushPoints_blockPlan
    (argument : String)
    (index : Nat)
    (reporters : List Reporter) :
    Plan.flushPoints (blockPlan argument index reporters) =
      [((utf8 noticeText).length, .notice)] := by
  have others : Plan.Unflushed
      (borderPlan ++ (consultPlan argument index reporters ++ borderPlan)) := by
    intro blame member
    rw [List.mem_append, List.mem_append] at member
    rcases member with border | consulted | border
    · simp [borderPlan] at border
    · exact unflushed_consultPlan argument index reporters blame consulted
    · simp [borderPlan] at border
  have opened : Plan.ending noticePlan = .ok () := rfl
  rw [blockPlan, Plan.flushPoints_append_of_ok _ opened,
    Plan.flushPoints_of_unflushed others]
  rfl

/-- Where the notice of a block ends in a report. -/
def noticeEnd
    (reporters : List Reporter)
    (arguments : List String)
    (number : Nat) : Nat :=
  (utf8 (reportText reporters (arguments.take number) ++ noticeText)).length

/-- The flushes of a report come at the ends of its notices, one a block. -/
theorem flushPoints_plan
    {index number : Nat}
    {arguments : List String}
    {reporters : List Reporter}
    {point : Nat × (SinkError -> Failure)}
    (found : (Plan.flushPoints (plan index arguments reporters))[number]? =
      some point) :
    point = (noticeEnd reporters arguments number, .notice) := by
  induction arguments generalizing reporters number point with
  | nil => cases found
  | cons argument rest inductionHypothesis =>
      rw [plan] at found
      cases ended : Plan.ending (blockPlan argument index reporters) with
      | error failure =>
          rw [Plan.flushPoints_append_of_error _ ended,
            flushPoints_blockPlan] at found
          cases number with
          | zero =>
              injection found with same
              simp [← same, noticeEnd]
          | succ number => cases found
      | ok =>
          rw [Plan.flushPoints_append_of_ok _ ended, flushPoints_blockPlan]
            at found
          cases number with
          | zero =>
              injection found with same
              simp [← same, noticeEnd]
          | succ number =>
              rw [List.singleton_append, List.getElem?_cons_succ,
                List.getElem?_map, Option.map_eq_some_iff] at found
              obtain ⟨former, formerFound, rfl⟩ := found
              rw [inductionHypothesis formerFound,
                Plan.utterance_eq_text ended, text_blockPlan]
              simp [noticeEnd, reportText_map_asked]

end Report
end ArgReport
