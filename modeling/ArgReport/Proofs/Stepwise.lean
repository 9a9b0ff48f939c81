import ArgReport.Proofs.FlushPositions

/-!
# Steps taken until one fails

A session goes on after a step that fails. Here it is stopped there, and compared
with a run, in which nothing follows a failure anyway. The session has taken a
beginning of the steps, all but the last with success, and the run leaves the desk
as the session does. What the answers add, one after another, is what the run
adds.
-/

namespace ArgReport
namespace Desk

variable {Error : Type}

/-- The steps that are taken if the first one that fails is the last. -/
def stepsToFailure (desk : Desk) : List Step -> List Step
  | [] => []
  | step :: rest =>
      let answered := desk.answer step
      match answered.1.result with
      | .ok () => step :: answered.2.stepsToFailure rest
      | .error _ => [step]

/-- Take steps one after another until one fails, as a single run. The error is
told by way of the step. -/
def proceed
    (tell : Step -> StepError -> Error)
    (desk : Desk) : List Step -> Run Error
  | [] => Run.idle desk.sink desk.reporters
  | step :: rest =>
      ((desk.perform step).mapError (tell step)).andThen
        fun sink reporters => proceed tell { sink, reporters } rest

@[simp] theorem proceed_nil
    (tell : Step -> StepError -> Error)
    (desk : Desk) :
    desk.proceed tell [] = Run.idle desk.sink desk.reporters := rfl

@[simp] theorem proceed_cons
    (tell : Step -> StepError -> Error)
    (desk : Desk)
    (step : Step)
    (rest : List Step) :
    desk.proceed tell (step :: rest) =
      ((desk.perform step).mapError (tell step)).andThen
        fun sink reporters => proceed tell { sink, reporters } rest := rfl

/-- The steps of two lists are taken in turn. -/
theorem proceed_append
    (tell : Step -> StepError -> Error)
    (desk : Desk)
    (first second : List Step) :
    desk.proceed tell (first ++ second) =
      (desk.proceed tell first).andThen
        fun sink reporters => proceed tell { sink, reporters } second := by
  induction first generalizing desk with
  | nil => rw [List.nil_append, proceed_nil, Run.idle_andThen]
  | cons step rest inductionHypothesis =>
      rw [List.cons_append, proceed_cons, proceed_cons, Run.andThen_assoc]
      congr 1
      funext sink reporters
      exact inductionHypothesis { sink, reporters }

/-! ## The session that is stopped -/

section OneStep

variable
  {desk : Desk}
  {step : Step}

theorem stepsToFailure_of_ok
    (succeeded : (desk.answer step).1.result = .ok ())
    (rest : List Step) :
    desk.stepsToFailure (step :: rest) =
      step :: (desk.answer step).2.stepsToFailure rest := by
  simp only [stepsToFailure, succeeded]

theorem stepsToFailure_of_error
    {error : StepError}
    (failed : (desk.answer step).1.result = .error error)
    (rest : List Step) :
    desk.stepsToFailure (step :: rest) = [step] := by
  simp only [stepsToFailure, failed]

theorem proceed_of_ok
    (succeeded : (desk.answer step).1.result = .ok ())
    (tell : Step -> StepError -> Error)
    (rest : List Step) :
    desk.proceed tell (step :: rest) =
      { (desk.answer step).2.proceed tell rest with
        calls := (desk.answer step).1.calls ++
          ((desk.answer step).2.proceed tell rest).calls } := by
  have told : ((desk.perform step).mapError (tell step)).result = .ok () :=
    Run.result_mapError_eq_ok_iff.2 succeeded
  rw [proceed_cons, Run.andThen_of_ok told]
  rfl

theorem proceed_of_error
    {error : StepError}
    (failed : (desk.answer step).1.result = .error error)
    (tell : Step -> StepError -> Error)
    (rest : List Step) :
    desk.proceed tell (step :: rest) =
      { result := .error (tell step error)
        sink := (desk.answer step).2.sink
        reporters := (desk.answer step).2.reporters
        calls := (desk.answer step).1.calls } := by
  have result : (desk.perform step).result = .error error := failed
  have told : ((desk.perform step).mapError (tell step)).result =
      .error (tell step error) := by
    rw [Run.mapError, result]
    rfl
  rw [proceed_cons, Run.andThen_of_error told, ← told]
  rfl

end OneStep

/-- How a session ends that is stopped after the first step that fails, if the
error is told by way of that step. -/
inductive Stops
    (tell : Step -> StepError -> Error)
    (desk : Desk)
    (steps : List Step) : Except Error Unit -> Prop
  /-- No step failed, and all were taken. -/
  | completed
      (all : desk.stepsToFailure steps = steps)
      (succeeded : ∀ answer ∈ (desk.session steps).1, answer.result = .ok ()) :
      Stops tell desk steps (.ok ())
  /-- The last step that was taken failed, and it was the first to do so. -/
  | failed
      (begun : List Step)
      (step : Step)
      (answers : List Answer)
      (answer : Answer)
      (error : StepError)
      (taken : desk.stepsToFailure steps = begun ++ [step])
      (early : begun ++ [step] <+: steps)
      (answered : (desk.session (begun ++ [step])).1 = answers ++ [answer])
      (succeeded : ∀ earlier ∈ answers, earlier.result = .ok ())
      (refused : answer.result = .error error) :
      Stops tell desk steps (.error (tell step error))

theorem Stops.cons
    {tell : Step -> StepError -> Error}
    {desk : Desk}
    {step : Step}
    {rest : List Step}
    {result : Except Error Unit}
    (succeeded : (desk.answer step).1.result = .ok ())
    (further : (desk.answer step).2.Stops tell rest result) :
    desk.Stops tell (step :: rest) result := by
  have first := stepsToFailure_of_ok succeeded rest
  cases further with
  | completed all others =>
      rw [all] at first
      refine .completed first ?_
      intro answer member
      rw [session_cons] at member
      rcases List.mem_cons.1 member with rfl | inRest
      · exact succeeded
      · exact others answer inRest
  | failed begun last answers answer error taken early answered others refused =>
      rw [taken] at first
      refine .failed (step :: begun) last ((desk.answer step).1 :: answers)
        answer error first ?_ ?_ ?_ refused
      · rw [List.cons_append]
        exact List.cons_prefix_cons.2 ⟨rfl, early⟩
      · rw [List.cons_append, session_cons, answered, List.cons_append]
      · intro earlier member
        rcases List.mem_cons.1 member with rfl | inAnswers
        · exact succeeded
        · exact others earlier inAnswers

theorem Stops.isPrefix
    {tell : Step -> StepError -> Error}
    {desk : Desk}
    {steps : List Step}
    {result : Except Error Unit}
    (stops : desk.Stops tell steps result) :
    desk.stepsToFailure steps <+: steps := by
  cases stops with
  | completed all succeeded => exact ⟨[], by rw [all, List.append_nil]⟩
  | failed begun step answers answer error taken early =>
      rw [taken]
      exact early

/-- No failed answer is among those of a session that ends well, and the last of
one that does not has failed. -/
theorem Stops.eq_ok_iff
    {tell : Step -> StepError -> Error}
    {desk : Desk}
    {steps : List Step}
    {result : Except Error Unit}
    (stops : desk.Stops tell steps result) :
    result = .ok () ↔
      ∀ answer ∈ (desk.session (desk.stepsToFailure steps)).1,
        answer.result = .ok () := by
  cases stops with
  | completed all succeeded =>
      rw [all]
      exact ⟨fun _ => succeeded, fun _ => rfl⟩
  | failed begun step answers answer error taken early answered succeeded
      refused =>
      rw [taken, answered]
      constructor
      · nofun
      · intro all
        have last := all answer (by simp)
        rw [refused] at last
        cases last

theorem Stops.exists_of_error
    {tell : Step -> StepError -> Error}
    {desk : Desk}
    {steps : List Step}
    {told : Error}
    (stops : desk.Stops tell steps (.error told)) :
    ∃ begun step answers answer error,
      desk.stepsToFailure steps = begun ++ [step] ∧
        (desk.session (begun ++ [step])).1 = answers ++ [answer] ∧
        (∀ earlier ∈ answers, earlier.result = .ok ()) ∧
        answer.result = .error error ∧ told = tell step error := by
  cases stops with
  | failed begun step answers answer error taken early answered succeeded
      refused =>
      exact ⟨begun, step, answers, answer, error, taken, answered, succeeded,
        refused, rfl⟩

/-- A run of steps and a session that is stopped where the run ends leave the
same desk, have made the same calls, and end in the same way. -/
theorem session_stepsToFailure
    (tell : Step -> StepError -> Error)
    (desk : Desk)
    (steps : List Step) :
    let session := desk.session (desk.stepsToFailure steps)
    let run := desk.proceed tell steps
    session.2 = { sink := run.sink, reporters := run.reporters } ∧
      session.1.flatMap Answer.calls = run.calls ∧
      desk.Stops tell steps run.result := by
  intro session run
  induction steps generalizing desk with
  | nil => exact ⟨rfl, rfl, .completed rfl nofun⟩
  | cons step rest inductionHypothesis =>
      cases ended : (desk.answer step).1.result with
      | ok _ =>
          obtain ⟨left, calls, ending⟩ :=
            inductionHypothesis (desk.answer step).2
          have taken : session =
              desk.session (step :: (desk.answer step).2.stepsToFailure rest) :=
            congrArg desk.session (stepsToFailure_of_ok ended rest)
          have proceeded := proceed_of_ok ended tell rest
          rw [taken, session_cons]
          refine ⟨?_, ?_, ?_⟩
          · rw [left]
            simp only [run, proceeded]
          · rw [List.flatMap_cons, calls]
            simp only [run, proceeded]
          · have result : run.result =
                ((desk.answer step).2.proceed tell rest).result := by
              simp only [run, proceeded]
            rw [result]
            exact .cons ended ending
      | error error =>
          have only := stepsToFailure_of_error ended rest
          have taken : session = desk.session [step] :=
            congrArg desk.session only
          have proceeded := proceed_of_error ended tell rest
          rw [taken, session_cons, session_nil]
          refine ⟨?_, ?_, ?_⟩
          · simp only [run, proceeded]
          · rw [List.flatMap_singleton]
            simp only [run, proceeded]
          · have result : run.result = .error (tell step error) := by
              simp only [run, proceeded]
            rw [result]
            exact .failed [] step [] (desk.answer step).1 error only
              (List.cons_prefix_cons.2 ⟨rfl, List.nil_prefix⟩) rfl nofun ended

/-! ## What answers add -/

theorem bytes_answer (desk : Desk) (step : Step) :
    (desk.answer step).2.sink.bytes =
      desk.sink.bytes ++ (desk.answer step).1.out := by
  obtain ⟨taken, flushed⟩ := desk.perform_flushed step
  rw [out_answer flushed.bytes]
  exact flushed.bytes

/-- The bytes of a session follow one another in its sink. -/
theorem bytes_session (desk : Desk) (steps : List Step) :
    (desk.session steps).2.sink.bytes =
      desk.sink.bytes ++ (desk.session steps).1.flatMap Answer.out := by
  induction steps generalizing desk with
  | nil => exact (List.append_nil _).symm
  | cons step rest inductionHypothesis =>
      rw [session_cons, List.flatMap_cons, inductionHypothesis, bytes_answer,
        List.append_assoc]

/-- A step that leaves the sink as a session does has added to it what the
answers of the session add up to. -/
theorem answer_adds_session
    {desk : Desk}
    {step : Step}
    {steps : List Step}
    (left : (desk.answer step).2.sink = (desk.session steps).2.sink) :
    (desk.answer step).1.out = (desk.session steps).1.flatMap Answer.out ∧
      (desk.answer step).1.flushes =
        (desk.session steps).1.flatMap Answer.flushes := by
  have bytes := congrArg Sink.bytes left
  have flushes := congrArg Sink.flushes left
  rw [bytes_answer, bytes_session] at bytes
  rw [(desk.answer_flushes_ordered step).1,
    (desk.session_flushes_ordered steps).1] at flushes
  exact ⟨List.append_cancel_left bytes, List.append_cancel_left flushes⟩

/-- A step amounts to two others, of which the second is taken if the first
succeeds. -/
structure AmountsTo (desk : Desk) (whole begun resumed : Step) : Prop where
  /-- If the first succeeds, the second makes up the rest of the answer. -/
  further :
    (desk.answer begun).1.result = .ok () ->
      let first := desk.answer begun
      let second := first.2.answer resumed
      let all := desk.answer whole
      all.1.result = second.1.result ∧
        all.1.out = first.1.out ++ second.1.out ∧
        all.1.flushes = first.1.flushes ++ second.1.flushes ∧
        all.1.calls = first.1.calls ++ second.1.calls ∧
        all.1.log = first.1.log ++ second.1.log ∧
        all.1.position = second.1.position ∧
        all.2 = second.2
  /-- If the first fails, it makes up the whole answer. -/
  failed : ∀ error,
    (desk.answer begun).1.result = .error error ->
      desk.answer whole = desk.answer begun

/-- A run of two parts is answered in two parts. -/
theorem amountsTo_of_perform
    {desk : Desk}
    {whole begun resumed : Step}
    (parts : desk.perform whole =
      (desk.perform begun).andThen fun sink reporters =>
        perform { sink, reporters } resumed) :
    desk.AmountsTo whole begun resumed := by
  constructor
  case further =>
    intro succeeded first second all
    have result : (desk.perform begun).result = .ok () := succeeded
    rw [Run.andThen_of_ok result] at parts
    have left : all.2 = second.2 := by
      simp only [all, second, first, answer, parts]
    have ended : all.1.result = second.1.result := by
      simp only [all, second, first, answer, parts]
    have calls : all.1.calls = first.1.calls ++ second.1.calls := by
      simp only [all, second, first, answer, parts]
    have log : all.1.log = first.1.log ++ second.1.log := by
      rw [Answer.log, Answer.log, Answer.log, calls, List.filterMap_append]
    have position : all.1.position = second.1.position :=
      congrArg (fun desk : Desk => desk.sink.position) left
    have sameSink : (desk.answer whole).2.sink =
        (desk.session [begun, resumed]).2.sink := congrArg Desk.sink left
    obtain ⟨out, flushes⟩ := answer_adds_session sameSink
    simp only [session_cons, session_nil, List.flatMap_cons, List.flatMap_nil,
      List.append_nil] at out flushes
    exact ⟨ended, out, flushes, calls, log, position, left⟩
  case failed =>
    intro error refused
    have result : (desk.perform begun).result = .error error := refused
    rw [Run.andThen_of_error result] at parts
    simp only [answer, parts]

end Desk
end ArgReport
