import ArgReport.Proofs.Stepwise

/-!
# A report, step by step

A report does nothing that could not be asked of the desk in smaller steps: for
each argument a notice, a border, a call of each reporter, and a border again.
Taken one after another until one of them fails, these leave the desk as the
report does, and what they answer adds up to the answer of the report. A failure
is told as the step that failed and what it said.

So a report on two lists of arguments is a report on the first, and if that
succeeds one on the second.
-/

namespace ArgReport

@[simp] theorem Reporter.name_asked (reporter : Reporter) :
    reporter.asked.name = reporter.name := by
  cases reporter <;> rfl

/-- How a report tells that this step of it has failed, if its reporters have
these names. -/
def Step.context? (names : List String) : Step -> Option String
  | .notice _ => some "writing message"
  | .border => some "writing banner"
  | .consult index argument =>
      names[index]?.map fun name =>
        name ++ " failed on " ++ Quoted.quote argument
  | .line _ _ | .report _ _ _ | .check _ => none

/-- The texts with which a report tells that this step of it has failed. -/
def Step.told
    (names : List String)
    (step : Step)
    (error : StepError) : List String :=
  (step.context? names).toList ++ [error.message]

/-- The texts of a failure, from the outermost to the root. -/
def Failure.texts (failure : Failure) : List String :=
  failure.diagnostic.chain

/-- The two texts of a failure are the context of a step and what it said. -/
theorem Step.context_of_told
    {names : List String}
    {failure : Failure}
    {step : Step}
    {error : StepError}
    (same : failure.texts = step.told names error) :
    ∃ context, step.context? names = some context ∧
      failure.diagnostic.chain = [context, error.message] := by
  rw [Failure.texts, told] at same
  cases own : step.context? names with
  | none => simp [own] at same
  | some context => exact ⟨context, rfl, by rw [same, own]; rfl⟩

namespace Report

/-- The steps of the block of an argument. -/
def blockSteps (first last : Nat) (argument : String) : List Step :=
  .notice noticeText :: .border ::
    ((List.range' first (last - first)).map (Step.consult · argument) ++
      [.border])

/-- The steps of a report. -/
def elementarySteps
    (arguments : List String)
    (first last : Nat) : List Step :=
  arguments.flatMap (blockSteps first last)

/-! ## Steps and stretches -/

/-- Taken at a desk one after another until one fails, the steps are a stretch of
a report by the reporters in the middle of its list. -/
def Mirrors
    (names : List String)
    (before chosen after : List Reporter)
    (sink : Sink)
    (steps : List Step)
    (run : Run Failure) : Prop :=
  Desk.proceed (Step.told names)
      { sink, reporters := before ++ (chosen ++ after) } steps =
    (run.mapError Failure.texts).among before after

section Mirrors

variable
  {names : List String}
  {before chosen after : List Reporter}
  {sink : Sink}

theorem Mirrors.append
    {steps more : List Step}
    {run : Run Failure}
    {next : Sink -> List Reporter -> Run Failure}
    (first : Mirrors names before chosen after sink steps run)
    (second : run.result = .ok () ->
      Mirrors names before run.reporters after run.sink more
        (next run.sink run.reporters)) :
    Mirrors names before chosen after sink (steps ++ more)
      (run.andThen next) := by
  rw [Mirrors, Desk.proceed_append, first, Run.mapError_andThen]
  apply Run.among_andThen
  intro succeeded
  exact second (Run.result_mapError_eq_ok_iff.1 succeeded)

/-- A single text that fails in the same words. -/
theorem mirrors_writing
    {step : Step}
    {stepFailed : SinkError -> StepError}
    {failed : SinkError -> Failure}
    {action : EStateM SinkError Sink Unit}
    (performed : ∀ desk : Desk, desk.perform step =
      Run.writing stepFailed action desk.sink desk.reporters)
    (same : ∀ cause, step.told names (stepFailed cause) =
      (failed cause).texts) :
    Mirrors names before chosen after sink [step]
      (Run.writing failed action sink chosen) := by
  have sameTold : step.told names ∘ stepFailed = Failure.texts ∘ failed :=
    funext same
  rw [Mirrors, Desk.proceed_cons, performed, Run.mapError_writing,
    Run.mapError_writing, Run.among_writing, sameTold]
  exact Run.andThen_idle _

theorem mirrors_openBlock :
    Mirrors names before chosen after sink [.notice noticeText]
      (openBlock sink chosen) :=
  mirrors_writing (fun _ => rfl) fun _ => rfl

theorem mirrors_drawBorder :
    Mirrors names before chosen after sink [.border]
      (drawBorder sink chosen) :=
  mirrors_writing (fun _ => rfl) fun _ => rfl

/-- A call is made of the reporter at its place. -/
theorem perform_consult
    (before : List Reporter)
    (reporter : Reporter)
    (after : List Reporter)
    (argument : String)
    (sink : Sink) :
    Desk.perform { sink, reporters := before ++ reporter :: after }
        (.consult before.length argument) =
      { Run.writing .reporter (reporter.report argument) sink
          (before ++ reporter.asked :: after) with
        calls := [{ index := before.length, reporter, argument }] } := by
  rw [Desk.perform, Desk.consult]
  simp

theorem mirrors_consult
    (named : (before ++ (chosen ++ after)).map Reporter.name = names)
    (argument : String) :
    Mirrors names before chosen after sink
      ((List.range' before.length chosen.length).map
        (Step.consult · argument))
      (consult argument before.length sink chosen) := by
  -- A reporter that has been asked joins those before the ones still to be asked.
  induction chosen generalizing before sink with
  | nil => rfl
  | cons reporter rest inductionHypothesis =>
      have own : names[before.length]? = some reporter.name := by
        rw [← named]
        simp
      have stillNamed : ((before ++ [reporter.asked]) ++ (rest ++ after)).map
          Reporter.name = names := by
        rw [← named]
        simp
      have blamed (cause : ReporterError) :
          Step.told names (.consult before.length argument)
              (.reporter cause) =
            Failure.texts (.reporter reporter.name argument cause) := by
        rw [Step.told, Step.context?, own]
        rfl
      rw [Mirrors, List.length_cons, List.range'_succ, List.map_cons,
        Desk.proceed_cons, List.cons_append, perform_consult, consult]
      cases told : reporter.report argument sink with
      | error cause next =>
          simp [Run.writing, Run.mapError, Run.andThen, Run.among, told,
            Except.mapError, blamed]
      | ok _ next =>
          have further : Mirrors _ _ _ _ next _ _ :=
            inductionHypothesis stillNamed
          rw [Mirrors, List.append_assoc, List.singleton_append,
            List.length_append, List.length_singleton] at further
          simp [Run.writing, Run.mapError, Run.andThen, Run.among, told,
            Except.mapError, further]

variable {first last : Nat}

theorem mirrors_block
    (named : (before ++ (chosen ++ after)).map Reporter.name = names)
    (placed : before.length = first)
    (width : chosen.length = last - first)
    (argument : String) :
    Mirrors names before chosen after sink (blockSteps first last argument)
      (block argument first sink chosen) := by
  subst placed
  rw [block_eq, blockSteps, ← width]
  refine mirrors_openBlock.append fun _ => ?_
  rw [openBlock, Run.reporters_writing]
  refine mirrors_drawBorder.append fun _ => ?_
  rw [drawBorder, Run.reporters_writing]
  exact (mirrors_consult named argument).append fun _ => mirrors_drawBorder

/-- The steps of a report, taken until one fails, are its blocks. -/
theorem mirrors_blocks
    (named : (before ++ (chosen ++ after)).map Reporter.name = names)
    (placed : before.length = first)
    (width : chosen.length = last - first)
    (arguments : List String) :
    Mirrors names before chosen after sink
      (elementarySteps arguments first last)
      (blocks first arguments sink chosen) := by
  induction arguments generalizing chosen sink with
  | nil => rfl
  | cons argument rest inductionHypothesis =>
      rw [elementarySteps, List.flatMap_cons, blocks_cons]
      refine (mirrors_block named placed width argument).append
        fun completed => ?_
      rw [reporters_block_of_ok completed]
      apply inductionHypothesis
      · rw [← named]
        simp
      · rw [List.length_map, width]

end Mirrors

/-! ## The rest of the arguments -/

/-- A report on two lists of arguments is two reports in a row. -/
theorem blocks_append
    (index : Nat)
    (first second : List String)
    (sink : Sink)
    (reporters : List Reporter) :
    blocks index (first ++ second) sink reporters =
      (blocks index first sink reporters).andThen (blocks index second) := by
  induction first generalizing sink reporters with
  | nil => rw [List.nil_append, blocks_nil, Run.idle_andThen]
  | cons argument rest inductionHypothesis =>
      rw [List.cons_append, blocks_cons, blocks_cons, Run.andThen_assoc]
      congr 1
      funext next counted
      exact inductionHypothesis next counted

/-- A report that succeeds leaves as many reporters as it found. -/
theorem length_reporters_blocks_of_ok
    {index : Nat}
    {arguments : List String}
    {sink : Sink}
    {reporters : List Reporter}
    (completed : (blocks index arguments sink reporters).result = .ok ()) :
    (blocks index arguments sink reporters).reporters.length =
      reporters.length := by
  induction arguments generalizing sink reporters with
  | nil => rfl
  | cons argument rest inductionHypothesis =>
      rw [blocks_cons] at completed ⊢
      obtain ⟨begun, rest⟩ := Run.result_andThen_eq_ok_iff.1 completed
      rw [Run.reporters_andThen_of_ok begun, inductionHypothesis rest,
        reporters_block_of_ok begun, List.length_map]

end Report

namespace Desk

/-- The desk's reporters are those of a report and the others around them. -/
theorem take_append_slice
    (desk : Desk)
    (first last : Nat) :
    desk.reporters.take first ++ (desk.slice first last ++
      (desk.reporters.drop first).drop (last - first)) = desk.reporters := by
  rw [slice, List.take_append_drop, List.take_append_drop]

theorem report_eq_among
    (desk : Desk)
    (arguments : List String)
    (first last : Nat) :
    desk.report arguments first last =
      ((desk.blocks arguments first last).mapError .report).among
        (desk.reporters.take first)
        ((desk.reporters.drop first).drop (last - first)) := by
  rw [report_eq, Run.among, Run.mapError, List.append_assoc]

theorem length_take_of_serves
    {desk : Desk}
    {arguments : List String}
    {first last : Nat}
    (serves : desk.Serves (.report arguments first last)) :
    (desk.reporters.take first).length = first :=
  List.length_take_of_le (Nat.le_trans serves.1 serves.2)

/-- Taken at the desk, the steps of a report are its blocks. -/
theorem proceed_elementarySteps
    {desk : Desk}
    {arguments : List String}
    {first last : Nat}
    (serves : desk.Serves (.report arguments first last)) :
    desk.proceed (Step.told (desk.reporters.map Reporter.name))
        (Report.elementarySteps arguments first last) =
      ((desk.blocks arguments first last).mapError Failure.texts).among
        (desk.reporters.take first)
        ((desk.reporters.drop first).drop (last - first)) := by
  have named := congrArg (List.map Reporter.name)
    (desk.take_append_slice first last)
  have mirrors : Report.Mirrors _ _ _ _ desk.sink _ _ :=
    Report.mirrors_blocks named (length_take_of_serves serves)
      (length_slice serves) arguments
  rw [Report.Mirrors, take_append_slice] at mirrors
  exact mirrors

/-- Where its reporters are found again, a report goes on as their blocks. -/
theorem report_of_parts
    {before chosen : List Reporter}
    {first last : Nat}
    (placed : before.length = first)
    (width : chosen.length = last - first)
    (arguments : List String)
    (sink : Sink)
    (after : List Reporter) :
    report { sink, reporters := before ++ (chosen ++ after) } arguments first
        last =
      ((Report.blocks first arguments sink chosen).mapError .report).among
        before after := by
  rw [report_eq_among, blocks, slice, List.take_left' placed,
    List.drop_left' placed, List.take_left' width, List.drop_left' width]

/-- At a desk, too, a report on two lists of arguments is two reports in a
row. -/
theorem report_append
    {desk : Desk}
    {begun rest : List String}
    {first last : Nat}
    (serves : desk.Serves (.report (begun ++ rest) first last)) :
    desk.report (begun ++ rest) first last =
      (desk.report begun first last).andThen fun sink reporters =>
        report { sink, reporters } rest first last := by
  rw [report_eq_among, report_eq_among, blocks, Report.blocks_append,
    Run.mapError_andThen]
  symm
  apply Run.among_andThen
  intro told
  have completed : (desk.blocks begun first last).result = .ok () :=
    Run.result_mapError_eq_ok_iff.1 told
  have width : (desk.blocks begun first last).reporters.length =
      last - first := by
    rw [blocks, Report.length_reporters_blocks_of_ok completed]
    exact length_slice serves
  exact report_of_parts (length_take_of_serves serves) width rest _ _

/-- A report as the steps that it amounts to. -/
structure TakesSteps
    (desk : Desk)
    (arguments : List String)
    (first last : Nat) : Prop where
  /-- All that the report leaves and answers is left and answered by its steps,
  taken until one fails. -/
  same :
    let taken :=
      desk.stepsToFailure (Report.elementarySteps arguments first last)
    let session := desk.session taken
    let answered := desk.answer (.report arguments first last)
    taken <+: Report.elementarySteps arguments first last ∧
      answered.2 = session.2 ∧
      answered.1.out = session.1.flatMap Answer.out ∧
      answered.1.flushes = session.1.flatMap Answer.flushes ∧
      answered.1.calls = session.1.flatMap Answer.calls ∧
      answered.1.log = session.1.flatMap Answer.log ∧
      answered.1.position = session.2.sink.position
  /-- The report succeeds exactly when no step fails. Then all are taken. -/
  succeeds :
    let taken :=
      desk.stepsToFailure (Report.elementarySteps arguments first last)
    ((desk.answer (.report arguments first last)).1.result = .ok () ↔
        ∀ answer ∈ (desk.session taken).1, answer.result = .ok ()) ∧
      ((desk.answer (.report arguments first last)).1.result = .ok () ->
        taken = Report.elementarySteps arguments first last)
  /-- A failure is told as the step that failed, the last that was taken, and
  what it said. -/
  failed : ∀ error,
    (desk.answer (.report arguments first last)).1.result = .error error ->
      ∃ failure begun step answers answer cause context,
        error = .report failure ∧
          desk.stepsToFailure
              (Report.elementarySteps arguments first last) =
            begun ++ [step] ∧
          (desk.session (begun ++ [step])).1 = answers ++ [answer] ∧
          (∀ earlier ∈ answers, earlier.result = .ok ()) ∧
          answer.result = .error cause ∧
          step.context? (desk.reporters.map Reporter.name) = some context ∧
          failure.diagnostic.chain = [context, cause.message]
  /-- However the arguments are split, the report is one on the first of them
  and, if that succeeds, one on the others. -/
  split : ∀ begun rest, arguments = begun ++ rest ->
    desk.AmountsTo (.report arguments first last)
      (.report begun first last) (.report rest first last)

/-- Any report is its steps, and any part of it a report. -/
theorem report_takesSteps
    {desk : Desk}
    {arguments : List String}
    {first last : Nat}
    (serves : desk.Serves (.report arguments first last)) :
    desk.TakesSteps arguments first last := by
  have reported := desk.report_eq_among arguments first last
  obtain ⟨left, calls, stops⟩ := session_stepsToFailure
    (Step.told (desk.reporters.map Reporter.name)) desk
    (Report.elementarySteps arguments first last)
  rw [proceed_elementarySteps serves] at left calls stops
  -- Report and session end alike, each with its own way to tell a failure.
  generalize ended : (desk.blocks arguments first last).result = ending
  have result : (desk.answer (.report arguments first last)).1.result =
      ending.mapError .report := by
    rw [← ended]
    exact congrArg Run.result reported
  have stops : desk.Stops (Step.told (desk.reporters.map Reporter.name))
      (Report.elementarySteps arguments first last)
      (ending.mapError Failure.texts) := by
    rw [← ended]
    exact stops
  constructor
  case same =>
    intro taken session answered
    have sameDesk : answered.2 = session.2 := by
      rw [left]
      simp only [answered, answer, perform, reported]
      rfl
    have sameCalls : answered.1.calls = session.1.flatMap Answer.calls := by
      rw [calls]
      exact congrArg Run.calls reported
    obtain ⟨out, flushes⟩ := answer_adds_session (congrArg Desk.sink sameDesk)
    refine ⟨stops.isPrefix, sameDesk, out, flushes, sameCalls, ?_, ?_⟩
    · rw [Answer.log, sameCalls, List.filterMap_flatMap]
      rfl
    · exact congrArg (fun desk : Desk => desk.sink.position) sameDesk
  case succeeds =>
    intro taken
    rw [result, ← stops.eq_ok_iff]
    cases ending with
    | ok _ =>
        cases stops with
        | completed all _ => exact ⟨⟨fun _ => rfl, fun _ => rfl⟩, fun _ => all⟩
    | error failure =>
        refine ⟨⟨?_, ?_⟩, ?_⟩ <;> (intro succeeded; cases succeeded)
  case failed =>
    intro error failed
    rw [result] at failed
    cases ending with
    | ok _ => cases failed
    | error failure =>
        injection failed with same
        obtain ⟨begun, step, answers, answer, cause, taken, answered, succeeded,
          refused, told⟩ := stops.exists_of_error
        obtain ⟨context, own, chain⟩ := Step.context_of_told told
        exact ⟨failure, begun, step, answers, answer, cause, context,
          same.symm, taken, answered, succeeded, refused, own, chain⟩
  case split =>
    rintro begun rest rfl
    exact amountsTo_of_perform (report_append serves)

/-- The line of the second argument is cut, by which time nine steps have been
taken. -/
theorem report_takesSteps_up_to_cut_line :
    let desk : Desk :=
      { sink :=
          { chunk := some 9
            faults :=
              [ { place := 30, effect := .refuse .interrupted, times := 2 },
                { place := 250, effect := .refuse (.system .noSpace) } ] }
        reporters :=
          [ .scripted { name := "idle" } 7,
            .scripted { name := "memo", output := some "x" } 4,
            .standard .echo ] }
    let steps : List Step :=
      [ .notice noticeText, .border, .consult 1 "a", .consult 2 "a", .border,
        .notice noticeText, .border, .consult 1 "b", .consult 2 "b" ]
    let answered := desk.answer (.report ["a", "b"] 1 3)
    desk.Serves (.report ["a", "b"] 1 3) ∧
      desk.stepsToFailure (Report.elementarySteps ["a", "b"] 1 3) = steps ∧
      answered.2 = (desk.session steps).2 ∧
      answered.1.out = (desk.session steps).1.flatMap Answer.out ∧
      answered.1.log = ["memo#5:a", "memo#6:b"] ∧
      (∃ failure answers answer cause context,
        answered.1.result = .error (.report failure) ∧
          (desk.session steps).1 = answers ++ [answer] ∧
          answer.result = .error cause ∧
          failure.diagnostic.chain = [context, cause.message]) ∧
      desk.AmountsTo (.report ["a", "b"] 1 3) (.report ["a"] 1 3)
        (.report ["b"] 1 3) := by
  intro desk steps answered
  have serves : desk.Serves (.report ["a", "b"] 1 3) := by decide
  have taken : desk.stepsToFailure
      (Report.elementarySteps ["a", "b"] 1 3) = steps := by
    decide +kernel
  have takes := report_takesSteps serves
  have same := takes.same
  rw [taken] at same
  obtain ⟨_, left, out, _, _, log, _⟩ := same
  have failed : answered.1.result = .error (.report (.reporter "ham" "b"
      (.line .echo (.refused (.system .noSpace))))) := by
    decide +kernel
  obtain ⟨failure, begun, step, answers, answer, cause, context, told,
    stopped, last, _, refused, _, chain⟩ := takes.failed _ failed
  rw [← stopped, taken] at last
  rw [told] at failed
  exact ⟨serves, taken, left, out, log.trans (by decide +kernel),
    ⟨failure, answers, answer, cause, context, failed, last, refused, chain⟩,
    takes.split ["a"] ["b"] rfl⟩

end Desk
end ArgReport
