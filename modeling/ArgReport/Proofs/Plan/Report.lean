import ArgReport.Proofs.Plan.Basic
import ArgReport.Report.Text

/-!
# The plan of a report

What a report does is a list of tasks that only its arguments and its reporters
settle. This module writes the list down, part by part, and proves that a report
is the list carried out. The reporters of a report may be a stretch of a longer
list, so the equations keep what stands before and after it.

How a line is cut into fragments does not appear in a plan: writing fragments is
writing their concatenation.
-/

namespace ArgReport

namespace Sink

/-- Writing fragments one after another is writing them as one. -/
theorem writeEach_apply
    (fragments : List (List UInt8))
    (sink : Sink) :
    writeEach fragments sink = writeAll fragments.flatten sink := by
  induction fragments generalizing sink with
  | nil =>
      rw [List.flatten_nil, writeAll_nil]
      rfl
  | cons first rest inductionHypothesis =>
      have each : writeEach (first :: rest) sink =
          (do writeAll first; writeEach rest : EStateM SinkError Sink Unit)
            sink := rfl
      have others : writeEach rest = writeAll rest.flatten :=
        funext inductionHypothesis
      rw [each, others, List.flatten_cons, writeAll_append]

end Sink

theorem Builtin.write_apply
    (builtin : Builtin)
    (argument : String)
    (sink : Sink) :
    builtin.write argument sink =
      Sink.writeAll (utf8 (builtin.line argument)) sink := by
  rw [Builtin.write, Sink.writeEach_apply, Builtin.flatten_fragments]

theorem writeBorder_apply (sink : Sink) :
    writeBorder sink = Sink.writeAll (utf8 borderLine) sink := by
  rw [writeBorder, Sink.writeEach_apply, borderLine, utf8_append]
  simp

/-- A notice is a text and a flush. -/
theorem Plan.run_notice
    {Error : Type}
    (blame : SinkError -> Error)
    (text : String)
    (sink : Sink)
    (reporters : List Reporter) :
    Plan.run [.write (utf8 text) blame, .flush blame] sink reporters =
      Run.writing blame (writeNotice text) sink reporters := by
  rw [Run.writing]
  simp only [writeNotice, bind, EStateM.bind]
  cases wrote : Sink.writeAll (utf8 text) sink with
  | error cause next => rw [Plan.run_write_of_error _ _ _ wrote]
  | ok _ next =>
      rw [Plan.run_write_of_ok _ _ _ wrote, Plan.run_singleton]
      rfl

namespace Reporter

/-- How the reporter tells that its text could not be written. -/
def blame : Reporter -> SinkError -> ReporterError
  | .standard builtin => .line builtin
  | .scripted _ _ => .output

/-- What the reporter says if its script lets the next call fail. -/
def complaint? : Reporter -> String -> Option String
  | .standard _, _ => none
  | .scripted script calls, argument =>
      if script.Fails (calls + 1) argument then
        some script.complaint
      else
        none

/-- A report of one reporter is its text, and then its complaint. -/
theorem report_apply
    (reporter : Reporter)
    (argument : String)
    (sink : Sink) :
    reporter.report argument sink =
      match Sink.writeAll (utf8 (reporter.text argument)) sink with
      | .ok () next =>
          match reporter.complaint? argument with
          | none => .ok () next
          | some complaint => .error (.scripted complaint) next
      | .error cause next => .error (reporter.blame cause) next := by
  cases reporter with
  | standard builtin =>
      rw [report, EStateM.adaptExcept, Builtin.write_apply]
      simp only [text, complaint?, blame]
      cases Sink.writeAll (utf8 (builtin.line argument)) sink <;> rfl
  | scripted script calls =>
      have wrote : script.write sink =
          EStateM.adaptExcept .output
            (Sink.writeAll (utf8 (script.output.getD ""))) sink := by
        cases output : script.output with
        | none =>
            simp [Script.write, output, EStateM.adaptExcept, pure,
              EStateM.pure]
        | some text => simp [Script.write, output]
      simp only [report, text, complaint?, blame, bind, EStateM.bind, wrote,
        EStateM.adaptExcept]
      cases Sink.writeAll (utf8 (script.output.getD "")) sink with
      | error cause next => rfl
      | ok _ next =>
          by_cases fails : script.Fails (calls + 1) argument
          · simp only [if_pos fails]
            rfl
          · simp only [if_neg fails]
            rfl

/-- What a reporter does about an argument, as the one at a place of its list. -/
def plan
    {Error : Type}
    (index : Nat)
    (argument : String)
    (tell : ReporterError -> Error)
    (reporter : Reporter) : Plan Error :=
  .ask { index, reporter, argument } ::
    .write (utf8 (reporter.text argument)) (tell ∘ reporter.blame) ::
      (reporter.complaint? argument).toList.map fun complaint =>
        .fail (tell (.scripted complaint))

/-- A reporter that is asked carries out its plan. -/
theorem run_plan
    {Error : Type}
    (index : Nat)
    (argument : String)
    (tell : ReporterError -> Error)
    (reporter : Reporter)
    (sink : Sink)
    (reporters : List Reporter) :
    Plan.run (reporter.plan index argument tell) sink reporters =
      { Run.writing tell (reporter.report argument) sink
          (reporters.modify index Reporter.asked) with
        calls := [{ index, reporter, argument }] } := by
  rw [plan, Plan.run_ask, Run.writing, report_apply]
  cases wrote : Sink.writeAll (utf8 (reporter.text argument)) sink with
  | error cause next =>
      rw [Plan.run_write_of_error _ _ _ wrote]
      rfl
  | ok _ next =>
      rw [Plan.run_write_of_ok _ _ _ wrote]
      cases reporter.complaint? argument <;> rfl

end Reporter

namespace Report

/-- The plan of the notice that opens a block. -/
def noticePlan : Plan Failure :=
  [.write (utf8 noticeText) .notice, .flush .notice]

/-- The plan of a border. -/
def borderPlan : Plan Failure :=
  [.write (utf8 borderLine) .border]

/-- The plan of asking reporters, numbered from `index` on, about an
argument. -/
def consultPlan (argument : String) (index : Nat) :
    List Reporter -> Plan Failure
  | [] => []
  | reporter :: rest =>
      reporter.plan index argument (.reporter reporter.name argument) ++
        consultPlan argument (index + 1) rest

/-- The plan of the block of one argument. -/
def blockPlan
    (argument : String)
    (index : Nat)
    (reporters : List Reporter) : Plan Failure :=
  noticePlan ++ (borderPlan ++
    (consultPlan argument index reporters ++ borderPlan))

/-- The plan of the blocks of all arguments. In each block every reporter has
been asked once more. -/
def plan (index : Nat) : List String -> List Reporter -> Plan Failure
  | [], _ => []
  | argument :: rest, reporters =>
      blockPlan argument index reporters ++
        plan index rest (reporters.map Reporter.asked)

theorem run_noticePlan (sink : Sink) (reporters : List Reporter) :
    Plan.run noticePlan sink reporters = openBlock sink reporters :=
  Plan.run_notice Failure.notice noticeText sink reporters

theorem run_borderPlan (sink : Sink) (reporters : List Reporter) :
    Plan.run borderPlan sink reporters = drawBorder sink reporters := by
  rw [borderPlan, drawBorder, Plan.run_singleton]
  simp only [Task.perform, Run.writing, writeBorder_apply]

end Report

namespace Run

variable {Error Cause : Type}

/-- The same stretch, with its reporters as part of a longer list. -/
def among (before after : List Reporter) (run : Run Error) : Run Error :=
  { run with reporters := before ++ (run.reporters ++ after) }

theorem reporters_writing
    (failed : Cause -> Error)
    (action : EStateM Cause Sink Unit)
    (sink : Sink)
    (reporters : List Reporter) :
    (writing failed action sink reporters).reporters = reporters := by
  unfold writing
  split <;> rfl

theorem among_writing
    (failed : Cause -> Error)
    (action : EStateM Cause Sink Unit)
    (sink : Sink)
    (before chosen after : List Reporter) :
    (writing failed action sink chosen).among before after =
      writing failed action sink (before ++ (chosen ++ after)) := by
  unfold writing
  split <;> rfl

/-- Two stretches follow one another in a longer list as they do by
themselves. -/
theorem among_andThen
    {run : Run Error}
    {before after : List Reporter}
    {next longer : Sink -> List Reporter -> Run Error}
    (agree : run.result = .ok () ->
      longer run.sink (before ++ (run.reporters ++ after)) =
        (next run.sink run.reporters).among before after) :
    (run.among before after).andThen longer =
      (run.andThen next).among before after := by
  cases ended : run.result with
  | error failure =>
      have endedAmong : (run.among before after).result = .error failure :=
        ended
      rw [andThen_of_error ended, andThen_of_error endedAmong]
  | ok =>
      have further := agree ended
      have endedAmong : (run.among before after).result = .ok () := ended
      rw [andThen_of_ok ended, andThen_of_ok endedAmong]
      simp only [among] at further ⊢
      rw [further]

theorem result_andThen_eq_ok_iff
    {run : Run Error}
    {next : Sink -> List Reporter -> Run Error} :
    (run.andThen next).result = .ok () ↔
      run.result = .ok () ∧
        (next run.sink run.reporters).result = .ok () := by
  cases ended : run.result with
  | error failure => simp [andThen_of_error ended, ended]
  | ok => simp [andThen_of_ok ended]

theorem reporters_andThen_of_ok
    {run : Run Error}
    {next : Sink -> List Reporter -> Run Error}
    (completed : run.result = .ok ()) :
    (run.andThen next).reporters =
      (next run.sink run.reporters).reporters := by
  rw [andThen_of_ok completed]

end Run

namespace Report

/-- Counting a call reaches the reporter at its place. -/
theorem modify_append_length
    (before : List Reporter)
    (reporter : Reporter)
    (after : List Reporter) :
    (before ++ reporter :: after).modify before.length Reporter.asked =
      before ++ reporter.asked :: after := by
  induction before with
  | nil => rfl
  | cons first rest inductionHypothesis => simp [inductionHypothesis]

theorem run_consultPlan
    {index : Nat}
    {before chosen : List Reporter}
    (numbered : chosen ≠ [] -> before.length = index)
    (argument : String)
    (sink : Sink)
    (after : List Reporter) :
    Plan.run (consultPlan argument index chosen) sink
        (before ++ (chosen ++ after)) =
      (consult argument index sink chosen).among before after := by
  induction chosen generalizing index sink before with
  | nil => rfl
  | cons reporter rest inductionHypothesis =>
      have here : before.length = index := numbered (List.cons_ne_nil _ _)
      subst here
      rw [consultPlan, Plan.run_append, Reporter.run_plan, List.cons_append,
        modify_append_length, consult]
      cases told : reporter.report argument sink with
      | error cause next => simp [Run.writing, Run.andThen, Run.among, told]
      | ok _ next =>
          have nextNumbered : rest ≠ [] ->
              (before ++ [reporter.asked]).length = before.length + 1 :=
            fun _ => by simp
          have further := inductionHypothesis nextNumbered next
          rw [List.append_assoc, List.singleton_append] at further
          simp [Run.writing, Run.andThen, told, further, Run.among]

/-- Every reporter has been asked once by consultations that succeed. -/
theorem reporters_consult_of_ok
    {argument : String}
    {index : Nat}
    {sink : Sink}
    {reporters : List Reporter}
    (completed : (consult argument index sink reporters).result = .ok ()) :
    (consult argument index sink reporters).reporters =
      reporters.map Reporter.asked := by
  induction reporters generalizing index sink with
  | nil => rfl
  | cons reporter rest inductionHypothesis =>
      rw [consult] at completed ⊢
      cases told : reporter.report argument sink with
      | error cause next => simp [told] at completed
      | ok _ next =>
          simp only [told] at completed ⊢
          rw [inductionHypothesis completed, List.map_cons]

/-- A block is the notice, and then the rest of it. -/
theorem block_eq
    (argument : String)
    (index : Nat)
    (sink : Sink)
    (reporters : List Reporter) :
    block argument index sink reporters =
      (openBlock sink reporters).andThen fun sink reporters =>
        (drawBorder sink reporters).andThen fun sink reporters =>
          (consult argument index sink reporters).andThen drawBorder := by
  rw [block, Run.andThen_assoc, Run.andThen_assoc]

theorem run_blockPlan
    {index : Nat}
    {before chosen : List Reporter}
    (numbered : chosen ≠ [] -> before.length = index)
    (argument : String)
    (sink : Sink)
    (after : List Reporter) :
    Plan.run (blockPlan argument index chosen) sink
        (before ++ (chosen ++ after)) =
      (block argument index sink chosen).among before after := by
  rw [blockPlan, Plan.run_append, run_noticePlan, block_eq, openBlock,
    ← Run.among_writing]
  apply Run.among_andThen
  intro _
  rw [Run.reporters_writing, Plan.run_append, run_borderPlan, drawBorder,
    ← Run.among_writing]
  apply Run.among_andThen
  intro _
  rw [Run.reporters_writing, Plan.run_append, run_consultPlan numbered]
  apply Run.among_andThen
  intro _
  rw [run_borderPlan, drawBorder, ← Run.among_writing]

/-- Every reporter has been asked once by a block that succeeds. -/
theorem reporters_block_of_ok
    {argument : String}
    {index : Nat}
    {sink : Sink}
    {reporters : List Reporter}
    (completed : (block argument index sink reporters).result = .ok ()) :
    (block argument index sink reporters).reporters =
      reporters.map Reporter.asked := by
  rw [block_eq] at completed ⊢
  obtain ⟨opened, completed⟩ := Run.result_andThen_eq_ok_iff.1 completed
  obtain ⟨drawn, completed⟩ := Run.result_andThen_eq_ok_iff.1 completed
  obtain ⟨consulted, _⟩ := Run.result_andThen_eq_ok_iff.1 completed
  rw [Run.reporters_andThen_of_ok opened, Run.reporters_andThen_of_ok drawn,
    Run.reporters_andThen_of_ok consulted]
  simp only [openBlock, drawBorder, Run.reporters_writing] at consulted ⊢
  exact reporters_consult_of_ok consulted

/-- A report carries out its plan, whichever stretch of a list its reporters
are. They are numbered by their places there, if there are any. -/
theorem run_plan_among
    {index : Nat}
    {before chosen : List Reporter}
    (numbered : chosen ≠ [] -> before.length = index)
    (arguments : List String)
    (sink : Sink)
    (after : List Reporter) :
    Plan.run (plan index arguments chosen) sink
        (before ++ (chosen ++ after)) =
      (blocks index arguments sink chosen).among before after := by
  induction arguments generalizing sink chosen with
  | nil => rfl
  | cons argument rest inductionHypothesis =>
      have stillNumbered :
          chosen.map Reporter.asked ≠ [] -> before.length = index :=
        fun some => numbered (mt List.map_eq_nil_iff.2 some)
      rw [plan, Plan.run_append, run_blockPlan numbered, blocks_cons]
      apply Run.among_andThen
      intro completed
      rw [reporters_block_of_ok completed]
      exact inductionHypothesis stillNumbered _

/-- What a report answers and leaves in its sink is what its plan does, from
whichever place its reporters are numbered. -/
theorem blocks_eq_run_plan
    (index : Nat)
    (arguments : List String)
    (sink : Sink)
    (reporters : List Reporter) :
    ∃ others : List Reporter,
      (blocks index arguments sink reporters).result =
          (Plan.run (plan index arguments reporters) sink others).result ∧
        (blocks index arguments sink reporters).sink =
          (Plan.run (plan index arguments reporters) sink others).sink := by
  have numbered : reporters ≠ [] ->
      (List.replicate index (Reporter.standard .echo)).length = index :=
    fun _ => List.length_replicate
  have carriedOut := run_plan_among numbered arguments sink []
  exact ⟨_, by rw [carriedOut]; exact ⟨rfl, rfl⟩⟩

end Report
end ArgReport
