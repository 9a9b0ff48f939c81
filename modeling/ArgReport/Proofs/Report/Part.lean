import ArgReport.Proofs.Report.Defaults

/-!
# The part at which a report fails

A report by the default reporters consists of parts: for each argument a notice,
a border, the lines of the three reporters, and a border again. The report writes
them in turn. When it fails, those before some part have been written, that part
has not, and what the sink said then is the cause that the failure keeps.

Parts written in turn and stretches of a report are put together alike, so how
they end is proved part by part (`Part.Ends`).
-/

namespace ArgReport

/-- A part of a report by the default reporters. -/
inductive Part
  /-- The notice that opens a block. -/
  | notice
  /-- A border of a block. -/
  | border
  /-- What a reporter says about an argument. -/
  | line (builtin : Builtin) (argument : String)
  deriving DecidableEq, Repr

namespace Part

/-- Write the part. -/
def write : Part -> EStateM SinkError Sink Unit
  | .notice => writeNotice noticeText
  | .border => writeBorder
  | .line builtin argument => builtin.write argument

/-- How a report tells that the part could not be written. -/
def failure : Part -> SinkError -> Failure
  | .notice, cause => .notice cause
  | .border, cause => .border cause
  | .line builtin argument, cause =>
      .reporter builtin.label argument (.line builtin cause)

/-- The parts of the block of an argument, in order. -/
def ofBlock (argument : String) : List Part :=
  [ .notice,
    .border,
    .line .echo argument,
    .line .measure argument,
    .line .encode argument,
    .border ]

/-- The parts of a report on some arguments, in order. -/
def ofReport (arguments : List String) : List Part :=
  arguments.flatMap ofBlock

/-- Write parts one after another, up to the first that fails. -/
def writeInTurn : List Part -> EStateM SinkError Sink Unit
  | [] => pure ()
  | part :: rest => do
      part.write
      writeInTurn rest

theorem writeInTurn_append_of_ok
    {first : List Part}
    {sink next : Sink}
    (wrote : writeInTurn first sink = .ok () next)
    (second : List Part) :
    writeInTurn (first ++ second) sink = writeInTurn second next := by
  induction first generalizing sink with
  | nil =>
      injection wrote with _ same
      rw [List.nil_append, same]
  | cons part rest inductionHypothesis =>
      simp only [writeInTurn, bind, EStateM.bind] at wrote
      simp only [List.cons_append, writeInTurn, bind, EStateM.bind]
      cases written : part.write sink with
      | error cause after =>
          rw [written] at wrote
          cases wrote
      | ok _ further =>
          rw [written] at wrote
          exact inductionHypothesis wrote

end Part

/-- The failure is that of a part of a report on these arguments, whose parts
have been written in turn from the first sink on. Those before the part were
written. The part itself was not, for this cause, and that left the last sink. -/
structure Failure.IsOf
    (failure : Failure)
    (arguments : List String)
    (part : Part)
    (cause : SinkError)
    (sink after : Sink) : Prop where
  /-- It tells the part and the cause. -/
  told : failure = part.failure cause
  /-- The part is the first that could not be written. -/
  reached : ∃ earlier later before,
    Part.ofReport arguments = earlier ++ part :: later ∧
      Part.writeInTurn earlier sink = .ok () before ∧
      part.write before = .error cause after

namespace Part

/-! ## How parts end -/

/-- How a stretch of a report ends in which these parts are written in turn. -/
inductive Ends
    (parts : List Part)
    (sink : Sink)
    (result : Except Failure Unit)
    (after : Sink) : Prop
  /-- All parts are written. -/
  | completed
      (written : writeInTurn parts sink = .ok () after)
      (ended : result = .ok ())
  /-- One part is not, after those before it. -/
  | failed
      (earlier : List Part)
      (part : Part)
      (later : List Part)
      (cause : SinkError)
      (before : Sink)
      (split : parts = earlier ++ part :: later)
      (written : writeInTurn earlier sink = .ok () before)
      (refused : part.write before = .error cause after)
      (ended : result = .error (part.failure cause))

namespace Ends

theorem append_of_ok
    {parts more : List Part}
    {sink next after : Sink}
    {result : Except Failure Unit}
    (wrote : writeInTurn parts sink = .ok () next)
    (further : Ends more next result after) :
    Ends (parts ++ more) sink result after := by
  cases further with
  | completed written ended =>
      refine .completed ?_ ended
      rw [writeInTurn_append_of_ok wrote, written]
  | failed earlier part later cause before split written refused ended =>
      refine .failed (parts ++ earlier) part later cause before ?_ ?_ refused
        ended
      · rw [split, List.append_assoc]
      · rw [writeInTurn_append_of_ok wrote, written]

/-- A stretch goes on with more parts if its own have been written. -/
theorem andThen
    {parts more : List Part}
    {sink : Sink}
    {run : Run Failure}
    {next : Sink -> List Reporter -> Run Failure}
    (first : Ends parts sink run.result run.sink)
    (second : run.result = .ok () ->
      Ends more run.sink (next run.sink run.reporters).result
        (next run.sink run.reporters).sink) :
    Ends (parts ++ more) sink (run.andThen next).result
      (run.andThen next).sink := by
  cases first with
  | completed written ended =>
      rw [Run.andThen_of_ok ended]
      exact (second ended).append_of_ok written
  | failed earlier part later cause before split written refused ended =>
      rw [Run.andThen_of_error ended]
      refine .failed earlier part (later ++ more) cause before ?_ written
        refused ended
      rw [split, List.append_assoc, List.cons_append]

/-- A single part. -/
theorem writing
    (part : Part)
    (sink : Sink)
    (reporters : List Reporter) :
    let run := Run.writing part.failure part.write sink reporters
    Ends [part] sink run.result run.sink := by
  intro run
  cases wrote : part.write sink with
  | ok _ next =>
      refine .completed ?_ ?_
      · simp only [writeInTurn, bind, EStateM.bind, wrote, run, Run.writing]
        rfl
      · simp only [run, Run.writing, wrote]
  | error cause after =>
      refine .failed [] part [] cause sink rfl rfl ?_ ?_
      · simp only [run, Run.writing, wrote]
      · simp only [run, Run.writing, wrote]

end Ends
end Part

namespace Report

/-! ## The parts of a report -/

theorem ends_openBlock (sink : Sink) (reporters : List Reporter) :
    Part.Ends [.notice] sink (openBlock sink reporters).result
      (openBlock sink reporters).sink :=
  .writing .notice sink reporters

theorem ends_drawBorder (sink : Sink) (reporters : List Reporter) :
    Part.Ends [.border] sink (drawBorder sink reporters).result
      (drawBorder sink reporters).sink :=
  .writing .border sink reporters

/-- Built-in reporters fail because of the sink, and their lines are the parts
that it takes or does not take. -/
theorem ends_consult
    (argument : String)
    (index : Nat)
    (sink : Sink)
    (builtins : List Builtin) :
    let run := consult argument index sink (builtins.map .standard)
    Part.Ends (builtins.map (.line · argument)) sink run.result run.sink := by
  induction builtins generalizing index sink with
  | nil => exact .completed rfl rfl
  | cons builtin rest inductionHypothesis =>
      intro run
      cases wrote : builtin.write argument sink with
      | error cause after =>
          have told : (Reporter.standard builtin).report argument sink =
              .error (.line builtin cause) after := by
            simp only [Reporter.report, EStateM.adaptExcept, wrote]
          simp only [run, List.map_cons, consult, told]
          exact .failed [] (.line builtin argument) _ cause sink rfl rfl wrote
            rfl
      | ok _ next =>
          have told : (Reporter.standard builtin).report argument sink =
              .ok () next := by
            simp only [Reporter.report, EStateM.adaptExcept, wrote]
          have first : Part.writeInTurn [.line builtin argument] sink =
              .ok () next := by
            simp only [Part.writeInTurn, Part.write, bind, EStateM.bind, wrote]
            rfl
          simp only [run, List.map_cons, consult, told]
          exact (inductionHypothesis (index + 1) next).append_of_ok first

theorem ends_block_defaults (argument : String) (index : Nat) (sink : Sink) :
    let run := block argument index sink Reporter.defaults
    Part.Ends (Part.ofBlock argument) sink run.result run.sink := by
  intro run
  have parts : Part.ofBlock argument =
      [.notice] ++ ([.border] ++
        (Builtin.all.map (.line · argument) ++ [.border])) := rfl
  simp only [run, parts, block_eq]
  refine (ends_openBlock sink _).andThen fun _ => ?_
  refine (ends_drawBorder _ _).andThen fun _ => ?_
  refine Part.Ends.andThen ?_ fun _ => ends_drawBorder _ _
  simp only [openBlock, drawBorder, Run.reporters_writing]
  exact ends_consult argument index _ Builtin.all

/-- A report by the default reporters writes its parts in turn. -/
theorem ends_blocks_defaults
    (index : Nat)
    (arguments : List String)
    (sink : Sink) :
    let run := blocks index arguments sink Reporter.defaults
    Part.Ends (Part.ofReport arguments) sink run.result run.sink := by
  induction arguments generalizing sink with
  | nil => exact .completed rfl rfl
  | cons argument rest inductionHypothesis =>
      intro run
      simp only [run, blocks_cons, Part.ofReport, List.flatMap_cons]
      refine (ends_block_defaults argument index sink).andThen
        fun completed => ?_
      rw [reporters_block_of_ok completed, Reporter.map_asked_defaults]
      exact inductionHypothesis _

/-- A report by the default reporters that fails has failed at one of its
parts. -/
theorem exists_isOf_of_blocks_defaults
    {index : Nat}
    {arguments : List String}
    {sink : Sink}
    {failure : Failure}
    (failed : (blocks index arguments sink Reporter.defaults).result =
      .error failure) :
    ∃ part cause, failure.IsOf arguments part cause sink
      (blocks index arguments sink Reporter.defaults).sink := by
  cases ends_blocks_defaults index arguments sink with
  | completed _ ended =>
      rw [ended] at failed
      cases failed
  | failed earlier part later cause before split written refused ended =>
      rw [ended] at failed
      injection failed with same
      exact ⟨part, cause, same.symm,
        earlier, later, before, split, written, refused⟩

end Report
end ArgReport
