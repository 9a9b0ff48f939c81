import ArgReport.Proofs.Report.Ending
import ArgReport.Proofs.Report.Numbering
import ArgReport.Session

/-!
# The order of calls

A desk that reports with some of its reporters asks them in turn, and whatever
the sink and the scripts do, the calls it has made are a beginning of the turns.
The error of a report tells at which turn it ended, and so do the counts of the
reporters. The reporters that are left out are neither asked nor noticed.
-/

namespace ArgReport
namespace Desk

/-- The reporters from one place up to, but not at, another. -/
def slice (desk : Desk) (first last : Nat) : List Reporter :=
  (desk.reporters.drop first).take (last - first)

/-- The last call of a report is of the reporter whose failure is told. All went
well up to its turn. On the sink that the earlier calls and framing texts had
left, it was asked, told this error and left the sink as it is now. Those up to it
have been asked once more than those after it. -/
def LastAskedFailed
    (desk : Desk)
    (arguments : List String)
    (first last : Nat)
    (failure : Failure) : Prop :=
  let run := desk.report arguments first last
  ∃ number index argument reporter cause,
    let earlier := Report.upToTurn first arguments desk.sink
      (desk.slice first last) number (index - first) argument
    arguments[number]? = some argument ∧
      first ≤ index ∧ index < last ∧
      desk.reporters[index]? = some reporter ∧
      failure = .reporter reporter.name argument cause ∧
      failure.context =
        reporter.name ++ " failed on " ++ Quoted.quote argument ∧
      run.calls.getLast? =
        some { index, reporter := reporter.askedTimes number, argument } ∧
      earlier.result = .ok () ∧
      (reporter.askedTimes number).report argument earlier.sink =
        .error cause run.sink ∧
      run.calls.length = number * (last - first) + (index - first + 1) ∧
      ∀ other asked, first ≤ other -> other < last ->
        desk.reporters[other]? = some asked ->
          run.reporters[other]? =
            some (asked.askedTimes
              (if other ≤ index then number + 1 else number))

/-- What a report by some of the reporters has asked by the time it ends. -/
structure AsksInTurn
    (desk : Desk)
    (arguments : List String)
    (first last : Nat) : Prop where
  /-- The calls are a beginning of the turns. -/
  inTurn :
    ((desk.report arguments first last).calls.map fun call =>
      (call.argument, call.index)) <+: Report.turns arguments first last
  /-- A report that succeeds has had all turns. -/
  completed :
    (desk.report arguments first last).result = .ok () ->
      ((desk.report arguments first last).calls.map fun call =>
        (call.argument, call.index)) = Report.turns arguments first last
  /-- A report that fails at a framing text has had whole rounds, and else it
  fails with its last call. -/
  failed : ∀ error,
    (desk.report arguments first last).result = .error error ->
      ∃ failure, error = .report failure ∧
        if failure.context = "writing message" ∨
            failure.context = "writing banner" then
          last - first ∣ (desk.report arguments first last).calls.length
        else
          desk.LastAskedFailed arguments first last failure
  /-- The calls of one reporter are about the first arguments, one each, and it
  has counted them. -/
  counted : ∀ index reporter, first ≤ index -> index < last ->
    desk.reporters[index]? = some reporter ->
      ∃ count ≤ arguments.length,
        (desk.report arguments first last).calls.filter
            (fun call => call.index = index) =
          Report.callsAbout (arguments.take count) index reporter ∧
        (desk.report arguments first last).reporters[index]? =
          some (reporter.askedTimes count)
  /-- The notes of a scripted reporter are numbered on from its count. -/
  noted : ∀ index script calls, first ≤ index -> index < last ->
    desk.reporters[index]? = some (.scripted script calls) ->
      ∃ count ≤ arguments.length,
        ((desk.report arguments first last).calls.filter
            (fun call => call.index = index)).filterMap Call.note? =
          ((arguments.take count).mapIdx fun number argument =>
            script.name ++ "#" ++ toString (calls + number + 1) ++ ":" ++
              argument) ∧
        (desk.report arguments first last).reporters[index]? =
          some (.scripted script (calls + count))
  /-- The other reporters stay as they are. -/
  outside : ∀ index, index < first ∨ last ≤ index ->
    (desk.report arguments first last).reporters[index]? =
      desk.reporters[index]?
  /-- The other reporters make no difference. A desk with the same sink that has
  the same reporters among any others gives the same answer, and ends with the
  same sink and the same counts. -/
  alone : ∀ (other : Desk) (otherFirst otherLast : Nat),
    other.Serves (.report arguments otherFirst otherLast) ->
    other.sink = desk.sink ->
    other.slice otherFirst otherLast = desk.slice first last ->
      let here := desk.answer (.report arguments first last)
      let there := other.answer (.report arguments otherFirst otherLast)
      there.1.result = here.1.result ∧ there.1.out = here.1.out ∧
        there.1.flushes = here.1.flushes ∧ there.1.log = here.1.log ∧
        there.1.position = here.1.position ∧
        there.2.sink = here.2.sink ∧
        there.2.slice otherFirst otherLast = here.2.slice first last

section Report

variable
  {desk : Desk}
  {arguments : List String}
  {first last : Nat}

/-- The blocks that a report at a desk writes. -/
def blocks
    (desk : Desk)
    (arguments : List String)
    (first last : Nat) : Run Failure :=
  Report.blocks first arguments desk.sink (desk.slice first last)

theorem report_eq
    (desk : Desk)
    (arguments : List String)
    (first last : Nat) :
    desk.report arguments first last =
      { result := (desk.blocks arguments first last).result.mapError .report
        sink := (desk.blocks arguments first last).sink
        reporters := desk.reporters.take first ++
          (desk.blocks arguments first last).reporters ++
            (desk.reporters.drop first).drop (last - first)
        calls := (desk.blocks arguments first last).calls } := rfl

theorem length_slice
    (serves : desk.Serves (.report arguments first last)) :
    (desk.slice first last).length = last - first := by
  obtain ⟨ordered, bounded⟩ := serves
  rw [slice, List.length_take, List.length_drop]
  omega

theorem getElem?_slice
    {index : Nat}
    (lower : first ≤ index)
    (upper : index < last) :
    (desk.slice first last)[index - first]? = desk.reporters[index]? := by
  rw [slice, List.getElem?_take_of_lt (by omega), List.getElem?_drop]
  congr 1
  omega

/-- A report that has come so far has its own reporters advanced, and the others
as they were. -/
theorem getElem?_report
    (serves : desk.Serves (.report arguments first last))
    {number extra : Nat}
    (reached : Report.Reached first arguments (desk.slice first last)
      (desk.blocks arguments first last) number extra)
    (index : Nat) :
    (desk.report arguments first last).reporters[index]? =
      if first ≤ index ∧ index < last then
        desk.reporters[index]?.map
          (Reporter.askedTimes (Report.countAt number extra (index - first)))
      else
        desk.reporters[index]? := by
  have sliceLength := length_slice serves
  obtain ⟨ordered, bounded⟩ := serves
  have beforeLength : (desk.reporters.take first).length = first := by
    rw [List.length_take]
    omega
  have advancedLength : (Report.advance number extra
      (desk.slice first last)).length = last - first := by
    rw [Report.length_advance, sliceLength]
  rw [report_eq, reached.counted]
  split
  · rename_i inside
    rw [List.getElem?_append_left
        (by rw [List.length_append, beforeLength, advancedLength]; omega),
      List.getElem?_append_right (by rw [beforeLength]; exact inside.1),
      beforeLength, Report.getElem?_advance,
      getElem?_slice inside.1 inside.2]
  · rename_i outside
    by_cases before : index < first
    · rw [List.append_assoc,
        List.getElem?_append_left (by rw [beforeLength]; exact before),
        List.getElem?_take_of_lt before]
    · rw [List.getElem?_append_right
          (by rw [List.length_append, beforeLength, advancedLength]; omega),
        List.length_append, beforeLength, advancedLength, List.getElem?_drop,
        List.getElem?_drop]
      congr 1
      omega

/-- The reporters of a report are found again at their places. -/
theorem slice_report
    (serves : desk.Serves (.report arguments first last)) :
    ((desk.answer (.report arguments first last)).2).slice first last =
      (desk.blocks arguments first last).reporters := by
  obtain ⟨number, extra, _, _, reached⟩ := (Report.blocks_ending first
    arguments desk.sink (desk.slice first last)).exists_reached
  have beforeLength : (desk.reporters.take first).length = first := by
    rw [List.length_take]
    exact Nat.min_eq_left (Nat.le_trans serves.1 serves.2)
  have middleLength :
      (desk.blocks arguments first last).reporters.length = last - first := by
    rw [blocks, reached.counted, Report.length_advance, length_slice serves]
  have left : (desk.answer (.report arguments first last)).2.reporters =
      desk.reporters.take first ++
        ((desk.blocks arguments first last).reporters ++
          (desk.reporters.drop first).drop (last - first)) := by
    rw [← List.append_assoc]
    rfl
  rw [slice, left, List.drop_left' beforeLength, List.take_left' middleLength]

end Report

/-! ## The journal and the counts -/

section Fields

variable
  {desk : Desk}
  {arguments : List String}
  {first last : Nat}
  (serves : desk.Serves (.report arguments first last))

include serves

/-- The rounds of a whole report are its turns. -/
theorem map_rounds_slice :
    (Report.rounds first arguments (desk.slice first last)).map
        (fun call => (call.argument, call.index)) =
      Report.turns arguments first last := by
  have ordered : first ≤ last := serves.1
  rw [Report.map_rounds, length_slice serves, Nat.add_sub_cancel' ordered]

/-- The calls of one reporter, and its count. -/
theorem calls_filter_report
    {index : Nat}
    {reporter : Reporter}
    (lower : first ≤ index)
    (upper : index < last)
    (found : desk.reporters[index]? = some reporter) :
    ∃ count ≤ arguments.length,
      (desk.report arguments first last).calls.filter
          (fun call => call.index = index) =
        Report.callsAbout (arguments.take count) index reporter ∧
      (desk.report arguments first last).reporters[index]? =
        some (reporter.askedTimes count) := by
  obtain ⟨number, extra, inside, bound, reached⟩ := (Report.blocks_ending
    first arguments desk.sink (desk.slice first last)).exists_reached
  have placed : (desk.slice first last)[index - first]? = some reporter := by
    rw [getElem?_slice lower upper, found]
  have own := Report.take_rounds_filter placed inside bound first
  rw [Nat.add_sub_cancel' lower] at own
  refine ⟨Report.countAt number extra (index - first), ?_, ?_, ?_⟩
  · unfold Report.countAt
    split <;> omega
  · rw [← own, ← reached.calls]
    rfl
  · rw [getElem?_report serves reached, if_pos ⟨lower, upper⟩, found]
    rfl

/-- A report that ends with a reporter's failure has it as its last call. -/
theorem lastAskedFailed_of_blamed
    {number place : Nat}
    {argument : String}
    {reporter : Reporter}
    {cause : ReporterError}
    (asked : arguments[number]? = some argument)
    (found : (desk.slice first last)[place]? = some reporter)
    (came : (Report.upToTurn first arguments desk.sink
      (desk.slice first last) number place argument).result = .ok ())
    (told : (reporter.askedTimes number).report argument
        (Report.upToTurn first arguments desk.sink (desk.slice first last)
          number place argument).sink =
      .error cause (desk.blocks arguments first last).sink)
    (reached : Report.Reached first arguments (desk.slice first last)
      (desk.blocks arguments first last) number (place + 1)) :
    desk.LastAskedFailed arguments first last
      (.reporter reporter.name argument cause) := by
  have width := length_slice serves
  have placed : place < (desk.slice first last).length :=
    (List.getElem?_eq_some_iff.1 found).1
  have call := Report.getElem?_rounds asked found first
  have inRounds := (List.getElem?_eq_some_iff.1 call).1
  have foundAt : desk.reporters[first + place]? = some reporter := by
    have upper : first + place < last := by omega
    rw [← getElem?_slice (Nat.le_add_right first place) upper,
      Nat.add_sub_cancel_left, found]
  have samePlace : first + place - first = place := Nat.add_sub_cancel_left ..
  refine ⟨number, first + place, argument, reporter, cause, asked,
    Nat.le_add_right _ _, by omega, foundAt, rfl, rfl, ?_, ?_, ?_, ?_, ?_⟩
  · rw [report_eq, reached.calls, ← Nat.add_assoc, List.getLast?_take,
      if_neg (Nat.succ_ne_zero _), Nat.add_sub_cancel, call]
    rfl
  · rw [samePlace]
    exact came
  · rw [samePlace]
    exact told
  · rw [report_eq, reached.calls, List.length_take, width, samePlace]
    rw [width] at inRounds
    omega
  · intro other otherReporter lower upper otherFound
    have sameSide : other - first < place + 1 ↔ other ≤ first + place := by
      omega
    rw [getElem?_report serves reached, if_pos ⟨lower, upper⟩, otherFound,
      Option.map_some, Report.countAt]
    simp only [sameSide]

end Fields

/-! ## The report as a whole -/

/-- A report asks its reporters in turn for as long as it goes on. -/
theorem report_asksInTurn
    {desk : Desk}
    {arguments : List String}
    {first last : Nat}
    (serves : desk.Serves (.report arguments first last)) :
    desk.AsksInTurn arguments first last := by
  have ending := Report.blocks_ending first arguments desk.sink
    (desk.slice first last)
  have width := length_slice serves
  obtain ⟨number, extra, inside, bound, reached⟩ := ending.exists_reached
  constructor
  case inTurn =>
    rw [← map_rounds_slice serves, report_eq]
    apply List.IsPrefix.map
    rw [blocks, reached.calls]
    exact List.take_prefix _ _
  case completed =>
    intro succeeded
    rw [← map_rounds_slice serves, report_eq]
    cases ending with
    | completed ended reached =>
        rw [blocks, reached.calls, List.take_of_length_le (by simp)]
    | framed number failure inside ended =>
        rw [report_eq, blocks, ended] at succeeded
        cases succeeded
    | blamed number place argument reporter cause asked found ended =>
        rw [report_eq, blocks, ended] at succeeded
        cases succeeded
  case failed =>
    intro error failed
    rw [report_eq, blocks] at failed
    cases ending with
    | completed ended reached =>
        rw [ended] at failed
        cases failed
    | framed number failure inside ended framing reached =>
        rw [ended] at failed
        injection failed with same
        refine ⟨failure, same.symm, ?_⟩
        rw [if_pos (Failure.isFraming_iff.1 framing), report_eq, blocks,
          reached.calls, List.length_take, Report.length_rounds, width,
          Nat.add_zero, Nat.min_eq_left (Nat.mul_le_mul_right _ inside)]
        exact Nat.dvd_mul_left _ _
    | blamed number place argument reporter cause asked found ended came
        told reached =>
        rw [ended] at failed
        injection failed with same
        refine ⟨_, same.symm, ?_⟩
        rw [if_neg (mt Failure.isFraming_iff.2 id)]
        exact lastAskedFailed_of_blamed serves asked found came told reached
  case counted =>
    intro index reporter lower upper found
    exact calls_filter_report serves lower upper found
  case noted =>
    intro index script calls lower upper found
    obtain ⟨count, bounded, own, counts⟩ :=
      calls_filter_report serves lower upper found
    refine ⟨count, bounded, ?_, counts⟩
    rw [own, Report.callsAbout_filterMap_note?]
  case outside =>
    intro index outside
    rw [getElem?_report serves reached, if_neg (by omega)]
  case alone =>
    intro other otherFirst otherLast otherServes sameSink sameSlice here there
    have moved : desk.blocks arguments first last =
        (Report.blocks 0 arguments desk.sink
          (desk.slice first last)).moved first := by
      rw [blocks, ← Report.blocks_moved, Nat.zero_add]
    have otherMoved : other.blocks arguments otherFirst otherLast =
        (Report.blocks 0 arguments desk.sink
          (desk.slice first last)).moved otherFirst := by
      rw [blocks, sameSink, sameSlice, ← Report.blocks_moved, Nat.zero_add]
    have sameLog : there.1.log = here.1.log := by
      simp only [there, here, answer, perform, report_eq, Answer.log, moved,
        otherMoved, Run.moved, List.filterMap_map, Call.note?_comp_moved]
    have sameReporters : there.2.slice otherFirst otherLast =
        here.2.slice first last := by
      rw [slice_report otherServes, slice_report serves, moved, otherMoved]
      rfl
    refine ⟨?_, ?_, ?_, sameLog, ?_, ?_, sameReporters⟩ <;>
      simp only [there, here, answer, perform, report_eq, moved, otherMoved,
        Run.moved, sameSink]

/-- Two reporters of one name, of which the second fails on the second argument.
The two beside them are left out. -/
theorem report_asksInTurn_of_namesakes :
    let reporters : List Reporter :=
      [ .standard .echo,
        .scripted { name := "twin", output := some "x" } 4,
        .scripted { name := "twin", failingArgument := some "b" },
        .scripted { name := "idle" } 7 ]
    let desk : Desk := { sink := { chunk := some 7 }, reporters }
    let run := desk.report ["a", "b", "c"] 1 3
    desk.Serves (.report ["a", "b", "c"] 1 3) ∧
      desk.LastAskedFailed ["a", "b", "c"] 1 3
        (.reporter "twin" "b" (.scripted "boom")) ∧
      run.calls.filterMap Call.note? =
        ["twin#5:a", "twin#1:a", "twin#6:b", "twin#2:b"] ∧
      run.reporters[3]? = reporters[3]? := by
  intro reporters desk run
  have serves : desk.Serves (.report ["a", "b", "c"] 1 3) := by decide
  have asks := report_asksInTurn serves
  have result : run.result =
      .error (.report (.reporter "twin" "b" (.scripted "boom"))) := by
    decide +kernel
  have notes : run.calls.filterMap Call.note? =
      ["twin#5:a", "twin#1:a", "twin#6:b", "twin#2:b"] := by
    decide +kernel
  obtain ⟨failure, same, told⟩ := asks.failed _ result
  injection same with same
  subst same
  rw [if_neg (by decide)] at told
  exact ⟨serves, told, notes, asks.outside 3 (.inr (Nat.le_refl 3))⟩

end Desk
end ArgReport
