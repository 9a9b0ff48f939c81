import ArgReport.Proofs.Plan.Report
import ArgReport.Proofs.Report.Rounds

/-!
# How far a report comes

A report calls its reporters in rounds, and where it ends early the calls that
it has made are a beginning of these rounds. How it ended says how long that
beginning is. After a notice or a border it consists of whole rounds, and when a
reporter fails the last call is the one that failed.

The journal, the counts of the reporters, the error and the sink on which a
reporter failed are tied together by one invariant, `Report.Ending`. A block
satisfies it, and a block that succeeds hands it on to the blocks after it.
-/

namespace ArgReport

/-- The report failed at one of the texts that frame the words of its
reporters. -/
def Failure.IsFraming : Failure -> Prop
  | .notice _ => True
  | .border _ => True
  | .reporter _ _ _ => False

/-- The two contexts of framing texts are not the context of any reporter. -/
theorem Failure.isFraming_iff {failure : Failure} :
    failure.IsFraming ↔
      failure.context = "writing message" ∨
        failure.context = "writing banner" := by
  cases failure with
  | notice cause => simp [IsFraming, context]
  | border cause => simp [IsFraming, context]
  | reporter name argument cause =>
      have quoted : (context (.reporter name argument cause)).toList.getLast? =
          some '\"' := by
        simp [context, Quoted.toList_quote, List.getLast?_append,
          List.getLast?_cons]
      have message : "writing message".toList.getLast? = some 'e' := by decide
      have banner : "writing banner".toList.getLast? = some 'r' := by decide
      constructor
      · exact False.elim
      · rintro (same | same)
        · rw [same, message] at quoted
          cases quoted
        · rw [same, banner] at quoted
          cases quoted

/-- Writing asks nobody. -/
theorem Run.writing_cases
    {Error Cause : Type}
    (failed : Cause -> Error)
    (action : EStateM Cause Sink Unit)
    (sink : Sink)
    (reporters : List Reporter) :
    (∃ next, writing failed action sink reporters = idle next reporters) ∨
      ∃ cause next, writing failed action sink reporters =
        { result := .error (failed cause), sink := next, reporters
          calls := [] } := by
  unfold writing
  split
  · exact .inl ⟨_, rfl⟩
  · exact .inr ⟨_, _, rfl⟩

namespace Report

/-! ## How far a report came -/

/-- Reporters that have been asked about a number of arguments, and the first
few of them about one more. -/
def advance
    (number extra : Nat)
    (reporters : List Reporter) : List Reporter :=
  reporters.mapIdx fun place reporter =>
    reporter.askedTimes (countAt number extra place)

@[simp] theorem advance_nil (number extra : Nat) :
    advance number extra [] = [] := rfl

@[simp] theorem length_advance
    (number extra : Nat)
    (reporters : List Reporter) :
    (advance number extra reporters).length = reporters.length :=
  List.length_mapIdx

@[simp] theorem getElem?_advance
    (number extra : Nat)
    (reporters : List Reporter)
    (place : Nat) :
    (advance number extra reporters)[place]? =
      reporters[place]?.map
        (Reporter.askedTimes (countAt number extra place)) :=
  List.getElem?_mapIdx

@[simp] theorem advance_zero_zero (reporters : List Reporter) :
    advance 0 0 reporters = reporters := by
  apply List.ext_getElem?
  intro place
  simp

@[simp] theorem advance_one_zero (reporters : List Reporter) :
    advance 1 0 reporters = reporters.map Reporter.asked := by
  apply List.ext_getElem?
  intro place
  simp [Reporter.askedTimes_one]

@[simp] theorem advance_map_asked
    (number extra : Nat)
    (reporters : List Reporter) :
    advance number extra (reporters.map Reporter.asked) =
      advance (number + 1) extra reporters := by
  apply List.ext_getElem?
  intro place
  simp [countAt_succ, Function.comp_def, Reporter.askedTimes_asked]

theorem advance_zero_succ_cons
    (extra : Nat)
    (reporter : Reporter)
    (rest : List Reporter) :
    advance 0 (extra + 1) (reporter :: rest) =
      reporter.asked :: advance 0 extra rest := by
  have counted (place : Nat) :
      countAt 0 (extra + 1) (place + 1) = countAt 0 extra place := by
    simp only [countAt, Nat.add_lt_add_iff_right]
  rw [advance, List.mapIdx_cons, advance]
  simp only [counted]
  rw [countAt, if_pos (Nat.succ_pos extra), Nat.zero_add,
    Reporter.askedTimes_one]

/-- A report up to the turn of a reporter: the blocks of the arguments before,
the notice and the border of its own block, and the reporters that are asked
before it. -/
def upToTurn
    (index : Nat)
    (arguments : List String)
    (sink : Sink)
    (reporters : List Reporter)
    (number place : Nat)
    (argument : String) : Run Failure :=
  (((blocks index (arguments.take number) sink reporters).andThen
    openBlock).andThen drawBorder).andThen
      fun sink reporters => consult argument index sink (reporters.take place)

/-- In the first block the turn comes after the notice, the border and the
reporters before. -/
theorem upToTurn_zero
    (index : Nat)
    (arguments : List String)
    (sink : Sink)
    (reporters : List Reporter)
    (place : Nat)
    (argument : String) :
    upToTurn index arguments sink reporters 0 place argument =
      ((openBlock sink reporters).andThen drawBorder).andThen
        fun sink reporters =>
          consult argument index sink (reporters.take place) := by
  rw [upToTurn, List.take_zero, blocks_nil, Run.idle_andThen]

/-- A turn in a later block is one in the report that goes on after the first
block. -/
theorem upToTurn_succ_cons
    (index : Nat)
    (first : String)
    (rest : List String)
    (sink : Sink)
    (reporters : List Reporter)
    (number place : Nat)
    (argument : String) :
    upToTurn index (first :: rest) sink reporters (number + 1) place argument =
      (block first index sink reporters).andThen fun sink reporters =>
        upToTurn index rest sink reporters number place argument := by
  simp only [upToTurn, List.take_succ_cons, blocks_cons, Run.andThen_assoc]

/-- A stretch has asked about a number of arguments to the end, and the first
few reporters about the next one. -/
structure Reached
    (index : Nat)
    (arguments : List String)
    (reporters : List Reporter)
    (run : Run Failure)
    (number extra : Nat) : Prop where
  calls : run.calls = (rounds index arguments reporters).take
    (number * reporters.length + extra)
  counted : run.reporters = advance number extra reporters

/-- How a report ends, and how far it has come by then. -/
inductive Ending
    (index : Nat)
    (arguments : List String)
    (sink : Sink)
    (reporters : List Reporter)
    (run : Run Failure) : Prop
  /-- Every reporter has been asked about every argument. -/
  | completed
      (ended : run.result = .ok ())
      (reached : Reached index arguments reporters run arguments.length 0)
  /-- A notice or a border failed between two rounds. -/
  | framed
      (number : Nat)
      (failure : Failure)
      (inside : number ≤ arguments.length)
      (ended : run.result = .error failure)
      (framing : failure.IsFraming)
      (reached : Reached index arguments reporters run number 0)
  /-- All went well up to the turn of a reporter. The reporter failed, and
  nothing has been done since. -/
  | blamed
      (number place : Nat)
      (argument : String)
      (reporter : Reporter)
      (cause : ReporterError)
      (asked : arguments[number]? = some argument)
      (found : reporters[place]? = some reporter)
      (ended : run.result = .error (.reporter reporter.name argument cause))
      (came : (upToTurn index arguments sink reporters number place
        argument).result = .ok ())
      (told : (reporter.askedTimes number).report argument
          (upToTurn index arguments sink reporters number place
            argument).sink =
        .error cause run.sink)
      (reached : Reached index arguments reporters run number (place + 1))

/-! ## One block -/

/-- Either every reporter is asked and none fails, or the last one that is asked
fails. -/
theorem consult_ending
    (argument : String)
    (index : Nat)
    (sink : Sink)
    (reporters : List Reporter) :
    let run := consult argument index sink reporters
    (run.result = .ok () ∧ run.calls = round argument index reporters ∧
      run.reporters = reporters.map Reporter.asked) ∨
      ∃ place reporter cause,
        let before := consult argument index sink (reporters.take place)
        reporters[place]? = some reporter ∧
          run.result = .error (.reporter reporter.name argument cause) ∧
          before.result = .ok () ∧
          reporter.report argument before.sink = .error cause run.sink ∧
          run.calls = (round argument index reporters).take (place + 1) ∧
          run.reporters = advance 0 (place + 1) reporters := by
  induction reporters generalizing index sink with
  | nil => exact .inl ⟨rfl, rfl, rfl⟩
  | cons reporter rest inductionHypothesis =>
      intro run
      cases told : reporter.report argument sink with
      | error cause next =>
          have failed : run =
              { result := .error (.reporter reporter.name argument cause)
                sink := next
                reporters := reporter.asked :: rest
                calls := [{ index, reporter, argument }] } := by
            simp only [run, consult, told]
          refine .inr ⟨0, reporter, cause, rfl, ?_, rfl, ?_, ?_, ?_⟩
          · rw [failed]
          · rw [failed]
            exact told
          · rw [failed, round_cons, List.take_succ_cons, List.take_zero]
          · rw [failed, advance_zero_succ_cons, advance_zero_zero]
      | ok _ next =>
          have went : run =
              { consult argument (index + 1) next rest with
                reporters := reporter.asked ::
                  (consult argument (index + 1) next rest).reporters
                calls := { index, reporter, argument } ::
                  (consult argument (index + 1) next rest).calls } := by
            simp only [run, consult, told]
          rw [went, round_cons]
          rcases inductionHypothesis (index + 1) next with
            ⟨ended, calls, counted⟩ |
              ⟨place, failing, cause, found, ended, came, refused, calls,
                counted⟩
          · exact .inl ⟨ended, congrArg _ calls, congrArg _ counted⟩
          · refine .inr ⟨place + 1, failing, cause, found, ended, ?_, ?_,
              congrArg _ calls, ?_⟩
            · simp only [List.take_succ_cons, consult, told, came]
            · simp only [List.take_succ_cons, consult, told, refused]
            · rw [advance_zero_succ_cons]
              exact congrArg _ counted

/-- Every block ends in one of the three ways. -/
theorem block_ending
    (argument : String)
    (index : Nat)
    (sink : Sink)
    (reporters : List Reporter) :
    Ending index [argument] sink reporters
      (block argument index sink reporters) := by
  have round_eq : rounds index [argument] reporters =
      round argument index reporters := by
    rw [rounds_cons, rounds_nil, List.append_nil]
  have reached {run : Run Failure}
      (calls : run.calls = round argument index reporters)
      (counted : run.reporters = reporters.map Reporter.asked) :
      Reached index [argument] reporters run 1 0 := by
    constructor
    · rw [round_eq, calls, List.take_of_length_le (by simp)]
    · rw [counted, advance_one_zero]
  rw [block_eq, openBlock]
  rcases Run.writing_cases Failure.notice (writeNotice noticeText) sink
      reporters with ⟨opened, wrote⟩ | ⟨cause, opened, wrote⟩
  · rw [wrote, Run.idle_andThen, drawBorder]
    rcases Run.writing_cases Failure.border writeBorder opened reporters with
      ⟨framed, drew⟩ | ⟨cause, framed, drew⟩
    · rw [drew, Run.idle_andThen]
      rcases consult_ending argument index framed reporters with
        ⟨ended, calls, counted⟩ |
          ⟨place, reporter, cause, found, ended, came, told, calls, counted⟩
      · rw [Run.andThen_of_ok ended]
        rcases Run.writing_cases Failure.border writeBorder
            (consult argument index framed reporters).sink
            (consult argument index framed reporters).reporters with
          ⟨closed, drew⟩ | ⟨cause, closed, drew⟩
        · rw [drew]
          exact .completed rfl (reached (by simp [calls, Run.idle]) counted)
        · rw [drew]
          exact .framed 1 (.border cause) (Nat.le_refl _) rfl trivial
            (reached (by simp [calls]) counted)
      · have turn : upToTurn index [argument] sink reporters 0 place argument =
            consult argument index framed (reporters.take place) := by
          rw [upToTurn_zero, openBlock, wrote, Run.idle_andThen, drawBorder,
            drew, Run.idle_andThen]
        rw [Run.andThen_of_error ended]
        refine .blamed 0 place argument reporter cause rfl found ended ?_ ?_
          ⟨?_, counted⟩
        · rw [turn]
          exact came
        · rw [turn, Reporter.askedTimes_zero]
          exact told
        · rw [round_eq, Nat.zero_mul, Nat.zero_add]
          exact calls
    · rw [drew, Run.andThen_of_error rfl]
      exact .framed 0 (.border cause) (Nat.zero_le _) rfl trivial
        ⟨by simp, by simp⟩
  · rw [wrote, Run.andThen_of_error rfl]
    exact .framed 0 (.notice cause) (Nat.zero_le _) rfl trivial
      ⟨by simp, by simp⟩

/-! ## All blocks -/

/-- A report that fails in its first block ends as the block does. -/
theorem Ending.of_block_error
    {index : Nat}
    {argument : String}
    {sink : Sink}
    {reporters : List Reporter}
    {run : Run Failure}
    {failure : Failure}
    (ending : Ending index [argument] sink reporters run)
    (failed : run.result = .error failure)
    (rest : List String) :
    Ending index (argument :: rest) sink reporters run := by
  have longer {number extra : Nat}
      (within : number * reporters.length + extra ≤ reporters.length)
      (reached : Reached index [argument] reporters run number extra) :
      Reached index (argument :: rest) reporters run number extra := by
    refine ⟨?_, reached.counted⟩
    rw [reached.calls, rounds_cons, rounds_cons,
      List.take_append_of_le_length (by simpa using within),
      List.take_append_of_le_length (by simpa using within)]
  cases ending with
  | completed ended reached =>
      rw [ended] at failed
      cases failed
  | framed number other inside ended framing reached =>
      have atMostOne : number ≤ 1 := inside
      have within : number * reporters.length + 0 ≤ reporters.length := by
        have bound := Nat.mul_le_mul_right reporters.length atMostOne
        rwa [Nat.one_mul] at bound
      exact .framed number other (Nat.le_trans atMostOne (by simp)) ended
        framing (longer within reached)
  | blamed number place other reporter cause asked found ended came told
      reached =>
      cases number with
      | succ number => cases asked
      | zero =>
          have placed : place < reporters.length :=
            (List.getElem?_eq_some_iff.1 found).1
          -- No block comes before the turn, so the way up to it is the same.
          exact .blamed 0 place other reporter cause asked found ended came
            told (longer (by omega) reached)

/-- A block that succeeds comes before the calls of the others. -/
theorem Ending.cons
    {index : Nat}
    {argument : String}
    {rest : List String}
    {sink : Sink}
    {reporters : List Reporter}
    {further : Run Failure}
    (ended : (block argument index sink reporters).result = .ok ())
    (ending : Ending index rest (block argument index sink reporters).sink
      (reporters.map Reporter.asked) further) :
    Ending index (argument :: rest) sink reporters
      { further with
        calls := round argument index reporters ++ further.calls } := by
  have longer {number extra : Nat}
      (reached : Reached index rest (reporters.map Reporter.asked) further
        number extra) :
      Reached index (argument :: rest) reporters
        { further with
          calls := round argument index reporters ++ further.calls }
        (number + 1) extra := by
    constructor
    · have split : (number + 1) * reporters.length + extra =
          (round argument index reporters).length +
            (number * reporters.length + extra) := by
        rw [length_round, Nat.succ_mul]
        omega
      rw [split, rounds_cons, List.take_length_add_append]
      simp only [reached.calls, List.length_map]
    · simp only [reached.counted, advance_map_asked]
  cases ending with
  | completed ended reached => exact .completed ended (longer reached)
  | framed number failure inside ended framing reached =>
      exact .framed (number + 1) failure (Nat.succ_le_succ inside) ended
        framing (longer reached)
  | blamed number place other reporter cause asked found failed came told
      reached =>
      rw [List.getElem?_map, Option.map_eq_some_iff] at found
      obtain ⟨former, found, rfl⟩ := found
      have sameName : former.asked.name = former.name := by
        rw [← Reporter.askedTimes_one, Reporter.name_askedTimes]
      rw [Reporter.askedTimes_asked] at told
      rw [sameName] at failed
      refine .blamed (number + 1) place other former cause asked found failed
        ?_ ?_ (longer reached)
      all_goals
        rw [upToTurn_succ_cons, Run.andThen_of_ok ended,
          reporters_block_of_ok ended]
      · exact came
      · exact told

/-- Every report ends in one of the three ways. -/
theorem blocks_ending
    (index : Nat)
    (arguments : List String)
    (sink : Sink)
    (reporters : List Reporter) :
    Ending index arguments sink reporters
      (blocks index arguments sink reporters) := by
  induction arguments generalizing sink reporters with
  | nil => exact .completed rfl ⟨by simp [Run.idle], by simp [Run.idle]⟩
  | cons argument rest inductionHypothesis =>
      have first := block_ending argument index sink reporters
      rw [blocks_cons]
      cases ended : (block argument index sink reporters).result with
      | error failure =>
          rw [Run.andThen_of_error ended]
          exact first.of_block_error ended rest
      | ok =>
          have calls : (block argument index sink reporters).calls =
              round argument index reporters := by
            cases first with
            | completed _ reached =>
                rw [reached.calls, rounds_cons, rounds_nil, List.append_nil,
                  List.take_of_length_le (by simp)]
            | framed _ _ _ failed => cases ended.symm.trans failed
            | blamed _ _ _ _ _ _ _ failed => cases ended.symm.trans failed
          have further := inductionHypothesis
            (block argument index sink reporters).sink
            (reporters.map Reporter.asked)
          rw [Run.andThen_of_ok ended, calls, reporters_block_of_ok ended]
          exact further.cons ended

/-- However a report ends, it has come some way through its rounds. -/
theorem Ending.exists_reached
    {index : Nat}
    {arguments : List String}
    {sink : Sink}
    {reporters : List Reporter}
    {run : Run Failure}
    (ending : Ending index arguments sink reporters run) :
    ∃ number extra,
      (number < arguments.length ∨ number = arguments.length ∧ extra = 0) ∧
        extra ≤ reporters.length ∧
        Reached index arguments reporters run number extra := by
  cases ending with
  | completed ended reached =>
      exact ⟨_, 0, .inr ⟨rfl, rfl⟩, Nat.zero_le _, reached⟩
  | framed number failure inside ended framing reached =>
      exact ⟨number, 0, by omega, Nat.zero_le _, reached⟩
  | blamed number place argument reporter cause asked found ended came told
      reached =>
      exact ⟨number, place + 1, .inl (List.getElem?_eq_some_iff.1 asked).1,
        (List.getElem?_eq_some_iff.1 found).1, reached⟩

end Report
end ArgReport
