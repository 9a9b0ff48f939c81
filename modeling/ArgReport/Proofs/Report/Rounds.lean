import ArgReport.Report.Basic
import Mathlib.Tactic.Common

/-!
# Rounds of calls

A report that nothing stops asks every reporter about the first argument, then
every reporter about the second, and so on. The calls about one argument are a
round, and this module writes down the rounds of a whole report, with each
reporter as it is when its turn comes.

A report that is stopped has made a beginning of these calls. `take_rounds_filter`
picks the calls of one reporter out of a beginning: they are about the first
arguments in order, one each, and their counts go up by one.
-/

namespace ArgReport

namespace Reporter

/-- The reporter after it has been asked a number of times more. -/
def askedTimes (count : Nat) : Reporter -> Reporter
  | .standard builtin => .standard builtin
  | .scripted script calls => .scripted script (calls + count)

@[simp] theorem askedTimes_zero (reporter : Reporter) :
    reporter.askedTimes 0 = reporter := by
  cases reporter <;> rfl

@[simp] theorem askedTimes_zero_eq_id : askedTimes 0 = id := by
  funext reporter
  exact reporter.askedTimes_zero

theorem askedTimes_one : askedTimes 1 = asked := by
  funext reporter
  cases reporter <;> rfl

theorem askedTimes_asked (count : Nat) (reporter : Reporter) :
    reporter.asked.askedTimes count = reporter.askedTimes (count + 1) := by
  cases reporter with
  | standard builtin => rfl
  | scripted script calls =>
      rw [asked, askedTimes, askedTimes, Nat.add_assoc, Nat.add_comm 1]

@[simp] theorem name_askedTimes (count : Nat) (reporter : Reporter) :
    (reporter.askedTimes count).name = reporter.name := by
  cases reporter <;> rfl

end Reporter

namespace Report

/-- The calls about one argument, one for each reporter in order. -/
def round
    (argument : String)
    (index : Nat)
    (reporters : List Reporter) : List Call :=
  reporters.mapIdx fun place reporter =>
    { index := index + place, reporter, argument }

@[simp] theorem round_nil (argument : String) (index : Nat) :
    round argument index [] = [] := rfl

@[simp] theorem round_cons
    (argument : String)
    (index : Nat)
    (reporter : Reporter)
    (rest : List Reporter) :
    round argument index (reporter :: rest) =
      { index, reporter, argument } :: round argument (index + 1) rest := by
  rw [round, round, List.mapIdx_cons]
  congr 2
  funext place reporter
  rw [Nat.add_assoc, Nat.add_comm 1]

@[simp] theorem length_round
    (argument : String)
    (index : Nat)
    (reporters : List Reporter) :
    (round argument index reporters).length = reporters.length :=
  List.length_mapIdx

/-- The calls of a whole report that nothing stops. -/
def rounds (index : Nat) : List String -> List Reporter -> List Call
  | [], _ => []
  | argument :: rest, reporters =>
      round argument index reporters ++
        rounds index rest (reporters.map Reporter.asked)

@[simp] theorem rounds_nil (index : Nat) (reporters : List Reporter) :
    rounds index [] reporters = [] := rfl

@[simp] theorem rounds_cons
    (index : Nat)
    (argument : String)
    (rest : List String)
    (reporters : List Reporter) :
    rounds index (argument :: rest) reporters =
      round argument index reporters ++
        rounds index rest (reporters.map Reporter.asked) := rfl

@[simp] theorem length_rounds
    (index : Nat)
    (arguments : List String)
    (reporters : List Reporter) :
    (rounds index arguments reporters).length =
      arguments.length * reporters.length := by
  induction arguments generalizing reporters with
  | nil => simp
  | cons argument rest inductionHypothesis =>
      rw [rounds_cons, List.length_append, inductionHypothesis, length_round,
        List.length_map, List.length_cons, Nat.succ_mul, Nat.add_comm]

/-- Which call is the one of a reporter about an argument. -/
theorem getElem?_rounds
    {arguments : List String}
    {reporters : List Reporter}
    {number place : Nat}
    {argument : String}
    {reporter : Reporter}
    (asked : arguments[number]? = some argument)
    (found : reporters[place]? = some reporter)
    (index : Nat) :
    (rounds index arguments reporters)[number * reporters.length + place]? =
      some
        { index := index + place
          reporter := reporter.askedTimes number
          argument } := by
  induction arguments generalizing reporters number reporter with
  | nil => cases asked
  | cons first rest inductionHypothesis =>
      have placed : place < reporters.length :=
        (List.getElem?_eq_some_iff.1 found).1
      cases number with
      | zero =>
          injection asked with same
          rw [Nat.zero_mul, Nat.zero_add, rounds_cons,
            List.getElem?_append_left (by rw [length_round]; exact placed),
            round, List.getElem?_mapIdx, found, same,
            Reporter.askedTimes_zero]
          rfl
      | succ number =>
          have nextFound : (reporters.map Reporter.asked)[place]? =
              some reporter.asked := by
            rw [List.getElem?_map, found]
            rfl
          have further := inductionHypothesis asked nextFound
          have split : (number + 1) * reporters.length + place =
              (round first index reporters).length +
                (number * reporters.length + place) := by
            rw [length_round, Nat.succ_mul]
            omega
          rw [List.length_map, Reporter.askedTimes_asked] at further
          rw [split, rounds_cons, List.getElem?_append_right (by omega),
            Nat.add_sub_cancel_left, further]

/-! ## The order of calls -/

/-- What is asked of whom: every argument in order, and about each of them every
place from `first` up to, but not at, `last`. -/
def turns (arguments : List String) (first last : Nat) : List (String × Nat) :=
  arguments.flatMap fun argument =>
    (List.range' first (last - first)).map fun index => (argument, index)

theorem map_round
    (argument : String)
    (index : Nat)
    (reporters : List Reporter) :
    (round argument index reporters).map
        (fun call => (call.argument, call.index)) =
      (List.range' index reporters.length).map fun place =>
        (argument, place) := by
  induction reporters generalizing index with
  | nil => rfl
  | cons reporter rest inductionHypothesis =>
      rw [round_cons, List.map_cons, inductionHypothesis, List.length_cons,
        List.range'_succ, List.map_cons]

/-- The rounds of a report go through its arguments, and in each of them through
its reporters. -/
theorem map_rounds
    (index : Nat)
    (arguments : List String)
    (reporters : List Reporter) :
    (rounds index arguments reporters).map
        (fun call => (call.argument, call.index)) =
      turns arguments index (index + reporters.length) := by
  induction arguments generalizing reporters with
  | nil => rfl
  | cons argument rest inductionHypothesis =>
      rw [rounds_cons, List.map_append, map_round, inductionHypothesis,
        List.length_map, turns, turns, List.flatMap_cons,
        Nat.add_sub_cancel_left]

/-! ## The calls of one reporter -/

/-- The calls of one reporter about arguments in order, counted up. -/
def callsAbout
    (arguments : List String)
    (index : Nat)
    (reporter : Reporter) : List Call :=
  arguments.mapIdx fun number argument =>
    { index, reporter := reporter.askedTimes number, argument }

@[simp] theorem callsAbout_nil (index : Nat) (reporter : Reporter) :
    callsAbout [] index reporter = [] := rfl

@[simp] theorem callsAbout_cons
    (argument : String)
    (rest : List String)
    (index : Nat)
    (reporter : Reporter) :
    callsAbout (argument :: rest) index reporter =
      { index, reporter, argument } ::
        callsAbout rest index reporter.asked := by
  rw [callsAbout, callsAbout, List.mapIdx_cons, Reporter.askedTimes_zero]
  congr 2
  funext number other
  rw [Reporter.askedTimes_asked]

/-- The notes of a scripted reporter are numbered from its count on. -/
theorem callsAbout_filterMap_note?
    (arguments : List String)
    (index : Nat)
    (script : Script)
    (calls : Nat) :
    (callsAbout arguments index (.scripted script calls)).filterMap
        Call.note? =
      arguments.mapIdx fun number argument =>
        script.name ++ "#" ++ toString (calls + number + 1) ++ ":" ++
          argument := by
  induction arguments generalizing calls with
  | nil => rfl
  | cons argument rest inductionHypothesis =>
      have noted : Call.note?
          { index, reporter := .scripted script calls, argument } =
            some (script.name ++ "#" ++ toString (calls + 1) ++ ":" ++
              argument) := rfl
      rw [callsAbout_cons, Reporter.asked, List.filterMap_cons_some noted,
        inductionHypothesis, List.mapIdx_cons]
      congr 2
      funext number other
      rw [Nat.add_right_comm calls 1 number, Nat.add_assoc calls number 1]

theorem take_round_filter
    {reporters : List Reporter}
    {place : Nat}
    {reporter : Reporter}
    (found : reporters[place]? = some reporter)
    (argument : String)
    (index extra : Nat) :
    ((round argument index reporters).take extra).filter
        (fun call => call.index = index + place) =
      if place < extra then
        [{ index := index + place, reporter, argument }]
      else
        [] := by
  induction reporters generalizing index place extra with
  | nil => cases found
  | cons first rest inductionHypothesis =>
      cases extra with
      | zero => simp
      | succ extra =>
          cases place with
          | zero =>
              have others : ((round argument (index + 1) rest).take
                  extra).filter (fun call => call.index = index) = [] := by
                rw [List.filter_eq_nil_iff]
                intro call member
                obtain ⟨place, _, rfl⟩ :=
                  List.mem_mapIdx.1 (List.mem_of_mem_take member)
                simp only [decide_eq_true_eq]
                omega
              injection found with same
              simp [others, same]
          | succ place =>
              have further := inductionHypothesis found (index + 1) extra
              have moved : index + (place + 1) = index + 1 + place := by omega
              have first : index ≠ index + 1 + place := by omega
              rw [moved, round_cons, List.take_succ_cons,
                List.filter_cons_of_neg (by simpa using first), further]
              simp only [Nat.add_lt_add_iff_right]

/-- How often the reporter at a place has been asked, when all of them have been
asked about some arguments, and a few of them about one more. -/
def countAt (number extra place : Nat) : Nat :=
  if place < extra then number + 1 else number

@[simp] theorem countAt_zero_right (number place : Nat) :
    countAt number 0 place = number := rfl

theorem countAt_succ (number extra place : Nat) :
    countAt (number + 1) extra place = countAt number extra place + 1 := by
  unfold countAt
  split <;> rfl

/-- A beginning of the rounds has the calls of each reporter in order. -/
theorem take_rounds_filter
    {arguments : List String}
    {reporters : List Reporter}
    {number extra place : Nat}
    {reporter : Reporter}
    (found : reporters[place]? = some reporter)
    (inside : number < arguments.length ∨
      number = arguments.length ∧ extra = 0)
    (bound : extra ≤ reporters.length)
    (index : Nat) :
    ((rounds index arguments reporters).take
        (number * reporters.length + extra)).filter
          (fun call => call.index = index + place) =
      callsAbout (arguments.take (countAt number extra place)) (index + place)
        reporter := by
  induction arguments generalizing reporters number reporter with
  | nil => simp
  | cons argument rest inductionHypothesis =>
      cases number with
      | zero =>
          have within : extra ≤ (round argument index reporters).length := by
            rw [length_round]
            exact bound
          rw [Nat.zero_mul, Nat.zero_add, rounds_cons,
            List.take_append_of_le_length within,
            take_round_filter found, countAt]
          split <;> simp
      | succ number =>
          have whole := take_round_filter found argument index
            reporters.length
          have placed : place < reporters.length :=
            (List.getElem?_eq_some_iff.1 found).1
          rw [if_pos placed, List.take_of_length_le (by simp)] at whole
          have nextFound : (reporters.map Reporter.asked)[place]? =
              some reporter.asked := by
            rw [List.getElem?_map, found]
            rfl
          have further := inductionHypothesis nextFound
            (show number < rest.length ∨ number = rest.length ∧ extra = 0 by
              simpa using inside)
            (by simpa using bound)
          have split : (number + 1) * reporters.length + extra =
              (round argument index reporters).length +
                (number * reporters.length + extra) := by
            rw [length_round, Nat.succ_mul]
            omega
          rw [List.length_map] at further
          rw [split, rounds_cons, List.take_length_add_append,
            List.filter_append, whole, further, countAt_succ,
            List.take_succ_cons, callsAbout_cons]
          rfl

end Report
end ArgReport
