import ArgReport.Proofs.Plan.Text

/-!
# A report on a faulty sink

A report on a sink with faults is compared with the same report on the sink
without them. Two distances settle how the first departs from the second: how
far it is to the nearest hard fault, and where the notice ends whose flush is
the first to be refused. Whichever is met first stops the report, and at equal
distances it is the flush, for the notice is then written to its end. The bytes
before that point are those of the report without faults. If neither is met, the
two reports agree.

Chunks and transient faults appear in none of this.
-/

namespace ArgReport

namespace Sink

/-- The same sink without any fault. -/
def faultless (sink : Sink) : Sink :=
  { sink with faults := [], flushFaults := [] }

@[simp] theorem bytes_faultless (sink : Sink) :
    sink.faultless.bytes = sink.bytes := rfl

@[simp] theorem flushes_faultless (sink : Sink) :
    sink.faultless.flushes = sink.flushes := rfl

@[simp] theorem barrier?_faultless (sink : Sink) (distance : Nat) :
    sink.faultless.barrier? distance = none := rfl

@[simp] theorem refusal?_faultless (sink : Sink) (number : Nat) :
    sink.faultless.refusal? number = none := rfl

/-- Distances to the hard faults that wait where the sink stands or further
on. -/
def hardDistances (sink : Sink) : List Nat :=
  let ahead := sink.faults.filter fun fault =>
    fault.IsHard ∧ 0 < fault.times ∧ sink.position ≤ fault.place
  ahead.map fun fault => fault.place - sink.position

theorem mem_hardDistances
    {sink : Sink}
    {distance : Nat} :
    distance ∈ sink.hardDistances ↔
      ∃ effect, sink.barrier? distance = some effect := by
  have waits : (∃ effect, sink.barrier? distance = some effect) ↔
      ∃ fault ∈ Fault.hard sink.faults,
        fault.Awaits (sink.position + distance) := by
    rw [← Option.isSome_iff_exists, barrier?, Option.isSome_map,
      ← Option.ne_none_iff_isSome, ne_eq, Fault.strike?_eq_none_iff]
    simp only [not_forall, Decidable.not_not, exists_prop]
  rw [waits, hardDistances, List.mem_map]
  constructor
  · rintro ⟨fault, member, rfl⟩
    rw [List.mem_filter, decide_eq_true_iff] at member
    obtain ⟨member, isHard, positive, ahead⟩ := member
    refine ⟨fault, ?_, by omega, positive⟩
    rw [Fault.hard, List.mem_filter, decide_eq_true_iff]
    exact ⟨member, isHard⟩
  · rintro ⟨fault, member, here, positive⟩
    rw [Fault.hard, List.mem_filter, decide_eq_true_iff] at member
    refine ⟨fault, ?_, by omega⟩
    rw [List.mem_filter, decide_eq_true_iff]
    exact ⟨member.1, member.2, positive, by omega⟩

/-- A distance is clear exactly when no hard fault is nearer. -/
theorem clearFor_iff
    {sink : Sink}
    {distance : Nat} :
    sink.ClearFor distance ↔
      ∀ nearest ∈ sink.hardDistances.min?, distance ≤ nearest := by
  constructor
  · intro clear nearest least
    by_contra nearer
    obtain ⟨effect, waits⟩ :=
      mem_hardDistances.1 (List.min?_mem least)
    rw [clear nearest (by omega)] at waits
    cases waits
  · intro bound nearer inside
    cases waits : sink.barrier? nearer with
    | none => rfl
    | some effect =>
        have member := mem_hardDistances.2 ⟨effect, waits⟩
        cases least : sink.hardDistances.min? with
        | none =>
            rw [List.min?_eq_none_iff.1 least] at member
            cases member
        | some nearest =>
            have lower := (List.min?_eq_some_iff.1 least).2 nearer member
            have upper := bound nearest least
            omega

/-- The first hard fault past a clear distance is the nearest. -/
theorem min?_hardDistances
    {sink : Sink}
    {distance : Nat}
    {effect : WriteEffect}
    (clear : sink.ClearFor distance)
    (waits : sink.barrier? distance = some effect) :
    sink.hardDistances.min? = some distance := by
  rw [List.min?_eq_some_iff]
  refine ⟨mem_hardDistances.2 ⟨effect, waits⟩, fun other member => ?_⟩
  by_contra nearer
  obtain ⟨otherEffect, otherWaits⟩ := mem_hardDistances.1 member
  rw [clear other (by omega)] at otherWaits
  cases otherWaits

/-- Which of the next flushes is the first to be refused. -/
def refusedFlush? (sink : Sink) (count : Nat) : Option Nat :=
  (List.range count).find? fun number => (sink.refusal? number).isSome

theorem refusedFlush?_eq_some_iff
    {sink : Sink}
    {count number : Nat} :
    sink.refusedFlush? count = some number ↔
      number < count ∧ (∃ refusal, sink.refusal? number = some refusal) ∧
        ∀ other < number, sink.refusal? other = none := by
  rw [refusedFlush?, List.find?_range_eq_some]
  simp only [Option.isSome_iff_exists, List.mem_range, Bool.not_eq_true',
    Option.isSome_eq_false_iff, Option.isNone_iff_eq_none]
  tauto

theorem refusedFlush?_eq_none_iff
    {sink : Sink}
    {count : Nat} :
    sink.refusedFlush? count = none ↔
      ∀ number < count, sink.refusal? number = none := by
  simp [refusedFlush?]

end Sink

namespace Report

/-- A stretch on a sink has failed after some of the bytes that it would have
written. -/
def StopsAfter
    (run : Run Failure)
    (sink : Sink)
    (ideal : List UInt8)
    (count : Nat)
    (failure : Failure) : Prop :=
  run.result = .error failure ∧ count ≤ ideal.length ∧
    run.sink.bytes = sink.bytes ++ ideal.take count

/-- How a report on a sink ends, told through its plan. -/
theorem blocks_outcome
    (index : Nat)
    (arguments : List String)
    (reporters : List Reporter)
    {sink : Sink}
    (chunk : sink.chunk ≠ some 0) :
    Plan.Outcome (plan index arguments reporters) sink
      (blocks index arguments sink reporters).result
      (blocks index arguments sink reporters).sink := by
  obtain ⟨others, sameResult, sameSink⟩ :=
    blocks_eq_run_plan index arguments sink reporters
  rw [sameResult, sameSink]
  exact Plan.run_outcome (plan index arguments reporters) sink others chunk

/-- Without faults a report does what its plan says. -/
theorem blocks_faultless
    (index : Nat)
    (arguments : List String)
    (reporters : List Reporter)
    {sink : Sink}
    (chunk : sink.chunk ≠ some 0) :
    let free := blocks index arguments sink.faultless reporters
    free.result = Plan.ending (plan index arguments reporters) ∧
      free.sink.bytes =
        sink.bytes ++ Plan.utterance (plan index arguments reporters) ∧
      free.sink.flushes.length = sink.flushes.length +
        (Plan.flushPoints (plan index arguments reporters)).length := by
  intro free
  have outcome : Plan.Outcome (plan index arguments reporters) sink.faultless
      free.result free.sink := blocks_outcome index arguments reporters chunk
  cases outcome with
  | refused number offset blame refusal point earlier waits =>
      rw [Sink.refusal?_faultless] at waits
      cases waits
  | blocked offset blame effect inside earlier clear waits =>
      rw [Sink.barrier?_faultless] at waits
      cases waits
  | finished earlier clear result bytes flushes =>
      refine ⟨result, bytes, ?_⟩
      rw [flushes, Sink.flushes_faultless]
      simp [Plan.marks]

/-- Where no flush is refused up to a distance, the notice of a refused one ends
further on. -/
theorem lt_noticeEnd
    {index number offset : Nat}
    {arguments : List String}
    {reporters : List Reporter}
    {sink : Sink}
    {refusal : Refusal}
    (earlier : ∀ (other : Nat) point,
      (Plan.flushPoints (plan index arguments reporters))[other]? =
        some point -> point.1 ≤ offset -> sink.refusal? other = none)
    (inRange : number <
      (Plan.flushPoints (plan index arguments reporters)).length)
    (refuses : sink.refusal? number = some refusal) :
    offset < noticeEnd reporters arguments number := by
  have point := List.getElem?_eq_getElem inRange
  have place := congrArg Prod.fst (flushPoints_plan point)
  apply Nat.lt_of_not_le
  intro reached
  rw [earlier number _ point (by rw [place]; exact reached)] at refuses
  cases refuses

/-- A report on a faulty sink, compared with the report on the sink without its
faults. The first refused flush stops it at the end of its notice unless a hard
fault is strictly nearer. Else the nearest hard fault stops it, if it waits
along the bytes, and the error is that of the part which writes the byte there.
Else nothing is changed. -/
theorem blocks_stop_at_first_fault
    (index : Nat)
    (arguments : List String)
    (reporters : List Reporter)
    (sink : Sink)
    (chunk : sink.chunk ≠ some 0) :
    let free := blocks index arguments sink.faultless reporters
    let run := blocks index arguments sink reporters
    let ideal := free.sink.bytes.drop sink.position
    let nearest := sink.hardDistances.min?
    let refused := sink.refusedFlush?
      (free.sink.flushes.length - sink.flushes.length)
    let flushFirst := ∃ number ∈ refused, ∀ distance ∈ nearest,
      noticeEnd reporters arguments number ≤ distance
    free.sink.bytes = sink.bytes ++ ideal ∧
      (flushFirst -> ∃ number ∈ refused, ∃ refusal,
        sink.refusal? number = some refusal ∧
          StopsAfter run sink ideal (noticeEnd reporters arguments number)
            (.notice (.refused refusal))) ∧
      (¬flushFirst -> ∀ distance ∈ nearest, distance < ideal.length ->
        ∃ blame effect,
          Plan.blame? (plan index arguments reporters) distance = some blame ∧
            sink.barrier? distance = some effect ∧
            StopsAfter run sink ideal distance (blame effect.error)) ∧
      (¬flushFirst -> (∀ distance ∈ nearest, ideal.length ≤ distance) ->
        run.result = free.result ∧ run.sink.bytes = sink.bytes ++ ideal) := by
  intro free run ideal nearest refused flushFirst
  obtain ⟨freeResult, freeBytes, freeFlushes⟩ :=
    blocks_faultless index arguments reporters chunk
  have spoken : ideal = Plan.utterance (plan index arguments reporters) := by
    simp only [ideal, free, freeBytes, ← Sink.length_bytes, List.drop_left]
  have counted : refused = sink.refusedFlush?
      (Plan.flushPoints (plan index arguments reporters)).length := by
    simp only [refused, free, freeFlushes, Nat.add_sub_cancel_left]
  have whole : free.sink.bytes = sink.bytes ++ ideal := by
    rw [spoken]
    exact freeBytes
  have outcome : Plan.Outcome (plan index arguments reporters) sink
      run.result run.sink := blocks_outcome index arguments reporters chunk
  refine ⟨whole, ?_⟩
  cases outcome with
  | refused number offset blame refusal point earlier waits clear result bytes
      flushes =>
      have inRange := (List.getElem?_eq_some_iff.1 point).1
      have place := flushPoints_plan point
      injection place with atEnd blamed
      subst atEnd blamed
      have first : refused = some number := by
        rw [counted]
        exact Sink.refusedFlush?_eq_some_iff.2
          ⟨inRange, ⟨refusal, waits⟩, earlier⟩
      have holds : flushFirst := ⟨number, first, Sink.clearFor_iff.1 clear⟩
      refine ⟨fun _ => ⟨number, first, refusal, waits, result, ?_, ?_⟩,
        fun fails => absurd holds fails, fun fails => absurd holds fails⟩
      · rw [spoken]
        exact Plan.offset_le_length_utterance (List.mem_of_getElem? point)
      · rw [spoken]
        exact bytes
  | blocked offset blame effect inside earlier clear waits writer result bytes
      flushes =>
      have least : nearest = some offset :=
        Sink.min?_hardDistances clear waits
      have fails : ¬flushFirst := by
        rintro ⟨number, first, before⟩
        rw [counted] at first
        obtain ⟨inRange, ⟨refusal, refuses⟩, _⟩ :=
          Sink.refusedFlush?_eq_some_iff.1 first
        have later := lt_noticeEnd earlier inRange refuses
        exact absurd (before offset least) (Nat.not_le_of_lt later)
      refine ⟨fun holds => absurd holds fails, ?_, ?_⟩
      · intro _ distance member _
        rw [least] at member
        injection member with same
        subst same
        refine ⟨blame, effect, writer, waits, result, ?_, ?_⟩
        · rw [spoken]
          exact Nat.le_of_lt inside
        · rw [spoken]
          exact bytes
      · intro _ beyond
        have farther := beyond offset least
        rw [spoken] at farther
        omega
  | finished earlier clear result bytes flushes =>
      have noneRefused : refused = none := by
        rw [counted]
        exact Sink.refusedFlush?_eq_none_iff.2 earlier
      have fails : ¬flushFirst := by
        rintro ⟨number, first, _⟩
        rw [noneRefused] at first
        cases first
      refine ⟨fun holds => absurd holds fails, ?_, ?_⟩
      · intro _ distance member inside
        have farther := Sink.clearFor_iff.1 clear distance member
        rw [spoken] at inside
        omega
      · intro _ _
        rw [spoken]
        exact ⟨result.trans freeResult.symm, bytes⟩

/-- A refused flush and a hard fault wait at the end of the same notice, and an
interruption before it. The flush is what fails. -/
theorem blocks_stop_at_flush_before_hard_fault :
    let sink : Sink :=
      { chunk := some 1
        faults :=
          [ { place := 3, effect := .refuse .interrupted, times := 2 },
            { place := 28, effect := .stall } ]
        flushFaults := [{ place := 0, effect := .interrupted }] }
    let run := blocks 0 ["a"] sink Reporter.defaults
    sink.chunk ≠ some 0 ∧
      run.result = .error (.notice (.refused .interrupted)) ∧
      run.sink.bytes = utf8 noticeText := by
  intro sink run
  have chunk : sink.chunk ≠ some 0 := by decide
  obtain ⟨_, freeBytes, freeFlushes⟩ :=
    blocks_faultless 0 ["a"] Reporter.defaults chunk
  obtain ⟨whole, first, _⟩ :=
    blocks_stop_at_first_fault 0 ["a"] Reporter.defaults sink chunk
  have counted : (Plan.flushPoints
      (plan 0 ["a"] Reporter.defaults)).length = 1 := rfl
  have refused : sink.refusedFlush?
      ((blocks 0 ["a"] sink.faultless Reporter.defaults).sink.flushes.length -
        sink.flushes.length) = some 0 := by
    rw [freeFlushes, counted]
    rfl
  have ends : noticeEnd Reporter.defaults ["a"] 0 = 28 := by
    rw [noticeEnd, length_utf8]
    decide
  obtain ⟨number, isNumber, refusal, waits, result, _, bytes⟩ := first
    ⟨0, refused, fun distance member => by
      have nearest : sink.hardDistances.min? = some 28 := by decide
      rw [nearest] at member
      injection member with same
      exact Nat.le_of_eq (ends.trans same)⟩
  rw [refused] at isNumber
  injection isNumber with zero
  subst zero
  have interrupted : refusal = .interrupted := by
    have struck : sink.refusal? 0 = some .interrupted := by decide
    rw [struck] at waits
    injection waits with same
    exact same.symm
  rw [interrupted] at result
  refine ⟨chunk, result, ?_⟩
  have spoken : Plan.utterance (plan 0 ["a"] Reporter.defaults) =
      utf8 noticeText ++ Plan.utterance
        (plan 0 ["a"] Reporter.defaults).tail := rfl
  have empty : sink.bytes = [] := rfl
  have length : (utf8 noticeText).length = 28 := by
    rw [length_utf8]
    decide
  rw [ends, freeBytes, ← Sink.length_bytes, List.drop_left, spoken, empty,
    List.nil_append, List.take_append_of_le_length (Nat.le_of_eq length.symm),
    List.take_of_length_le (Nat.le_of_eq length)] at bytes
  exact bytes

end Report
end ArgReport
