import ArgReport.Proofs.Plan.Session

/-!
# Retries are not seen

How many bytes a sink takes at once, and which faults a write gets past by
trying again, cannot be told from the answers of a desk. Two sinks that differ
in nothing else give the same answers to every session.

On the way the two sinks do not stay in step: one may take a text in a single
write and the other byte by byte. What they share is what `Sink.Alike` says, and
every task hands it on, whether it succeeds or fails.
-/

namespace ArgReport

/-- Two sinks that take bytes, and that differ at most in their chunks and in
the transient faults of their writes. -/
structure Sink.Alike (first second : Sink) : Prop where
  firstTakes : first.chunk ≠ some 0
  secondTakes : second.chunk ≠ some 0
  accepted : first.accepted = second.accepted
  hardFaults : Fault.hard first.faults = Fault.hard second.faults
  flushFaults : first.flushFaults = second.flushFaults
  flushCalls : first.flushCalls = second.flushCalls
  flushes : first.flushes = second.flushes

/-- Two sinks that start with the same hard faults and the same faults of
flushes are alike. -/
theorem Sink.alike_of_hard_eq
    {firstChunk secondChunk : Option Nat}
    (firstTakes : firstChunk ≠ some 0)
    (secondTakes : secondChunk ≠ some 0)
    {firstFaults secondFaults : List (Fault WriteEffect)}
    (same : Fault.hard firstFaults = Fault.hard secondFaults)
    (flushFaults : List (Fault Refusal)) :
    Sink.Alike
      { chunk := firstChunk, faults := firstFaults, flushFaults }
      { chunk := secondChunk, faults := secondFaults, flushFaults } where
  firstTakes := firstTakes
  secondTakes := secondTakes
  accepted := rfl
  hardFaults := same
  flushFaults := rfl
  flushCalls := rfl
  flushes := rfl

namespace Sink.Alike

variable
  {first second : Sink}
  (alike : first.Alike second)

include alike

theorem position : first.position = second.position :=
  congrArg Array.size alike.accepted

theorem barrier? (distance : Nat) :
    first.barrier? distance = second.barrier? distance := by
  rw [Sink.barrier?, Sink.barrier?, alike.position, alike.hardFaults]

theorem clearFor_iff {distance : Nat} :
    first.ClearFor distance ↔ second.ClearFor distance := by
  constructor
  · intro clear nearer inside
    rw [← alike.barrier?]
    exact clear nearer inside
  · intro clear nearer inside
    rw [alike.barrier?]
    exact clear nearer inside

theorem refusal? (number : Nat) :
    first.refusal? number = second.refusal? number := by
  rw [Sink.refusal?, Sink.refusal?, alike.flushCalls, alike.flushFaults]

theorem carry (bytes : List UInt8) :
    (first.carry bytes).Alike (second.carry bytes) where
  firstTakes := alike.firstTakes
  secondTakes := alike.secondTakes
  accepted := by
    rw [Sink.carry, Sink.carry, accept, accept, alike.accepted]
  hardFaults := by
    rw [hard_faults_carry, hard_faults_carry, alike.hardFaults]
  flushFaults := alike.flushFaults
  flushCalls := alike.flushCalls
  flushes := alike.flushes

/-- The hard fault that ends a write loses one of its times in both sinks, and
nothing else that they share is changed. -/
theorem halt
    {effect : WriteEffect}
    (waits : first.barrier? 0 = some effect) :
    first.halt.Alike second.halt where
  firstTakes := alike.firstTakes
  secondTakes := alike.secondTakes
  accepted := alike.accepted
  hardFaults := by
    rw [Sink.barrier?, Nat.add_zero, Option.map_eq_some_iff] at waits
    obtain ⟨⟨_, left⟩, struck, _⟩ := waits
    have sameStruck := struck
    rw [alike.hardFaults, alike.position] at sameStruck
    exact (Fault.hard_collide struck).trans
      (Fault.hard_collide sameStruck).symm
  flushFaults := alike.flushFaults
  flushCalls := alike.flushCalls
  flushes := alike.flushes

theorem flushed : first.flushed.Alike second.flushed where
  firstTakes := alike.firstTakes
  secondTakes := alike.secondTakes
  accepted := alike.accepted
  hardFaults := alike.hardFaults
  flushFaults := alike.flushFaults
  flushCalls := congrArg (· + 1) alike.flushCalls
  flushes := by
    rw [flushes_flushed, flushes_flushed, alike.flushes, alike.position]

/-- A write ends in the same way on both sinks, and leaves them alike. -/
theorem writeAll (bytes : List UInt8) :
    (∃ one other, Sink.writeAll bytes first = .ok () one ∧
      Sink.writeAll bytes second = .ok () other ∧ one.Alike other) ∨
      ∃ cause one other, Sink.writeAll bytes first = .error cause one ∧
        Sink.writeAll bytes second = .error cause other ∧
        one.Alike other := by
  rcases first.clearFor_or_barrier bytes.length with
    clear | ⟨distance, effect, inside, clear, waits⟩
  · exact .inl ⟨_, _, writeAll_of_clear alike.firstTakes clear,
      writeAll_of_clear alike.secondTakes (alike.clearFor_iff.1 clear),
      alike.carry bytes⟩
  · have otherClear := alike.clearFor_iff.1 clear
    have otherWaits := waits
    rw [alike.barrier?] at otherWaits
    exact .inr ⟨_, _, _,
      writeAll_of_barrier alike.firstTakes clear waits inside,
      writeAll_of_barrier alike.secondTakes otherClear otherWaits inside,
      (alike.carry (bytes.take distance)).halt
        (barrier?_carry_take waits inside)⟩

/-- A flush ends in the same way on both sinks, and leaves them alike. -/
theorem flush :
    (∃ one other, Sink.flush first = .ok () one ∧
      Sink.flush second = .ok () other ∧ one.Alike other) ∨
      ∃ cause one other, Sink.flush first = .error cause one ∧
        Sink.flush second = .error cause other ∧ one.Alike other := by
  cases waits : first.refusal? 0 with
  | none =>
      have otherFree := waits
      rw [alike.refusal?] at otherFree
      exact .inl ⟨_, _, flush_of_free waits, flush_of_free otherFree,
        alike.flushed⟩
  | some refusal =>
      have otherWaits := waits
      rw [alike.refusal?] at otherWaits
      obtain ⟨left, struck, refused⟩ := flush_of_refusal waits
      obtain ⟨otherLeft, otherStruck, otherRefused⟩ :=
        flush_of_refusal otherWaits
      rw [alike.flushCalls, alike.flushFaults, otherStruck] at struck
      injection struck with pair
      injection pair with _ same
      refine .inr ⟨_, _, _, refused, otherRefused, ?_⟩
      exact
        { firstTakes := alike.firstTakes
          secondTakes := alike.secondTakes
          accepted := alike.accepted
          hardFaults := alike.hardFaults
          flushFaults := same.symm
          flushCalls := congrArg (· + 1) alike.flushCalls
          flushes := alike.flushes }

end Sink.Alike

/-- Two runs that differ in nothing but what their sinks may differ in. -/
structure Run.Alike {Error : Type} (first second : Run Error) : Prop where
  result : first.result = second.result
  sink : first.sink.Alike second.sink
  reporters : first.reporters = second.reporters
  calls : first.calls = second.calls

/-- A plan is carried out in the same way on sinks that are alike. -/
theorem Plan.run_alike
    {Error : Type}
    (plan : Plan Error)
    {first second : Sink}
    (alike : first.Alike second)
    (reporters : List Reporter) :
    (plan.run first reporters).Alike (plan.run second reporters) := by
  induction plan generalizing first second reporters with
  | nil => exact ⟨rfl, alike, rfl, rfl⟩
  | cons task rest inductionHypothesis =>
      cases task with
      | ask call =>
          have further := inductionHypothesis alike
            (reporters.modify call.index Reporter.asked)
          exact
            { result := further.result
              sink := further.sink
              reporters := further.reporters
              calls := congrArg (call :: ·) further.calls }
      | write bytes blame =>
          rcases alike.writeAll bytes with
            ⟨one, other, wrote, otherWrote, further⟩ |
              ⟨cause, one, other, wrote, otherWrote, further⟩
          · rw [run_write_of_ok _ _ _ wrote, run_write_of_ok _ _ _ otherWrote]
            exact inductionHypothesis further reporters
          · rw [run_write_of_error _ _ _ wrote,
              run_write_of_error _ _ _ otherWrote]
            exact ⟨rfl, further, rfl, rfl⟩
      | flush blame =>
          rcases alike.flush with
            ⟨one, other, flushed, otherFlushed, further⟩ |
              ⟨cause, one, other, flushed, otherFlushed, further⟩
          · rw [run_flush_of_ok _ _ _ flushed,
              run_flush_of_ok _ _ _ otherFlushed]
            exact inductionHypothesis further reporters
          · rw [run_flush_of_error _ _ _ flushed,
              run_flush_of_error _ _ _ otherFlushed]
            exact ⟨rfl, further, rfl, rfl⟩
      | fail failure => exact ⟨rfl, alike, rfl, rfl⟩

/-- Two desks with the same reporters and sinks that are alike. -/
structure Desk.Alike (first second : Desk) : Prop where
  sink : first.sink.Alike second.sink
  reporters : first.reporters = second.reporters

namespace Desk

/-- A step is answered in the same way at desks that are alike, and leaves them
alike. -/
theorem answer_of_alike
    {first second : Desk}
    (alike : first.Alike second)
    (step : Step) :
    (first.answer step).1 = (second.answer step).1 ∧
      (first.answer step).2.Alike (second.answer step).2 := by
  have done := Plan.run_alike (step.plan first.reporters) alike.sink
    first.reporters
  simp only [answer, perform_eq_run_plan, ← alike.reporters]
  refine ⟨?_, done.sink, done.reporters⟩
  rw [done.result, done.sink.accepted, done.sink.flushes, done.calls,
    done.sink.position, alike.sink.position, alike.sink.flushes]

/-- Neither the chunk nor the transient faults of a sink can be told from the
answers to a session, and a session does not bring them to light later. -/
theorem session_of_alike
    {first second : Desk}
    (alike : first.Alike second)
    (steps : List Step) :
    (first.session steps).1 = (second.session steps).1 ∧
      (first.session steps).2.Alike (second.session steps).2 := by
  induction steps generalizing first second with
  | nil => exact ⟨rfl, alike⟩
  | cons step rest inductionHypothesis =>
      obtain ⟨sameAnswer, nextAlike⟩ := answer_of_alike alike step
      obtain ⟨sameOthers, lastAlike⟩ := inductionHypothesis nextAlike
      rw [session_cons, session_cons]
      refine ⟨?_, lastAlike⟩
      rw [sameAnswer, sameOthers]

/-- A sink that takes one byte at a time, with interruptions on the way, serves
a desk as well as one that does not. -/
theorem session_of_interrupted_sink :
    let interrupted : Sink :=
      { chunk := some 1
        faults :=
          [ { place := 2, effect := .refuse .interrupted, times := 3 },
            { place := 4, effect := .stall },
            { place := 4, effect := .refuse (.system .interruptedCall) } ]
        flushFaults := [{ place := 0, effect := .interrupted }] }
    let steady : Sink :=
      { faults := [{ place := 4, effect := .stall }]
        flushFaults := [{ place := 0, effect := .interrupted }] }
    let reporters : List Reporter := [.standard .echo]
    let steps : List Step := [.notice "abc", .consult 0 "d", .border]
    let answers := (session { sink := interrupted, reporters } steps).1
    (Desk.mk interrupted reporters).Alike (Desk.mk steady reporters) ∧
      answers = (session { sink := steady, reporters } steps).1 ∧
      answers.map Answer.result =
        [ .error (.sink (.refused .interrupted)),
          .error (.reporter (.line .echo .stalled)),
          .ok () ] := by
  intro interrupted steady reporters steps answers
  have alike : interrupted.Alike steady :=
    Sink.alike_of_hard_eq (by decide) (by decide) (by decide) _
  have desksAlike :
      (Desk.mk interrupted reporters).Alike (Desk.mk steady reporters) :=
    ⟨alike, rfl⟩
  have same := (session_of_alike desksAlike steps).1
  refine ⟨desksAlike, same, ?_⟩
  simp only [answers, same]
  decide +kernel

end Desk
end ArgReport
