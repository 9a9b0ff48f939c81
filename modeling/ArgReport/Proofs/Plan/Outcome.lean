import ArgReport.Proofs.Plan.Basic

/-!
# The outcome of a plan

A plan on a sink ends in one of three ways. A flush is refused, with everything
before it written. A hard fault stops a write, with everything before its place
written. Or the plan comes to the end that it has by itself.

Which of them it is depends on two orders at once: where hard faults wait along
the bytes, and which of the flushes to come are refused. `run_outcome` settles
it by induction on the plan, and each task moves both orders along.
-/

namespace ArgReport
namespace Plan

variable {Error : Type}

/-- The bytes that a plan writes when only the plan itself ends it. -/
def utterance : Plan Error -> List UInt8
  | [] => []
  | .ask _ :: rest => utterance rest
  | .write bytes _ :: rest => bytes ++ utterance rest
  | .flush _ :: rest => utterance rest
  | .fail _ :: _ => []

/-- Where in these bytes the flushes are, and how each tells a refusal. -/
def flushPoints : Plan Error -> List (Nat × (SinkError -> Error))
  | [] => []
  | .ask _ :: rest => flushPoints rest
  | .write bytes _ :: rest =>
      (flushPoints rest).map fun point => (bytes.length + point.1, point.2)
  | .flush blame :: rest => (0, blame) :: flushPoints rest
  | .fail _ :: _ => []

/-- Each flush comes within the bytes. -/
theorem offset_le_length_utterance
    {plan : Plan Error}
    {point : Nat × (SinkError -> Error)}
    (member : point ∈ plan.flushPoints) :
    point.1 ≤ plan.utterance.length := by
  induction plan generalizing point with
  | nil => cases member
  | cons task rest inductionHypothesis =>
      cases task with
      | ask call => exact inductionHypothesis member
      | write bytes blame =>
          rw [flushPoints, List.mem_map] at member
          obtain ⟨former, formerMember, rfl⟩ := member
          have bound := inductionHypothesis formerMember
          rw [utterance, List.length_append]
          omega
      | flush blame =>
          rcases List.mem_cons.1 member with rfl | further
          · exact Nat.zero_le _
          · exact inductionHypothesis further
      | fail failure => cases member

/-- How the plan ends when only the plan itself ends it. -/
def ending : Plan Error -> Except Error Unit
  | [] => .ok ()
  | .ask _ :: rest => ending rest
  | .write _ _ :: rest => ending rest
  | .flush _ :: rest => ending rest
  | .fail failure :: _ => .error failure

/-- How the task that writes the byte at an offset tells its errors. -/
def blame? : Plan Error -> Nat -> Option (SinkError -> Error)
  | [], _ => none
  | .ask _ :: rest, offset => blame? rest offset
  | .write bytes blame :: rest, offset =>
      if offset < bytes.length then
        some blame
      else
        blame? rest (offset - bytes.length)
  | .flush _ :: rest, offset => blame? rest offset
  | .fail _ :: _, _ => none

/-- The positions of flushes, from where a sink stands. -/
def marks
    (sink : Sink)
    (points : List (Nat × (SinkError -> Error))) : List Nat :=
  points.map fun point => sink.position + point.1

/-- Bytes that are taken move the sink, and the offsets are counted from there. -/
theorem marks_carry
    (sink : Sink)
    (bytes : List UInt8)
    (points : List (Nat × (SinkError -> Error))) :
    marks (sink.carry bytes) points =
      marks sink (points.map fun point => (bytes.length + point.1, point.2)) := by
  simp [marks, Nat.add_assoc]

/-- The three ways in which a plan can end on a sink. -/
inductive Outcome
    (plan : Plan Error)
    (sink : Sink)
    (result : Except Error Unit)
    (after : Sink) : Prop
  /-- A flush is refused before any hard fault is met. -/
  | refused
      (number : Nat)
      (offset : Nat)
      (blame : SinkError -> Error)
      (refusal : Refusal)
      (point : plan.flushPoints[number]? = some (offset, blame))
      (earlier : ∀ other < number, sink.refusal? other = none)
      (waits : sink.refusal? number = some refusal)
      (clear : sink.ClearFor offset)
      (ended : result = .error (blame (.refused refusal)))
      (bytes : after.bytes = sink.bytes ++ plan.utterance.take offset)
      (flushes : after.flushes =
        sink.flushes ++ marks sink (plan.flushPoints.take number))
  /-- A hard fault is met before any flush is refused. -/
  | blocked
      (offset : Nat)
      (blame : SinkError -> Error)
      (effect : WriteEffect)
      (inside : offset < plan.utterance.length)
      (earlier : ∀ (number : Nat) point,
        plan.flushPoints[number]? = some point ->
          point.1 ≤ offset -> sink.refusal? number = none)
      (clear : sink.ClearFor offset)
      (waits : sink.barrier? offset = some effect)
      (writer : plan.blame? offset = some blame)
      (ended : result = .error (blame effect.error))
      (bytes : after.bytes = sink.bytes ++ plan.utterance.take offset)
      (flushes : after.flushes =
        sink.flushes ++ marks sink
          (plan.flushPoints.takeWhile fun point => point.1 ≤ offset))
  /-- Nothing is met. -/
  | finished
      (earlier : ∀ number < plan.flushPoints.length,
        sink.refusal? number = none)
      (clear : sink.ClearFor plan.utterance.length)
      (ended : result = plan.ending)
      (bytes : after.bytes = sink.bytes ++ plan.utterance)
      (flushes : after.flushes =
        sink.flushes ++ marks sink plan.flushPoints)

namespace Outcome

variable
  {rest : Plan Error}
  {sink after : Sink}
  {result : Except Error Unit}

theorem ask
    (outcome : Outcome rest sink result after)
    (call : Call) :
    Outcome (.ask call :: rest) sink result after := by
  cases outcome with
  | refused number offset blame refusal point earlier waits clear ended bytes
      flushes =>
      exact .refused number offset blame refusal point earlier waits clear
        ended bytes flushes
  | blocked offset blame effect inside earlier clear waits writer ended bytes
      flushes =>
      exact .blocked offset blame effect inside earlier clear waits writer
        ended bytes flushes
  | finished earlier clear ended bytes flushes =>
      exact .finished earlier clear ended bytes flushes

theorem flush
    (outcome : Outcome rest sink.flushed result after)
    (free : sink.refusal? 0 = none)
    (blame : SinkError -> Error) :
    Outcome (.flush blame :: rest) sink result after := by
  have recorded (points : List (Nat × (SinkError -> Error))) :
      sink.flushed.flushes ++ marks sink.flushed points =
        sink.flushes ++ marks sink ((0, blame) :: points) := by
    rw [Sink.flushes_flushed, List.append_assoc]
    rfl
  cases outcome with
  | refused number offset other refusal point earlier waits clear ended bytes
      flushes =>
      refine .refused (number + 1) offset other refusal point ?_
        (by simpa using waits) clear ended bytes
        (flushes.trans (recorded _))
      intro before inside
      cases before with
      | zero => exact free
      | succ before =>
          have none := earlier before (by omega)
          rwa [Sink.refusal?_flushed] at none
  | blocked offset other effect inside earlier clear waits writer ended bytes
      flushes =>
      refine .blocked offset other effect inside ?_ clear waits writer ended
        bytes ?_
      · intro number point found reached
        cases number with
        | zero => exact free
        | succ number =>
            have none := earlier number point found reached
            rwa [Sink.refusal?_flushed] at none
      · rw [flushes, recorded, flushPoints, List.takeWhile_cons_of_pos]
        exact decide_eq_true (Nat.zero_le offset)
  | finished earlier clear ended bytes flushes =>
      refine .finished ?_ clear ended bytes (flushes.trans (recorded _))
      intro number inside
      cases number with
      | zero => exact free
      | succ number =>
          have none := earlier number (Nat.lt_of_succ_lt_succ inside)
          rwa [Sink.refusal?_flushed] at none

theorem write
    {bytes : List UInt8}
    (outcome : Outcome rest (sink.carry bytes) result after)
    (clearHere : sink.ClearFor bytes.length)
    (blame : SinkError -> Error) :
    Outcome (.write bytes blame :: rest) sink result after := by
  have shifted (offset : Nat) :
      sink.bytes ++ (bytes ++ rest.utterance).take (bytes.length + offset) =
        (sink.carry bytes).bytes ++ rest.utterance.take offset := by
    rw [List.take_length_add_append, Sink.bytes_carry, List.append_assoc]
  cases outcome with
  | refused number offset other refusal point earlier waits clear ended
      written flushes =>
      refine .refused number (bytes.length + offset) other refusal ?_ earlier
        waits (Sink.clearFor_add_iff.2 ⟨clearHere, clear⟩) ended ?_ ?_
      · rw [flushPoints, List.getElem?_map, point]
        rfl
      · rw [utterance, shifted, written]
      · rw [flushes, marks_carry, flushPoints, List.map_take]
        rfl
  | blocked offset other effect inside earlier clear waits writer ended
      written flushes =>
      refine .blocked (bytes.length + offset) other effect ?_ ?_
        (Sink.clearFor_add_iff.2 ⟨clearHere, clear⟩) ?_ ?_ ended ?_ ?_
      · rw [utterance, List.length_append]
        omega
      · intro number point found reached
        rw [flushPoints, List.getElem?_map, Option.map_eq_some_iff] at found
        obtain ⟨former, found, rfl⟩ := found
        exact earlier number former found (by simp only at reached; omega)
      · rwa [Sink.barrier?_carry] at waits
      · rw [blame?, if_neg (by omega), Nat.add_sub_cancel_left, writer]
      · rw [utterance, shifted, written]
      · rw [flushes, marks_carry, flushPoints, List.takeWhile_map]
        simp only [Function.comp_def, Nat.add_le_add_iff_left]
        rfl
  | finished earlier clear ended written flushes =>
      refine .finished ?_ ?_ ended ?_ ?_
      · intro number inside
        rw [flushPoints, List.length_map] at inside
        exact earlier number inside
      · rw [utterance, List.length_append]
        exact Sink.clearFor_add_iff.2 ⟨clearHere, clear⟩
      · rw [utterance, written, Sink.bytes_carry, List.append_assoc]
      · rw [flushes, marks_carry, flushPoints]
        rfl

end Outcome

/-- Every plan ends on every sink in one of the three ways. -/
theorem run_outcome
    (plan : Plan Error)
    (sink : Sink)
    (reporters : List Reporter)
    (chunk : sink.chunk ≠ some 0) :
    Outcome plan sink (plan.run sink reporters).result
      (plan.run sink reporters).sink := by
  induction plan generalizing sink reporters with
  | nil =>
      refine .finished ?_ ?_ rfl ?_ ?_
      · intro number inside
        cases inside
      · intro nearer inside
        cases inside
      · exact (List.append_nil _).symm
      · exact (List.append_nil _).symm
  | cons task rest inductionHypothesis =>
      cases task with
      | ask call =>
          exact (inductionHypothesis sink
            (reporters.modify call.index Reporter.asked) chunk).ask call
      | write bytes blame =>
          rcases sink.clearFor_or_barrier bytes.length with
            clear | ⟨offset, effect, inside, clear, waits⟩
          · rw [run_write_of_ok _ _ _ (Sink.writeAll_of_clear chunk clear)]
            exact (inductionHypothesis (sink.carry bytes) reporters
              (by simpa using chunk)).write clear blame
          · rw [run_write_of_error _ _ _
              (Sink.writeAll_of_barrier chunk clear waits inside)]
            refine .blocked offset blame effect ?_ ?_ clear waits ?_ rfl ?_ ?_
            · rw [utterance, List.length_append]
              omega
            · intro number point found reached
              rw [flushPoints, List.getElem?_map, Option.map_eq_some_iff]
                at found
              obtain ⟨former, _, rfl⟩ := found
              simp only at reached
              omega
            · rw [blame?, if_pos inside]
            · rw [utterance, Sink.bytes_halt, Sink.bytes_carry,
                List.take_append_of_le_length (by omega)]
            · rw [flushPoints, List.takeWhile_map]
              have unreached : (fun point : Nat × (SinkError -> Error) =>
                  decide (bytes.length + point.1 ≤ offset)) =
                  fun _ => false := by
                funext point
                exact decide_eq_false (by omega)
              simp only [Function.comp_def, unreached]
              cases flushPoints rest <;> exact (List.append_nil _).symm
      | flush blame =>
          cases waits : sink.refusal? 0 with
          | none =>
              rw [run_flush_of_ok _ _ _ (Sink.flush_of_free waits)]
              exact (inductionHypothesis sink.flushed reporters
                (by simpa using chunk)).flush waits blame
          | some refusal =>
              obtain ⟨left, _, refused⟩ := Sink.flush_of_refusal waits
              rw [run_flush_of_error _ _ _ refused]
              refine .refused 0 0 blame refusal rfl ?_ waits ?_ rfl ?_ ?_
              · intro other inside
                cases inside
              · intro nearer inside
                cases inside
              · exact (List.append_nil _).symm
              · exact (List.append_nil _).symm
      | fail failure =>
          refine .finished ?_ ?_ rfl ?_ ?_
          · intro number inside
            cases inside
          · intro nearer inside
            cases inside
          · exact (List.append_nil _).symm
          · exact (List.append_nil _).symm

end Plan
end ArgReport
