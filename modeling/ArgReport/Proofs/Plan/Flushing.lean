import ArgReport.Proofs.ReportPrefix

/-!
# The flushes of a plan

A plan on a sink asks for a flush at each flush point that its bytes have come to,
and for no other. The sink notes the position of each, except that the last may
be refused, and then the plan is over.

This holds of every sink, also of one that takes no bytes at all. It needs the
flush points to be apart, because bytes that have come to one of two flush points
in the same place have come to the other as well.
-/

namespace ArgReport
namespace Sink

/-- As many flushes were asked for, and the same were noted. -/
structure SameFlushes (sink next : Sink) : Prop where
  calls : next.flushCalls = sink.flushCalls
  flushes : next.flushes = sink.flushes

theorem SameFlushes.trans
    {first second third : Sink}
    (early : first.SameFlushes second)
    (late : second.SameFlushes third) :
    first.SameFlushes third where
  calls := late.calls.trans early.calls
  flushes := late.flushes.trans early.flushes

/-- One write has nothing to do with flushes. -/
theorem sameFlushes_write (bytes : List UInt8) (sink : Sink) :
    match write bytes sink with
    | .ok _ next | .error _ next => sink.SameFlushes next := by
  by_cases empty : bytes.isEmpty
  · rw [write, if_pos empty]
    exact ⟨rfl, rfl⟩
  · rw [write, if_neg empty]
    rcases Fault.strike? sink.position sink.faults with
      _ | ⟨stall | refuse, left⟩ <;> exact ⟨rfl, rfl⟩

/-- Writing has nothing to do with flushes. -/
theorem sameFlushes_writeAll (bytes : List UInt8) (sink : Sink) :
    match writeAll bytes sink with
    | .ok _ next | .error _ next => sink.SameFlushes next := by
  fun_induction writeAll bytes sink with
  | case1 => exact ⟨rfl, rfl⟩
  | case2 bytes sink nonempty next outcome =>
      have same := sameFlushes_write bytes sink
      rw [outcome] at same
      exact same
  | case3 bytes sink nonempty count next outcome inductionHypothesis =>
      have same := sameFlushes_write bytes sink
      rw [outcome] at same
      cases wrote : writeAll (bytes.drop (count + 1)) next <;>
      · rw [wrote] at inductionHypothesis
        exact same.trans inductionHypothesis
  | case4 bytes sink nonempty refusal next outcome again inductionHypothesis =>
      have same := sameFlushes_write bytes sink
      rw [outcome] at same
      cases wrote : writeAll bytes next <;>
      · rw [wrote] at inductionHypothesis
        exact same.trans inductionHypothesis
  | case5 bytes sink nonempty refusal next outcome final =>
      have same := sameFlushes_write bytes sink
      rw [outcome] at same
      exact same

/-- A sink has moved by the bytes that it has taken. -/
theorem position_of_bytes
    {sink next : Sink}
    {taken : List UInt8}
    (bytes : next.bytes = sink.bytes ++ taken) :
    next.position = sink.position + taken.length := by
  rw [← length_bytes, bytes, List.length_append, length_bytes]

/-- A flush is one more call. Its position is noted unless it is refused. -/
theorem flush_cases (sink : Sink) :
    (∃ next, flush sink = .ok () next ∧ next.bytes = sink.bytes ∧
      next.flushCalls = sink.flushCalls + 1 ∧
      next.flushes = sink.flushes ++ [sink.position]) ∨
      ∃ cause next, flush sink = .error cause next ∧
        next.bytes = sink.bytes ∧
        next.flushCalls = sink.flushCalls + 1 ∧
        next.flushes = sink.flushes := by
  unfold flush
  cases Fault.strike? sink.flushCalls sink.flushFaults with
  | none => exact .inl ⟨_, rfl, rfl, rfl, rfl⟩
  | some struck => exact .inr ⟨_, _, rfl, rfl, rfl, rfl⟩

end Sink

namespace Plan

variable {Error : Type}

/-- Where in its bytes a plan flushes. -/
def flushOffsets (plan : Plan Error) : List Nat :=
  plan.flushPoints.map Prod.fst

theorem flushOffsets_write
    (bytes : List UInt8)
    (blame : SinkError -> Error)
    (rest : Plan Error) :
    flushOffsets (.write bytes blame :: rest) =
      rest.flushOffsets.map (bytes.length + ·) := by
  simp [flushOffsets, flushPoints, Function.comp_def]

theorem flushOffsets_flush
    (blame : SinkError -> Error)
    (rest : Plan Error) :
    flushOffsets (.flush blame :: rest) = 0 :: rest.flushOffsets := rfl

/-- No two flushes of the plan are in the same place. -/
def FlushesApart (plan : Plan Error) : Prop :=
  plan.flushOffsets.Pairwise (· < ·)

theorem FlushesApart.of_write
    {bytes : List UInt8}
    {blame : SinkError -> Error}
    {rest : Plan Error}
    (apart : FlushesApart (.write bytes blame :: rest)) :
    rest.FlushesApart := by
  rw [FlushesApart, flushOffsets_write, List.pairwise_map] at apart
  exact apart.imp Nat.lt_of_add_lt_add_left

/-- What a plan has written and flushed on a sink by the time it ends. -/
structure Flushed
    (plan : Plan Error)
    (sink : Sink)
    (result : Except Error Unit)
    (after : Sink)
    (taken : List UInt8) : Prop where
  /-- What was written begins the bytes of the plan. -/
  bytes : after.bytes = sink.bytes ++ taken
  isPrefix : taken <+: plan.utterance
  /-- A flush was asked for wherever the bytes came to one. -/
  calls :
    after.flushCalls = sink.flushCalls +
      (plan.flushOffsets.filter (· ≤ taken.length)).length
  /-- Each was noted where it was, but for a last one that was refused. -/
  flushes : ∃ noted refused,
    after.flushes = sink.flushes ++ noted.map (sink.position + ·) ∧
      plan.flushOffsets.filter (· ≤ taken.length) = noted ++ refused ∧
      refused.length ≤ 1 ∧ (result = .ok () -> refused = [])

theorem filter_map_add_le
    (offsets : List Nat)
    (start limit : Nat) :
    (offsets.map (start + ·)).filter (· ≤ start + limit) =
      (offsets.filter (· ≤ limit)).map (start + ·) := by
  simp [List.filter_map, Function.comp_def]

theorem filter_map_add_eq_nil
    (offsets : List Nat)
    {start limit : Nat}
    (short : limit < start) :
    (offsets.map (start + ·)).filter (· ≤ limit) = [] := by
  rw [List.filter_eq_nil_iff]
  intro shifted member
  obtain ⟨offset, _, rfl⟩ := List.mem_map.1 member
  simp only [decide_eq_true_eq]
  omega

namespace Flushed

variable
  {rest : Plan Error}
  {sink next after : Sink}
  {result : Except Error Unit}
  {taken : List UInt8}

/-- What a plan leaves after some bytes have been written. -/
theorem write
    {bytes : List UInt8}
    (written : next.bytes = sink.bytes ++ bytes)
    (same : sink.SameFlushes next)
    (flushed : rest.Flushed next result after taken)
    (blame : SinkError -> Error) :
    Flushed (.write bytes blame :: rest) sink result after
      (bytes ++ taken) := by
  have moved := Sink.position_of_bytes written
  have reached :
      (flushOffsets (.write bytes blame :: rest)).filter
          (· ≤ (bytes ++ taken).length) =
        (rest.flushOffsets.filter (· ≤ taken.length)).map
          (bytes.length + ·) := by
    rw [flushOffsets_write, List.length_append, filter_map_add_le]
  obtain ⟨noted, refused, flushes, all, one, completed⟩ := flushed.flushes
  constructor
  case bytes => rw [flushed.bytes, written, List.append_assoc]
  case isPrefix =>
    exact (List.prefix_append_right_inj bytes).2 flushed.isPrefix
  case calls => rw [flushed.calls, same.calls, reached, List.length_map]
  case flushes =>
    refine ⟨noted.map (bytes.length + ·), refused.map (bytes.length + ·),
      ?_, ?_, ?_, ?_⟩
    · rw [flushes, same.flushes, moved]
      simp [Function.comp_def, Nat.add_assoc]
    · rw [reached, all, List.map_append]
    · rw [List.length_map]
      exact one
    · intro succeeded
      rw [completed succeeded, List.map_nil]

/-- What a plan leaves after a flush that was not refused. -/
theorem flush
    (sameBytes : next.bytes = sink.bytes)
    (counted : next.flushCalls = sink.flushCalls + 1)
    (noted : next.flushes = sink.flushes ++ [sink.position])
    (flushed : rest.Flushed next result after taken)
    (blame : SinkError -> Error) :
    Flushed (.flush blame :: rest) sink result after taken := by
  have samePosition : next.position = sink.position := by
    rw [← Sink.length_bytes, sameBytes, Sink.length_bytes]
  have reached :
      (flushOffsets (.flush blame :: rest)).filter (· ≤ taken.length) =
        0 :: rest.flushOffsets.filter (· ≤ taken.length) := by
    rw [flushOffsets_flush, List.filter_cons_of_pos (by simp)]
  obtain ⟨others, refused, flushes, all, one, completed⟩ := flushed.flushes
  constructor
  case bytes => rw [flushed.bytes, sameBytes]
  case isPrefix => exact flushed.isPrefix
  case calls =>
    rw [flushed.calls, counted, reached, List.length_cons]
    omega
  case flushes =>
    refine ⟨0 :: others, refused, ?_, ?_, one, completed⟩
    · rw [flushes, noted, samePosition]
      simp
    · rw [reached, all, List.cons_append]

/-- What a plan leaves when it ends at its first task. -/
theorem of_stopped
    {plan : Plan Error}
    {failure : Error}
    {refused : List Nat}
    (bytes : after.bytes = sink.bytes ++ taken)
    (isPrefix : taken <+: plan.utterance)
    (reached : plan.flushOffsets.filter (· ≤ taken.length) = refused)
    (one : refused.length ≤ 1)
    (calls : after.flushCalls = sink.flushCalls + refused.length)
    (flushes : after.flushes = sink.flushes) :
    plan.Flushed sink (.error failure) after taken where
  bytes := bytes
  isPrefix := isPrefix
  calls := by rw [reached, calls]
  flushes := ⟨[], refused, by rw [flushes, List.map_nil, List.append_nil],
    reached, one, nofun⟩

end Flushed

/-- A plan ends with the flushes that its bytes have come to. -/
theorem run_flushed
    {plan : Plan Error}
    (apart : plan.FlushesApart)
    (sink : Sink)
    (reporters : List Reporter) :
    ∃ taken, plan.Flushed sink (plan.run sink reporters).result
      (plan.run sink reporters).sink taken := by
  induction plan generalizing sink reporters with
  | nil =>
      exact ⟨[], (List.append_nil _).symm, List.nil_prefix, rfl, [], [],
        (List.append_nil _).symm, rfl, Nat.zero_le _, fun _ => rfl⟩
  | cons task rest inductionHypothesis =>
      cases task with
      | ask call =>
          obtain ⟨taken, flushed⟩ := inductionHypothesis apart sink
            (reporters.modify call.index Reporter.asked)
          exact ⟨taken, flushed.bytes, flushed.isPrefix, flushed.calls,
            flushed.flushes⟩
      | write bytes blame =>
          have same := sink.sameFlushes_writeAll bytes
          rcases sink.writeAll_taken bytes with
            ⟨next, wrote, written⟩ |
              ⟨cause, next, taken, wrote, written, isPrefix, short⟩
          · rw [wrote] at same
            rw [run_write_of_ok _ _ _ wrote]
            obtain ⟨taken, flushed⟩ :=
              inductionHypothesis apart.of_write next reporters
            exact ⟨bytes ++ taken, flushed.write written same blame⟩
          · rw [wrote] at same
            rw [run_write_of_error _ _ _ wrote]
            have none : (flushOffsets (.write bytes blame :: rest)).filter
                (· ≤ taken.length) = [] := by
              rw [flushOffsets_write, filter_map_add_eq_nil _ short]
            exact ⟨taken, .of_stopped written
              (isPrefix.trans (List.prefix_append _ _)) none (Nat.zero_le _)
              same.calls same.flushes⟩
      | flush blame =>
          have ordered := List.pairwise_cons.1 apart
          rcases sink.flush_cases with
            ⟨next, flushed, sameBytes, counted, noted⟩ |
              ⟨cause, next, flushed, sameBytes, counted, noted⟩
          · rw [run_flush_of_ok _ _ _ flushed]
            obtain ⟨taken, further⟩ :=
              inductionHypothesis ordered.2 next reporters
            exact ⟨taken, further.flush sameBytes counted noted blame⟩
          · rw [run_flush_of_error _ _ _ flushed]
            -- The flushes further on are past bytes that were not written.
            have one : (flushOffsets (.flush blame :: rest)).filter
                (· ≤ ([] : List UInt8).length) = [0] := by
              rw [flushOffsets_flush, List.filter_cons_of_pos (by simp),
                List.cons_inj_right, List.filter_eq_nil_iff]
              intro offset member
              have later := ordered.1 offset member
              rw [decide_eq_true_eq, List.length_nil]
              omega
            exact ⟨[], .of_stopped (by rw [sameBytes, List.append_nil])
              List.nil_prefix one (Nat.le_refl _) counted noted⟩
      | fail failure =>
          exact ⟨[], .of_stopped (List.append_nil _).symm List.nil_prefix rfl
            (Nat.zero_le _) rfl rfl⟩

end Plan
end ArgReport
