import ArgReport.Sink.Basic

/-!
# Writing in parts

The first half says what one round of `writeAll` does, by what waits at the
present position: a stall or a refusal that is no interruption ends it, an
interruption costs a strike, and otherwise the accepted part is left behind.

The main statement is `writeAll_append`: writing two sequences of bytes one
after the other is writing them as one. Where the sink stops, what it accepts
and which faults it spends do not depend on how the bytes were cut.
-/

namespace ArgReport
namespace Sink

/-! ## One round -/

/-- A stall ends the writing with nothing taken. -/
theorem writeAll_of_stall
    {bytes : List UInt8}
    {sink : Sink}
    {left : List (Fault WriteEffect)}
    (nonempty : bytes ≠ [])
    (struck : Fault.strike? sink.position sink.faults = some (.stall, left)) :
    writeAll bytes sink = .error .stalled { sink with faults := left } := by
  rw [writeAll, if_neg (by simpa using nonempty)]
  split <;> simp_all [write]

/-- An interruption only spends a strike. Any other refusal is final. -/
theorem writeAll_of_refuse
    {bytes : List UInt8}
    {sink : Sink}
    {refusal : Refusal}
    {left : List (Fault WriteEffect)}
    (nonempty : bytes ≠ [])
    (struck : Fault.strike? sink.position sink.faults =
      some (.refuse refusal, left)) :
    writeAll bytes sink =
      if refusal.IsInterruption then
        writeAll bytes { sink with faults := left }
      else
        .error (.refused refusal) { sink with faults := left } := by
  rw [writeAll, if_neg (by simpa using nonempty)]
  split <;> simp_all [write]

/-- Where no fault strikes, the sink takes its portion and the rest is left. -/
theorem writeAll_of_free
    {bytes : List UInt8}
    {sink : Sink}
    (nonempty : bytes ≠ [])
    (free : Fault.strike? sink.position sink.faults = none) :
    writeAll bytes sink =
      if sink.portion bytes = [] then
        .error .stalled sink
      else
        writeAll (bytes.drop (sink.portion bytes).length)
          (sink.accept (sink.portion bytes)) := by
  have wrote : write bytes sink =
      .ok (sink.portion bytes).length (sink.accept (sink.portion bytes)) := by
    simp [write, nonempty, free]
  rw [writeAll, if_neg (by simpa using nonempty)]
  split
  · rename_i next outcome
    rw [wrote] at outcome
    injection outcome with nothing same
    have nothingTaken : sink.portion bytes = [] :=
      List.eq_nil_of_length_eq_zero nothing
    rw [if_pos nothingTaken, ← same, nothingTaken]
    simp [accept]
  · rename_i count next outcome
    rw [wrote] at outcome
    injection outcome with counted same
    have something : sink.portion bytes ≠ [] :=
      List.ne_nil_of_length_eq_add_one counted
    rw [if_neg something, counted, same]
  · rename_i outcome
    rw [wrote] at outcome
    cases outcome

/-! ## Bytes within reach -/

@[simp] theorem accept_accept
    (sink : Sink)
    (first second : List UInt8) :
    (sink.accept first).accept second = sink.accept (first ++ second) := by
  unfold accept
  congr 1
  apply Array.toList_inj.1
  simp

/-- A limit is the chunk or the distance to a fault that waits further on. -/
theorem mem_limits
    {sink : Sink}
    {limit : Nat} :
    limit ∈ sink.limits ↔
      sink.chunk = some limit ∨
        ∃ fault ∈ sink.faults,
          0 < fault.times ∧ sink.position < fault.place ∧
            fault.place - sink.position = limit := by
  simp [limits, and_assoc]

/-- Bytes within every limit are accepted at once. -/
theorem portion_of_within
    {sink : Sink}
    {bytes : List UInt8}
    (within : ∀ limit ∈ sink.limits, bytes.length ≤ limit) :
    sink.portion bytes = bytes := by
  unfold portion
  split
  · rfl
  · rename_i limit least
    exact List.take_of_length_le (within limit (List.min?_mem least))

/-- Bytes within every limit are written where no fault strikes. -/
theorem writeAll_of_within
    {sink : Sink}
    {bytes : List UInt8}
    (free : Fault.strike? sink.position sink.faults = none)
    (within : ∀ limit ∈ sink.limits, bytes.length ≤ limit) :
    writeAll bytes sink = .ok () (sink.accept bytes) := by
  by_cases empty : bytes = []
  · subst empty
    simp [accept]
  · rw [writeAll_of_free empty free, portion_of_within within, if_neg empty,
      List.drop_length, writeAll_nil]

/-- Strictly before every limit no fault waits. -/
theorem strike?_accept_eq_none
    {sink : Sink}
    {bytes : List UInt8}
    (free : Fault.strike? sink.position sink.faults = none)
    (before : ∀ limit ∈ sink.limits, bytes.length < limit) :
    Fault.strike? (sink.accept bytes).position (sink.accept bytes).faults =
      none := by
  rw [Fault.strike?_eq_none_iff] at free ⊢
  intro fault member awaits
  have unmoved := free fault member
  obtain ⟨here, positive⟩ := awaits
  rw [position_accept] at here
  by_cases ahead : sink.position < fault.place
  · have far := before (fault.place - sink.position)
      (mem_limits.2 (.inr ⟨fault, member, positive, ahead, rfl⟩))
    omega
  · exact unmoved ⟨by omega, positive⟩

/-- After some bytes, each limit is a limit of before, or less by those bytes. -/
theorem exists_limit_of_accept
    {sink : Sink}
    {bytes : List UInt8}
    {limit : Nat}
    (member : limit ∈ (sink.accept bytes).limits) :
    ∃ former ∈ sink.limits, former ≤ limit + bytes.length := by
  rw [mem_limits] at member
  obtain chunk | ⟨fault, waiting, positive, ahead, rfl⟩ := member
  · exact ⟨limit, mem_limits.2 (.inl chunk), by omega⟩
  · rw [position_accept] at ahead ⊢
    refine ⟨fault.place - sink.position, mem_limits.2 (.inr ?_), by omega⟩
    exact ⟨fault, waiting, positive, by omega, rfl⟩

/-! ## Two parts -/

/-- Where the first part reaches no limit, a write that takes all of it takes as
much of the second part as the limits leave. -/
theorem portion_append_of_lt
    {sink : Sink}
    {first : List UInt8}
    (before : ∀ limit ∈ sink.limits, first.length < limit)
    (second : List UInt8) :
    ∃ count, sink.portion (first ++ second) = first ++ second.take count ∧
      ∀ limit ∈ (sink.accept first).limits,
        (second.take count).length ≤ limit := by
  cases least : sink.limits.min? with
  | none =>
      refine ⟨second.length, ?_, ?_⟩
      · simp [portion, least]
      · intro limit member
        obtain ⟨former, formerMember, _⟩ := exists_limit_of_accept member
        rw [List.min?_eq_none_iff.1 least] at formerMember
        cases formerMember
  | some minimum =>
      have isLeast := List.min?_eq_some_iff.1 least
      have reached := before minimum isLeast.1
      refine ⟨minimum - first.length, ?_, ?_⟩
      · simp only [portion, least]
        rw [List.take_append, List.take_of_length_le (Nat.le_of_lt reached)]
      · intro limit member
        obtain ⟨former, formerMember, bound⟩ := exists_limit_of_accept member
        have smaller := isLeast.2 former formerMember
        rw [List.length_take]
        omega

/-- Where the first part reaches a limit, a write takes none of the second. -/
theorem portion_append_of_le
    {sink : Sink}
    {first : List UInt8}
    {limit : Nat}
    (member : limit ∈ sink.limits)
    (reached : limit ≤ first.length)
    (second : List UInt8) :
    sink.portion (first ++ second) = sink.portion first := by
  cases least : sink.limits.min? with
  | none =>
      rw [List.min?_eq_none_iff.1 least] at member
      cases member
  | some minimum =>
      have smaller := (List.min?_eq_some_iff.1 least).2 limit member
      simp only [portion, least]
      exact List.take_append_of_le_length (by omega)

/-- A write takes no more than it is offered. -/
theorem length_portion_le (sink : Sink) (bytes : List UInt8) :
    (sink.portion bytes).length ≤ bytes.length := by
  unfold portion
  split
  · exact Nat.le_refl _
  · exact List.length_take_le' _ _

/-- Writing two sequences one after the other is writing them as one. -/
theorem writeAll_append (first second : List UInt8) (sink : Sink) :
    writeAll (first ++ second) sink =
      (do writeAll first; writeAll second : EStateM SinkError Sink Unit)
        sink := by
  simp only [bind, EStateM.bind]
  induction size :
      first.length + second.length + Fault.budget sink.faults
      using Nat.strongRecOn generalizing first second sink with
  | _ size inductionHypothesis =>
      subst size
      by_cases empty : first = []
      · simp [empty]
      have whole : first ++ second ≠ [] := by simp [empty]
      have positive : 0 < first.length := List.length_pos_iff.2 empty
      cases struck : Fault.strike? sink.position sink.faults with
      | some hit =>
          obtain ⟨effect, left⟩ := hit
          have spent := Fault.budget_of_strike? struck
          cases effect with
          | stall =>
              rw [writeAll_of_stall whole struck,
                writeAll_of_stall empty struck]
          | refuse refusal =>
              rw [writeAll_of_refuse whole struck,
                writeAll_of_refuse empty struck]
              split
              · exact inductionHypothesis _ (by simp only; omega)
                  first second { sink with faults := left } rfl
              · rfl
      | none =>
          by_cases before : ∀ limit ∈ sink.limits, first.length < limit
          · have within : ∀ limit ∈ sink.limits, first.length ≤ limit :=
              fun limit member => Nat.le_of_lt (before limit member)
            obtain ⟨count, taken, rest⟩ := portion_append_of_lt before second
            have free := strike?_accept_eq_none struck before
            have cut := inductionHypothesis _
              (by
                rw [List.length_take, List.length_drop, faults_accept]
                omega)
              (second.take count) (second.drop count) (sink.accept first) rfl
            rw [List.take_append_drop, writeAll_of_within free rest,
              accept_accept] at cut
            have parts : first ++ second =
                first ++ second.take count ++ second.drop count := by
              rw [List.append_assoc, List.take_append_drop]
            have left : (first ++ second).drop
                (first ++ second.take count).length = second.drop count := by
              rw [parts, List.drop_left]
            rw [writeAll_of_within struck within, writeAll_of_free whole struck,
              taken, if_neg (by simp [empty]), left]
            exact cut.symm
          · obtain ⟨limit, member, reached⟩ :
                ∃ limit ∈ sink.limits, limit ≤ first.length := by
              simpa using before
            have taken := portion_append_of_le member reached second
            rw [writeAll_of_free whole struck, writeAll_of_free empty struck,
              taken]
            split
            · rfl
            · rename_i something
              have nonzero := List.length_pos_iff.2 something
              have shorter := sink.length_portion_le first
              rw [List.drop_append_of_le_length shorter]
              exact inductionHypothesis _
                (by
                  rw [List.length_drop, faults_accept]
                  omega)
                _ _ _ rfl

end Sink
end ArgReport
