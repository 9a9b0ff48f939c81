import ArgReport.Proofs.Sink.Hard
import ArgReport.Sink.Lemmas

/-!
# The outcome of a write

What `writeAll` does is told here without its loop. On a sink whose chunk is not
zero, all bytes are taken if no hard fault waits along them. Otherwise the bytes
before the nearest one are, and its effect is the error. A sink whose chunk is
zero takes nothing, and does not say why unless a hard fault does.

The argument goes one place at a time. `writeAll_retried` gets past the retries at
a place in one step. A single byte is then within every limit, so it is taken
unless a hard fault waits, and `writeAll_append` puts the bytes together again.
So the chunk appears nowhere in the outcome.
-/

namespace ArgReport

/-- The error that a hard fault ends a write with. -/
def WriteEffect.error : WriteEffect -> SinkError
  | .stall => .stalled
  | .refuse refusal => .refused refusal

namespace Sink

/-- The effect of the first hard fault that waits a distance further on. -/
def barrier? (sink : Sink) (distance : Nat) : Option WriteEffect :=
  (Fault.strike? (sink.position + distance) (Fault.hard sink.faults)).map
    Prod.fst

/-- No hard fault waits less than a distance further on. -/
def ClearFor (sink : Sink) (distance : Nat) : Prop :=
  ∀ nearer < distance, sink.barrier? nearer = none

/-- The sink after it has taken bytes and got past whatever waited along
them. -/
def carry (sink : Sink) (bytes : List UInt8) : Sink :=
  { sink.accept bytes with
    faults := Fault.sweep sink.position (sink.position + bytes.length)
      sink.faults }

/-- The sink after a hard fault at its position has ended a write. -/
def halt (sink : Sink) : Sink :=
  { sink with faults := Fault.collide sink.position sink.faults }

@[simp] theorem bytes_carry (sink : Sink) (bytes : List UInt8) :
    (sink.carry bytes).bytes = sink.bytes ++ bytes :=
  sink.bytes_accept bytes

@[simp] theorem bytes_halt (sink : Sink) : sink.halt.bytes = sink.bytes := rfl

@[simp] theorem position_carry (sink : Sink) (bytes : List UInt8) :
    (sink.carry bytes).position = sink.position + bytes.length :=
  sink.position_accept bytes

@[simp] theorem position_halt (sink : Sink) :
    sink.halt.position = sink.position := rfl

@[simp] theorem hard_faults_carry (sink : Sink) (bytes : List UInt8) :
    Fault.hard (sink.carry bytes).faults = Fault.hard sink.faults :=
  Fault.hard_sweep _ _ _

@[simp] theorem chunk_carry (sink : Sink) (bytes : List UInt8) :
    (sink.carry bytes).chunk = sink.chunk := rfl

@[simp] theorem chunk_halt (sink : Sink) : sink.halt.chunk = sink.chunk := rfl

@[simp] theorem flushFaults_carry (sink : Sink) (bytes : List UInt8) :
    (sink.carry bytes).flushFaults = sink.flushFaults := rfl

@[simp] theorem flushFaults_halt (sink : Sink) :
    sink.halt.flushFaults = sink.flushFaults := rfl

@[simp] theorem flushCalls_carry (sink : Sink) (bytes : List UInt8) :
    (sink.carry bytes).flushCalls = sink.flushCalls := rfl

@[simp] theorem flushCalls_halt (sink : Sink) :
    sink.halt.flushCalls = sink.flushCalls := rfl

@[simp] theorem flushes_carry (sink : Sink) (bytes : List UInt8) :
    (sink.carry bytes).flushes = sink.flushes := rfl

@[simp] theorem flushes_halt (sink : Sink) :
    sink.halt.flushes = sink.flushes := rfl

@[simp] theorem carry_nil (sink : Sink) : sink.carry [] = sink := by
  simp [carry, accept]

@[simp] theorem carry_carry
    (sink : Sink)
    (first second : List UInt8) :
    (sink.carry first).carry second = sink.carry (first ++ second) := by
  have faults :
      Fault.sweep (sink.position + first.length)
          (sink.position + first.length + second.length)
          (Fault.sweep sink.position (sink.position + first.length)
            sink.faults) =
        Fault.sweep sink.position
          (sink.position + (first ++ second).length) sink.faults := by
    rw [Fault.sweep_sweep (by omega) (by omega), List.length_append,
      Nat.add_assoc]
  have accepted := congrArg Sink.accepted (sink.accept_accept first second)
  have moved := sink.position_carry first
  unfold carry at moved ⊢
  rw [moved, faults]
  exact congrArg
    (fun bytes : Array UInt8 =>
      { sink with
        accepted := bytes
        faults := Fault.sweep sink.position
          (sink.position + (first ++ second).length) sink.faults })
    accepted

@[simp] theorem barrier?_carry
    (sink : Sink)
    (bytes : List UInt8)
    (distance : Nat) :
    (sink.carry bytes).barrier? distance =
      sink.barrier? (bytes.length + distance) := by
  rw [barrier?, barrier?, position_carry, hard_faults_carry, Nat.add_assoc]

/-- A fault that waits some way further on waits at once after the bytes up to
there. -/
theorem barrier?_carry_take
    {sink : Sink}
    {bytes : List UInt8}
    {distance : Nat}
    {effect : WriteEffect}
    (waits : sink.barrier? distance = some effect)
    (inside : distance < bytes.length) :
    (sink.carry (bytes.take distance)).barrier? 0 = some effect := by
  rw [barrier?_carry, List.length_take_of_le (Nat.le_of_lt inside),
    Nat.add_zero, waits]

/-- What is clear past some bytes is clear along them, and then from where they
end. -/
theorem clearFor_add_iff
    {sink : Sink}
    {bytes : List UInt8}
    {distance : Nat} :
    sink.ClearFor (bytes.length + distance) ↔
      sink.ClearFor bytes.length ∧ (sink.carry bytes).ClearFor distance := by
  constructor
  · intro clear
    refine ⟨fun nearer inside => clear nearer (by omega), ?_⟩
    intro nearer inside
    rw [barrier?_carry]
    exact clear _ (by omega)
  · rintro ⟨here, beyond⟩ nearer inside
    by_cases along : nearer < bytes.length
    · exact here nearer along
    · have further := beyond (nearer - bytes.length) (by omega)
      rw [barrier?_carry, Nat.add_sub_cancel' (Nat.le_of_not_lt along)]
        at further
      exact further

/-! ## One byte -/

/-- A single byte is within every limit. -/
theorem one_le_limit
    {sink : Sink}
    (chunk : sink.chunk ≠ some 0)
    {limit : Nat}
    (member : limit ∈ sink.limits) :
    1 ≤ limit := by
  rcases mem_limits.1 member with isChunk | ⟨fault, _, _, ahead, rfl⟩
  · apply Nat.pos_of_ne_zero
    intro zero
    exact chunk (by rw [isChunk, zero])
  · omega

/-- The sink after whatever transient faults wait at its position have been used
up. -/
def retried (sink : Sink) : Sink :=
  { sink with
    faults := Fault.sweep sink.position (sink.position + 1) sink.faults }

theorem retried_of_free
    {sink : Sink}
    (free : Fault.strike? sink.position sink.faults = none) :
    sink.retried = sink := by
  have absent := Fault.strike?_eq_none_iff.1 free
  rw [retried, Fault.sweep_of_absent]
  intro fault member place lower upper
  have here : place = sink.position := by omega
  rw [here]
  exact absent fault member

/-- Where no hard fault waits, nothing is left to strike after the retries. -/
theorem strike?_retried
    {sink : Sink}
    (clear : sink.barrier? 0 = none) :
    Fault.strike? sink.retried.position sink.retried.faults = none := by
  rw [barrier?, Nat.add_zero, Option.map_eq_none_iff,
    Fault.strike?_eq_none_iff] at clear
  rw [Fault.strike?_eq_none_iff]
  intro swept member awaits
  obtain ⟨fault, inFaults, rfl⟩ := List.mem_map.1 member
  have here : fault.place = sink.position := by
    rw [← Fault.place_crossed sink.position (sink.position + 1) fault]
    exact awaits.1
  by_cases isHard : fault.IsHard
  · rw [Fault.crossed_of_isHard isHard] at awaits
    exact clear fault
      (List.mem_filter.2 ⟨inFaults, decide_eq_true isHard⟩) awaits
  · have inside : fault.effect.IsTransient ∧ sink.position ≤ fault.place ∧
        fault.place < sink.position + 1 :=
      ⟨Decidable.not_not.1 isHard, by omega, by omega⟩
    rw [Fault.crossed, if_pos inside] at awaits
    exact Nat.lt_irrefl 0 awaits.2

/-- Retries at a place change nothing that the rest of the write depends on. So
the first hard fault that waits there ends the write, and if there is none the
write goes on as if nothing had waited. -/
theorem writeAll_retried
    {bytes : List UInt8}
    (nonempty : bytes ≠ [])
    (sink : Sink) :
    writeAll bytes sink =
      match sink.barrier? 0 with
      | none => writeAll bytes sink.retried
      | some effect => .error effect.error sink.halt := by
  induction size : Fault.budget sink.faults using Nat.strongRecOn
      generalizing sink with
  | _ size inductionHypothesis =>
      subst size
      cases struck : Fault.strike? sink.position sink.faults with
      | none =>
          have clear : sink.barrier? 0 = none := by
            rw [barrier?, Nat.add_zero, Option.map_eq_none_iff,
              Fault.strike?_eq_none_iff]
            intro fault member
            exact Fault.strike?_eq_none_iff.1 struck fault
              (List.mem_filter.1 member).1
          rw [clear, retried_of_free struck]
      | some hit =>
          obtain ⟨effect, left⟩ := hit
          by_cases transient : effect.IsTransient
          · cases effect with
            | stall => exact False.elim transient
            | refuse refusal =>
                have spent := Fault.budget_of_strike? struck
                have further := inductionHypothesis _ (by simp only; omega)
                  { sink with faults := left } rfl
                have sameHard := Fault.hard_of_isTransient struck transient
                have sameBarrier :
                    ({ sink with faults := left } : Sink).barrier? 0 =
                      sink.barrier? 0 :=
                  congrArg
                    (fun faults =>
                      (Fault.strike? (sink.position + 0) faults).map Prod.fst)
                    sameHard
                have sameRetried :
                    ({ sink with faults := left } : Sink).retried =
                      sink.retried :=
                  congrArg (fun faults => { sink with faults })
                    (Fault.sweep_of_isTransient struck transient
                      (Nat.le_refl _) (Nat.lt_add_one _))
                have sameHalt :
                    ({ sink with faults := left } : Sink).halt = sink.halt :=
                  congrArg (fun faults => { sink with faults })
                    (Fault.collide_of_isTransient struck transient)
                have again : refusal.IsInterruption := transient
                rw [writeAll_of_refuse nonempty struck, if_pos again,
                  further, sameBarrier, sameRetried, sameHalt]
          · obtain ⟨hardStruck, sameCollide⟩ :=
              Fault.strike?_hard_of_isHard struck transient
            have blocked : sink.barrier? 0 = some effect := by
              rw [barrier?, Nat.add_zero, hardStruck]
              rfl
            rw [blocked, halt, sameCollide]
            cases effect with
            | stall => exact writeAll_of_stall nonempty struck
            | refuse refusal =>
                have final : ¬refusal.IsInterruption := transient
                rw [writeAll_of_refuse nonempty struck, if_neg final]
                rfl

/-- A byte is taken unless a hard fault waits. -/
theorem writeAll_singleton
    (byte : UInt8)
    (sink : Sink)
    (chunk : sink.chunk ≠ some 0) :
    writeAll [byte] sink =
      match sink.barrier? 0 with
      | none => .ok () (sink.carry [byte])
      | some effect => .error effect.error sink.halt := by
  rw [writeAll_retried (by simp)]
  cases blocked : sink.barrier? 0 with
  | none =>
      have stillTakes : sink.retried.chunk ≠ some 0 := chunk
      exact writeAll_of_within (strike?_retried blocked) fun limit member =>
        one_le_limit stillTakes member
  | some effect => rfl

/-- A sink whose chunk is zero takes nothing. -/
theorem writeAll_of_chunk_zero
    {bytes : List UInt8}
    (nonempty : bytes ≠ [])
    {sink : Sink}
    (chunk : sink.chunk = some 0) :
    writeAll bytes sink =
      match sink.barrier? 0 with
      | none => .error .stalled sink.retried
      | some effect => .error effect.error sink.halt := by
  rw [writeAll_retried nonempty]
  cases blocked : sink.barrier? 0 with
  | none =>
      have zero : 0 ∈ sink.retried.limits := mem_limits.2 (.inl chunk)
      have nothing : sink.retried.portion bytes = [] := by
        unfold portion
        cases least : sink.retried.limits.min? with
        | none =>
            rw [List.min?_eq_none_iff.1 least] at zero
            cases zero
        | some limit =>
            have lower := (List.min?_eq_some_iff.1 least).2 0 zero
            rw [Nat.le_zero.1 lower]
            exact List.take_zero
      simp only
      rw [writeAll_of_free nonempty (strike?_retried blocked),
        if_pos nothing]
  | some effect => rfl

/-! ## Any bytes -/

/-- Where no hard fault waits along the bytes, all of them are taken. -/
theorem writeAll_of_clear
    {sink : Sink}
    {bytes : List UInt8}
    (chunk : sink.chunk ≠ some 0)
    (clear : sink.ClearFor bytes.length) :
    writeAll bytes sink = .ok () (sink.carry bytes) := by
  induction bytes generalizing sink with
  | nil => simp
  | cons byte rest inductionHypothesis =>
      have parts : (byte :: rest).length = [byte].length + rest.length := by
        rw [List.length_cons, List.length_singleton, Nat.add_comm]
      rw [parts] at clear
      obtain ⟨here, beyond⟩ := clearFor_add_iff.1 clear
      have first := writeAll_singleton byte sink chunk
      rw [here 0 (by simp)] at first
      rw [← List.singleton_append, writeAll_append]
      simp only [bind, EStateM.bind, first]
      rw [inductionHypothesis (by simpa using chunk) beyond, carry_carry]

/-- The nearest hard fault along the bytes ends the write. -/
theorem writeAll_of_barrier
    {sink : Sink}
    {bytes : List UInt8}
    {distance : Nat}
    {effect : WriteEffect}
    (chunk : sink.chunk ≠ some 0)
    (clear : sink.ClearFor distance)
    (blocked : sink.barrier? distance = some effect)
    (inside : distance < bytes.length) :
    writeAll bytes sink =
      .error effect.error (sink.carry (bytes.take distance)).halt := by
  have reached : (bytes.take distance).length = distance :=
    List.length_take_of_le (Nat.le_of_lt inside)
  have taken : writeAll (bytes.take distance) sink =
      .ok () (sink.carry (bytes.take distance)) :=
    writeAll_of_clear chunk (by rw [reached]; exact clear)
  have struck := writeAll_singleton bytes[distance]
    (sink.carry (bytes.take distance)) (by simpa using chunk)
  rw [barrier?_carry_take blocked inside] at struck
  have parts : bytes = bytes.take distance ++
      ([bytes[distance]] ++ bytes.drop (distance + 1)) := by
    rw [List.singleton_append, ← List.drop_eq_getElem_cons inside,
      List.take_append_drop]
  conv_lhs => rw [parts]
  rw [writeAll_append]
  simp only [bind, EStateM.bind, taken]
  rw [writeAll_append]
  simp only [bind, EStateM.bind, struck]

/-- Either a distance is clear, or there is a nearest hard fault within it. -/
theorem clearFor_or_barrier (sink : Sink) (length : Nat) :
    sink.ClearFor length ∨
      ∃ distance effect, distance < length ∧ sink.ClearFor distance ∧
        sink.barrier? distance = some effect := by
  induction length with
  | zero =>
      refine .inl fun nearer inside => ?_
      omega
  | succ length inductionHypothesis =>
      rcases inductionHypothesis with clear | ⟨distance, effect, inside, found⟩
      · cases last : sink.barrier? length with
        | none =>
            refine .inl fun nearer inside => ?_
            by_cases same : nearer = length
            · rw [same]
              exact last
            · exact clear nearer (by omega)
        | some effect =>
            exact .inr ⟨length, effect, Nat.lt_add_one _, clear, last⟩
      · exact .inr ⟨distance, effect, by omega, found⟩

/-! ## Flushes -/

/-- The refusal that waits for a flush, counted from the next one on. -/
def refusal? (sink : Sink) (number : Nat) : Option Refusal :=
  (Fault.strike? (sink.flushCalls + number) sink.flushFaults).map Prod.fst

/-- The sink after a flush that was not refused. -/
def flushed (sink : Sink) : Sink :=
  { sink with
    flushCalls := sink.flushCalls + 1
    flushes := sink.flushes ++ [sink.position] }

@[simp] theorem bytes_flushed (sink : Sink) :
    sink.flushed.bytes = sink.bytes := rfl

@[simp] theorem position_flushed (sink : Sink) :
    sink.flushed.position = sink.position := rfl

@[simp] theorem faults_flushed (sink : Sink) :
    sink.flushed.faults = sink.faults := rfl

@[simp] theorem chunk_flushed (sink : Sink) :
    sink.flushed.chunk = sink.chunk := rfl

@[simp] theorem flushes_flushed (sink : Sink) :
    sink.flushed.flushes = sink.flushes ++ [sink.position] := rfl

@[simp] theorem barrier?_flushed (sink : Sink) (distance : Nat) :
    sink.flushed.barrier? distance = sink.barrier? distance := rfl

@[simp] theorem clearFor_flushed_iff {sink : Sink} {distance : Nat} :
    sink.flushed.ClearFor distance ↔ sink.ClearFor distance := Iff.rfl

@[simp] theorem refusal?_carry
    (sink : Sink)
    (bytes : List UInt8)
    (number : Nat) :
    (sink.carry bytes).refusal? number = sink.refusal? number := rfl

@[simp] theorem refusal?_flushed (sink : Sink) (number : Nat) :
    sink.flushed.refusal? number = sink.refusal? (number + 1) := by
  simp only [refusal?, flushed]
  rw [Nat.add_assoc, Nat.add_comm 1 number]

theorem flush_of_free
    {sink : Sink}
    (free : sink.refusal? 0 = none) :
    flush sink = .ok () sink.flushed := by
  rw [refusal?, Nat.add_zero, Option.map_eq_none_iff] at free
  simp [flush, free, flushed]

theorem flush_of_refusal
    {sink : Sink}
    {refusal : Refusal}
    (waits : sink.refusal? 0 = some refusal) :
    ∃ left,
      Fault.strike? sink.flushCalls sink.flushFaults = some (refusal, left) ∧
        flush sink = .error (.refused refusal)
          { sink with
            flushFaults := left
            flushCalls := sink.flushCalls + 1 } := by
  rw [refusal?, Nat.add_zero, Option.map_eq_some_iff] at waits
  obtain ⟨⟨effect, left⟩, struck, rfl⟩ := waits
  exact ⟨left, struck, by simp [flush, struck]⟩

end Sink
end ArgReport
