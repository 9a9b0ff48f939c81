import ArgReport.Sink.Fault
import ArgReport.Sink.Refusal

/-!
# A sink of bytes

A sink takes bytes in order. It may take only a few of those it is offered,
take none, or refuse, and what it does is settled by the faults that wait along
its output. A flush asks it to pass on what it has, and may be refused too.

One write takes what the sink accepts at once. `writeAll` goes on until
everything is accepted: it tries again after an interruption, and any other
refusal, or a write that accepts nothing, ends it. Each try either shortens the
bytes that remain or spends a fault, so the loop comes to an end.
-/

namespace ArgReport

/-- What a fault does to a write. -/
inductive WriteEffect
  /-- The write accepts nothing and does not say why. -/
  | stall
  /-- The write is refused. -/
  | refuse (refusal : Refusal)
  deriving DecidableEq, Repr

/-- The fault is over once it has been retried. -/
def WriteEffect.IsTransient : WriteEffect -> Prop
  | .stall => False
  | .refuse refusal => refusal.IsInterruption

instance (effect : WriteEffect) : Decidable effect.IsTransient :=
  match effect with
  | .stall => isFalse id
  | .refuse refusal => inferInstanceAs (Decidable refusal.IsInterruption)

/-- Why a text could not be handed over. -/
inductive SinkError
  /-- A write or a flush was refused. -/
  | refused (refusal : Refusal)
  /-- A write accepted nothing. -/
  | stalled
  deriving DecidableEq, Repr

/-- The text of the error. -/
def SinkError.message : SinkError -> String
  | .refused refusal => refusal.message
  | .stalled => "failed to write whole buffer"

/-- A sink: what it has accepted, and how it will behave. -/
structure Sink where
  /-- The bytes accepted so far. -/
  accepted : Array UInt8 := #[]
  /-- The most bytes that one write may accept, if there is a limit. -/
  chunk : Option Nat := none
  /-- Faults of writes, by position in the output. -/
  faults : List (Fault WriteEffect) := []
  /-- Faults of flushes, by number of the call. -/
  flushFaults : List (Fault Refusal) := []
  /-- Flushes asked for so far, refused ones included. -/
  flushCalls : Nat := 0
  /-- The positions that were flushed, in order. -/
  flushes : List Nat := []
  deriving DecidableEq, Repr

namespace Sink

/-- The bytes that a sink holds. -/
def bytes (sink : Sink) : List UInt8 :=
  sink.accepted.toList

/-- How many bytes a sink holds. -/
def position (sink : Sink) : Nat :=
  sink.accepted.size

@[simp] theorem length_bytes (sink : Sink) :
    sink.bytes.length = sink.position := by
  simp [bytes, position]

/-- The limits of a write at the present position: the chunk, and the distance
to each fault that still waits further on. -/
def limits (sink : Sink) : List Nat :=
  let ahead := sink.faults.filter fun fault =>
    0 < fault.times ∧ sink.position < fault.place
  sink.chunk.toList ++ ahead.map fun fault => fault.place - sink.position

/-- The part of some bytes that one write accepts when no fault strikes. -/
def portion (sink : Sink) (bytes : List UInt8) : List UInt8 :=
  match sink.limits.min? with
  | none => bytes
  | some limit => bytes.take limit

/-- The sink with more bytes accepted. -/
def accept (sink : Sink) (bytes : List UInt8) : Sink :=
  { sink with accepted := sink.accepted ++ bytes }

@[simp] theorem bytes_accept (sink : Sink) (bytes : List UInt8) :
    (sink.accept bytes).bytes = sink.bytes ++ bytes := by
  simp [accept, Sink.bytes]

@[simp] theorem position_accept (sink : Sink) (bytes : List UInt8) :
    (sink.accept bytes).position = sink.position + bytes.length := by
  simp [← length_bytes]

@[simp] theorem faults_accept (sink : Sink) (bytes : List UInt8) :
    (sink.accept bytes).faults = sink.faults := rfl

/-- Offer bytes once. The answer is how many of them were accepted. No bytes
are no offer. -/
def write (bytes : List UInt8) : EStateM Refusal Sink Nat := fun sink =>
  if bytes.isEmpty then
    .ok 0 sink
  else
    match Fault.strike? sink.position sink.faults with
    | some (.stall, left) => .ok 0 { sink with faults := left }
    | some (.refuse refusal, left) =>
        .error refusal { sink with faults := left }
    | none =>
        let portion := sink.portion bytes
        .ok portion.length (sink.accept portion)

/-- A write that accepts something strikes no fault. -/
theorem faults_of_write_ok
    {bytes : List UInt8}
    {sink next : Sink}
    {count : Nat}
    (wrote : write bytes sink = .ok count next)
    (positive : 0 < count) :
    next.faults = sink.faults := by
  unfold write at wrote
  repeat' split at wrote
  all_goals cases wrote <;> simp_all

/-- A refused write spends a fault. -/
theorem budget_of_write_error
    {bytes : List UInt8}
    {sink next : Sink}
    {refusal : Refusal}
    (wrote : write bytes sink = .error refusal next) :
    Fault.budget next.faults + 1 = Fault.budget sink.faults := by
  unfold write at wrote
  repeat' split at wrote
  all_goals cases wrote
  exact Fault.budget_of_strike? (by assumption)

/-- Offer bytes until all of them are accepted. -/
def writeAll
    (bytes : List UInt8)
    (sink : Sink) :
    EStateM.Result SinkError Sink Unit :=
  if bytes.isEmpty then
    .ok () sink
  else
    match outcome : write bytes sink with
    | .ok 0 next => .error .stalled next
    | .ok (count + 1) next => writeAll (bytes.drop (count + 1)) next
    | .error refusal next =>
        if refusal.IsInterruption then
          writeAll bytes next
        else
          .error (.refused refusal) next
termination_by bytes.length + Fault.budget sink.faults
decreasing_by
  · have same := faults_of_write_ok outcome (Nat.succ_pos count)
    have nonempty : 0 < bytes.length :=
      List.length_pos_iff.2 (by simp_all)
    rw [same, List.length_drop]
    omega
  · have spent := budget_of_write_error outcome
    omega

@[simp] theorem writeAll_nil (sink : Sink) :
    writeAll [] sink = .ok () sink := by
  simp [writeAll]

/-- Write fragments one after another, each to its end. The first error ends
it. -/
def writeEach (fragments : List (List UInt8)) : EStateM SinkError Sink Unit :=
  fragments.forM writeAll

/-- Ask the sink to pass on what it has. A refusal is final. -/
def flush : EStateM SinkError Sink Unit := fun sink =>
  match Fault.strike? sink.flushCalls sink.flushFaults with
  | some (refusal, left) =>
      .error (.refused refusal)
        { sink with
          flushFaults := left
          flushCalls := sink.flushCalls + 1 }
  | none =>
      .ok ()
        { sink with
          flushCalls := sink.flushCalls + 1
          flushes := sink.flushes ++ [sink.position] }

end Sink
end ArgReport
