import ArgReport.Proofs.FlushPositions
import ArgReport.Proofs.Sink.Stopped

/-!
# What a single text leaves behind

A line, a border and a notice hand one text to the sink. Whatever faults wait
there, in whatever order they are listed, the desk that such a step leaves can be
told beforehand: how much of the text was taken, how many times every fault has
left, and what the step answers.

A sink whose chunk is zero fits in. It comes to one place only, its position, and
after the retries there it stalls.
-/

namespace ArgReport

namespace Step

/-- The text of a step that does nothing but hand it over. -/
def text? : Step -> Option String
  | .line builtin argument => some (builtin.line argument)
  | .notice text => some text
  | .border => some borderLine
  | .consult _ _ | .report _ _ _ | .check _ => none

/-- How the step tells that its text was not taken. -/
def sinkError : Step -> SinkError -> StepError
  | .line builtin _, cause => .reporter (.line builtin cause)
  | .consult _ _, cause | .notice _, cause | .border, cause
  | .report _ _ _, cause | .check _, cause => .sink cause

/-- What stands before the words of the sink in that error. -/
def opening : Step -> String
  | .line builtin _ => builtin.label ++ " write: "
  | .consult _ _ | .notice _ | .border | .report _ _ _ | .check _ => ""

/-- What is left to do once the text has been taken. -/
def conclude : Step -> EStateM SinkError Sink Unit
  | .notice _ => Sink.flush
  | .line _ _ | .consult _ _ | .border | .report _ _ _ | .check _ => pure ()

theorem message_sinkError (step : Step) (cause : SinkError) :
    (step.sinkError cause).message = step.opening ++ cause.message := by
  cases step with
  | line builtin argument => rfl
  | consult index argument | notice text | border
  | report arguments first last | check arguments => exact (String.empty_append).symm

/-- No more bytes are written after the text, and no fault of a write is
spent. -/
theorem conclude_keeps (step : Step) (sink : Sink) (reporters : List Reporter) :
    let run := Run.writing step.sinkError step.conclude sink reporters
    run.sink.bytes = sink.bytes ∧ run.sink.faults = sink.faults := by
  intro run
  cases step with
  | line builtin argument | consult index argument | border
  | report arguments first last | check arguments => exact ⟨rfl, rfl⟩
  | notice text =>
      cases waits : sink.refusal? 0 with
      | none =>
          simp [run, conclude, Run.writing, Sink.flush_of_free waits]
      | some refusal =>
          obtain ⟨left, _, refused⟩ := Sink.flush_of_refusal waits
          simp [run, conclude, Run.writing, refused, Sink.bytes]

end Step

namespace Run

variable
  {Error Cause : Type}
  {failed : Cause -> Error}
  {first second : EStateM Cause Sink Unit}
  {sink next : Sink}
  (reporters : List Reporter)

theorem writing_bind_of_ok (wrote : first sink = .ok () next) :
    writing failed (do first; second) sink reporters =
      writing failed second next reporters := by
  simp only [writing, bind, EStateM.bind, wrote]

theorem writing_bind_of_error
    {cause : Cause}
    (wrote : first sink = .error cause next) :
    writing failed (do first; second) sink reporters =
      { result := .error (failed cause)
        sink := next
        reporters
        calls := [] } := by
  simp only [writing, bind, EStateM.bind, wrote]

end Run

theorem Sink.writeAll_bind_pure (bytes : List UInt8) (sink : Sink) :
    (do Sink.writeAll bytes; pure () : EStateM SinkError Sink Unit) sink =
      Sink.writeAll bytes sink := by
  simp only [bind, EStateM.bind]
  cases Sink.writeAll bytes sink <;> rfl

namespace Desk

/-- A step with a text of its own writes it, and is then concluded. -/
theorem perform_of_text
    {step : Step}
    {text : String}
    (own : step.text? = some text)
    (desk : Desk) :
    desk.perform step =
      Run.writing step.sinkError
        (do Sink.writeAll (utf8 text); step.conclude)
        desk.sink desk.reporters := by
  cases step with
  | line builtin argument =>
      injection own with same
      subst same
      have whole : builtin.write argument =
          (do Sink.writeAll (utf8 (builtin.line argument)); pure ()) := by
        funext sink
        rw [Sink.writeAll_bind_pure, builtin.write_apply]
      rw [perform, whole]
      rfl
  | notice told =>
      injection own with same
      subst same
      rfl
  | border =>
      injection own with same
      subst same
      have whole : writeBorder =
          (do Sink.writeAll (utf8 borderLine); pure ()) := by
        funext sink
        rw [Sink.writeAll_bind_pure, writeBorder_apply]
      rw [perform, whole]
      rfl
  | consult index argument | report arguments first last
  | check arguments => cases own

/-! ## The two ways a text can go -/

/-- The sink takes these bytes, which leaves it with these faults, and the step is
brought to its end. -/
structure TakesAll
    (desk : Desk)
    (step : Step)
    (bytes : List UInt8)
    (faults : List (Fault WriteEffect)) : Prop where
  performed :
    desk.perform step =
      Run.writing step.sinkError step.conclude (desk.sink.took bytes faults)
        desk.reporters
  out : (desk.answer step).1.out = bytes
  left : (desk.answer step).2.sink.faults = faults

/-- The sink takes these bytes and no more, which leaves it with these faults, and
the step fails for this cause. -/
structure GivesUp
    (desk : Desk)
    (step : Step)
    (bytes : List UInt8)
    (faults : List (Fault WriteEffect))
    (cause : SinkError) : Prop where
  performed :
    desk.perform step =
      { result := .error (step.sinkError cause)
        sink := desk.sink.took bytes faults
        reporters := desk.reporters
        calls := [] }
  out : (desk.answer step).1.out = bytes
  left : (desk.answer step).2.sink.faults = faults
  told : ∃ error, (desk.answer step).1.result = .error error ∧
    error.message = step.opening ++ cause.message

section Text

variable
  {desk : Desk}
  {step : Step}
  {text : String}
  {bytes : List UInt8}
  {faults : List (Fault WriteEffect)}
  (own : step.text? = some text)

include own

theorem takesAll_of_writeAll
    (wrote : Sink.writeAll (utf8 text) desk.sink =
      .ok () (desk.sink.took bytes faults)) :
    desk.TakesAll step bytes faults := by
  have performed := perform_of_text own desk
  rw [Run.writing_bind_of_ok _ wrote] at performed
  obtain ⟨sameBytes, sameFaults⟩ := step.conclude_keeps
    (desk.sink.took bytes faults) desk.reporters
  rw [← performed] at sameBytes sameFaults
  exact {
    performed
    out := out_answer (sameBytes.trans (desk.sink.bytes_accept bytes))
    left := sameFaults }

theorem givesUp_of_writeAll
    {cause : SinkError}
    (wrote : Sink.writeAll (utf8 text) desk.sink =
      .error cause (desk.sink.took bytes faults)) :
    desk.GivesUp step bytes faults cause := by
  have performed := perform_of_text own desk
  rw [Run.writing_bind_of_error _ wrote] at performed
  have result : (desk.answer step).1.result =
      .error (step.sinkError cause) := congrArg Run.result performed
  have sink : (desk.perform step).sink = desk.sink.took bytes faults :=
    congrArg Run.sink performed
  exact {
    performed
    out := out_answer (by rw [sink]; exact desk.sink.bytes_accept bytes)
    left := congrArg Sink.faults sink
    told := ⟨_, result, step.message_sinkError cause⟩ }

end Text

/-! ## Which way it goes -/

/-- How many places a write of some bytes comes to if nothing blocks it. Where
the sink takes nothing, it is only the first. -/
def reach (desk : Desk) (bytes : List UInt8) : Nat :=
  if desk.sink.chunk = some 0 then 1 else bytes.length

/-- What a step with a text of its own leaves behind. -/
structure WritesExactly
    (desk : Desk)
    (step : Step)
    (text : String) : Prop where
  /-- An empty text changes nothing. -/
  empty : text = "" -> desk.TakesAll step [] desk.sink.faults
  /-- A text that nothing blocks is taken. The transient faults along it are used
  up, and the other faults are left alone. -/
  clear :
    desk.sink.chunk ≠ some 0 ->
    (∀ fault ∈ desk.sink.faults, ¬fault.Blocks desk.sink.position
      (desk.sink.position + (utf8 text).length)) ->
    desk.TakesAll step (utf8 text)
      (Fault.sweep desk.sink.position
        (desk.sink.position + (utf8 text).length) desk.sink.faults)
  /-- A text that is blocked is taken up to the fault that stops it. That fault
  loses one of its times and names the cause, and the transient faults that the
  write came by before are used up. -/
  blocked :
    text ≠ "" ->
    (∃ fault ∈ desk.sink.faults, fault.Blocks desk.sink.position
      (desk.sink.position + desk.reach (utf8 text))) ->
    ∃ before hit behind,
      desk.sink.faults = before ++ hit :: behind ∧
        Fault.Stops desk.sink.position
          (desk.sink.position + desk.reach (utf8 text)) before hit behind ∧
        desk.GivesUp step
          ((utf8 text).take (hit.place - desk.sink.position))
          (Fault.stopped desk.sink.position before hit behind)
          hit.effect.error
  /-- A sink that takes nothing stalls where nothing blocks, after its
  retries. -/
  stalled :
    text ≠ "" ->
    desk.sink.chunk = some 0 ->
    (∀ fault ∈ desk.sink.faults, ¬fault.Blocks desk.sink.position
      (desk.sink.position + 1)) ->
    desk.GivesUp step []
      (Fault.sweep desk.sink.position (desk.sink.position + 1)
        desk.sink.faults)
      .stalled

/-- Whatever waits in the sink, a line, a border and a notice leave exactly this
behind. -/
theorem writesExactly_of_text
    {step : Step}
    {text : String}
    (own : step.text? = some text)
    (desk : Desk) :
    desk.WritesExactly step text := by
  have nonempty : text ≠ "" -> utf8 text ≠ [] := by
    intro nonblank nothing
    exact nonblank (utf8_injective (nothing.trans utf8_empty.symm))
  constructor
  case empty =>
    rintro rfl
    apply takesAll_of_writeAll own
    have same : desk.sink.took [] desk.sink.faults = desk.sink := by
      simp [Sink.took, Sink.accept]
    rw [utf8_empty, same, Sink.writeAll_nil]
  case clear =>
    intro chunk absent
    exact takesAll_of_writeAll own
      (Sink.writeAll_of_clear chunk (Sink.clearFor_iff_blocks.2 absent))
  case blocked =>
    rintro nonblank ⟨fault, member, blocks⟩
    have notClear : ¬desk.sink.ClearFor (desk.reach (utf8 text)) :=
      fun clear => Sink.clearFor_iff_blocks.1 clear fault member blocks
    obtain ⟨distance, effect, inside, clear, waits⟩ :=
      (desk.sink.clearFor_or_barrier _).resolve_left notClear
    obtain ⟨before, hit, behind, split, stops, here, rfl, halted⟩ :=
      Sink.halt_carry_of_barrier clear waits inside
    have reached : hit.place - desk.sink.position = distance := by omega
    refine ⟨before, hit, behind, split, stops, givesUp_of_writeAll own ?_⟩
    rw [reached]
    by_cases chunk : desk.sink.chunk = some 0
    · rw [reach, if_pos chunk] at inside
      obtain rfl : distance = 0 := by omega
      rw [Sink.writeAll_of_chunk_zero (nonempty nonblank) chunk, waits]
      rw [List.take_zero, ← halted [] rfl, Sink.carry_nil]
    · rw [reach, if_neg chunk] at inside
      rw [Sink.writeAll_of_barrier chunk clear waits inside,
        halted _ (List.length_take_of_le (Nat.le_of_lt inside))]
  case stalled =>
    intro nonblank chunk absent
    apply givesUp_of_writeAll own
    have free : desk.sink.barrier? 0 = none :=
      Sink.clearFor_iff_blocks.2 absent 0 Nat.one_pos
    have same : desk.sink.took []
        (Fault.sweep desk.sink.position (desk.sink.position + 1)
          desk.sink.faults) = desk.sink.retried := by
      simp [Sink.took, Sink.accept, Sink.retried]
    rw [Sink.writeAll_of_chunk_zero (nonempty nonblank) chunk, free, same]

/-- Four faults wait where the line is stopped. The transient one in front of the
one that is hit is used up, and the transient one behind it is not. -/
theorem writesExactly_of_crowded_sink :
    let transient : WriteEffect := .refuse .interrupted
    let before : List (Fault WriteEffect) :=
      [ { place := 9, effect := .stall },
        { place := 7, effect := transient, times := 2 },
        { place := 7, effect := .stall, times := 0 },
        { place := 1, effect := .stall } ]
    let hit : Fault WriteEffect :=
      { place := 7, effect := .refuse (.system .noSpace), times := 3 }
    let behind : List (Fault WriteEffect) :=
      [ { place := 7, effect := .refuse (.system .interruptedCall) },
        { place := 7, effect := .stall },
        { place := 3, effect := transient, times := 4 } ]
    let desk : Desk :=
      { sink :=
          { accepted := #[97, 98]
            chunk := some 3
            faults := before ++ hit :: behind }
        reporters := [] }
    let step : Step := .line .echo "é"
    step.text? = some (Builtin.echo.line "é") ∧
      (desk.answer step).1.out = utf8 "ham: " ∧
      (desk.answer step).2.sink.faults =
        [ { place := 9, effect := .stall },
          { place := 7, effect := transient, times := 0 },
          { place := 7, effect := .stall, times := 0 },
          { place := 1, effect := .stall },
          { place := 7, effect := .refuse (.system .noSpace), times := 2 },
          { place := 7, effect := .refuse (.system .interruptedCall) },
          { place := 7, effect := .stall },
          { place := 3, effect := transient, times := 0 } ] ∧
      ∃ error, (desk.answer step).1.result = .error error ∧
        error.message =
          "ham write: No space left on device (os error 28)" := by
  intro transient before hit behind desk step
  have reached : desk.sink.position +
      desk.reach (utf8 (Builtin.echo.line "é")) = 10 := by decide +kernel
  have stops : Fault.Stops 2 10 before hit behind := by
    constructor <;> decide
  have own : step.text? = some (Builtin.echo.line "é") := rfl
  obtain ⟨otherBefore, otherHit, otherBehind, split, otherStops, gives⟩ :=
    (writesExactly_of_text own desk).blocked (by decide)
      ⟨hit, List.mem_append_cons_self, by rw [reached]; exact stops.blocks⟩
  rw [reached] at otherStops
  obtain ⟨rfl, rfl, rfl⟩ := stops.unique otherStops split
  obtain ⟨error, result, message⟩ := gives.told
  exact ⟨own, gives.out.trans (by decide +kernel),
    gives.left.trans (by decide +kernel), error, result,
    message.trans (by decide +kernel)⟩

end Desk
end ArgReport
