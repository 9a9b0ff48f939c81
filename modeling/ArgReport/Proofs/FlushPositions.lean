import ArgReport.Proofs.CallOrder
import ArgReport.Proofs.Plan.Session
import ArgReport.Proofs.Report.BlockLength

/-!
# Where a session is flushed

A desk flushes after a notice and nowhere else, and only after a notice of which
the sink has taken every byte. The flushes of a session are noted in the order of
their positions, whatever the sink does.

Where a report by the default reporters is flushed can be told beforehand. It
depends on how long the arguments are, and on nothing else. A report that fails is
flushed at the first of these positions.
-/

namespace ArgReport

theorem Plan.flushOffsets_mapError
    {Error Other : Type}
    (tell : Error -> Other)
    (plan : Plan Error) :
    flushOffsets (plan.map (Task.mapError tell)) = plan.flushOffsets := by
  induction plan with
  | nil => rfl
  | cons task rest inductionHypothesis =>
      cases task with
      | ask call => exact inductionHypothesis
      | write bytes blame =>
          rw [List.map_cons, Task.mapError, flushOffsets_write,
            flushOffsets_write, inductionHypothesis]
      | flush blame =>
          rw [List.map_cons, Task.mapError, flushOffsets_flush,
            flushOffsets_flush, inductionHypothesis]
      | fail failure => rfl

/-- Only notices and reports flush. -/
def Step.Flushes : Step -> Prop
  | .notice _ | .report _ _ _ => True
  | .line _ _ | .consult _ _ | .border | .check _ => False

namespace Step

theorem flushOffsets_plan_of_not_flushes
    {step : Step}
    (silent : ¬step.Flushes)
    (reporters : List Reporter) :
    Plan.flushOffsets (step.plan reporters) = [] := by
  have unflushed : Plan.Unflushed (step.plan reporters) := by
    intro blame member
    cases step with
    | line builtin argument => simp [plan] at member
    | consult index argument =>
        rw [plan] at member
        split at member
        · cases member
        · simp [Reporter.plan] at member
    | border => simp [plan] at member
    | check arguments =>
        rw [plan] at member
        split at member
        · cases member
        · simp at member
    | notice text | report arguments first last => exact silent trivial
  rw [Plan.flushOffsets, Plan.flushPoints_of_unflushed unflushed, List.map_nil]

theorem flushesApart_plan (step : Step) (reporters : List Reporter) :
    Plan.FlushesApart (step.plan reporters) := by
  by_cases flushes : step.Flushes
  · cases step with
    | notice text => exact List.pairwise_singleton _ _
    | report arguments first last =>
        rw [Plan.FlushesApart, plan, Plan.flushOffsets_mapError]
        exact Report.flushesApart_plan _ _ _
    | line builtin argument | consult index argument | border
    | check arguments => cases flushes
  · rw [Plan.FlushesApart, flushOffsets_plan_of_not_flushes flushes]
    exact .nil

end Step

namespace Desk

/-- A step asks for the flushes that its bytes have come to. -/
theorem perform_flushed (desk : Desk) (step : Step) :
    ∃ taken, Plan.Flushed (step.plan desk.reporters) desk.sink
      (desk.perform step).result (desk.perform step).sink taken := by
  rw [perform_eq_run_plan]
  exact Plan.run_flushed (step.flushesApart_plan desk.reporters) desk.sink
    desk.reporters

theorem out_answer
    {desk : Desk}
    {step : Step}
    {taken : List UInt8}
    (bytes : (desk.perform step).sink.bytes = desk.sink.bytes ++ taken) :
    (desk.answer step).1.out = taken := by
  have whole : (desk.perform step).sink.accepted.toList =
      desk.sink.bytes ++ taken := bytes
  have all : (desk.perform step).sink.accepted.size =
      desk.sink.position + taken.length := Sink.position_of_bytes bytes
  rw [answer, Array.toList_extract, whole, all, List.extract_eq_take_drop,
    ← Sink.length_bytes, List.drop_left, Nat.add_sub_cancel_left,
    List.take_length]

theorem flushes_answer
    {desk : Desk}
    {step : Step}
    {noted : List Nat}
    (flushes : (desk.perform step).sink.flushes = desk.sink.flushes ++ noted) :
    (desk.answer step).1.flushes = noted := by
  simp only [answer, flushes, List.drop_left]

theorem position_answer
    {desk : Desk}
    {step : Step}
    {taken : List UInt8}
    (bytes : (desk.perform step).sink.bytes = desk.sink.bytes ++ taken) :
    (desk.answer step).1.position = desk.sink.position + taken.length :=
  Sink.position_of_bytes bytes

/-- The flushes of a step are noted in order, within what it wrote. -/
theorem answer_flushes_ordered (desk : Desk) (step : Step) :
    (desk.answer step).2.sink.flushes =
        desk.sink.flushes ++ (desk.answer step).1.flushes ∧
      (desk.answer step).1.flushes.Pairwise (· ≤ ·) ∧
      (∀ place ∈ (desk.answer step).1.flushes,
        desk.sink.position ≤ place ∧
          place ≤ (desk.answer step).2.sink.position) ∧
      desk.sink.position ≤ (desk.answer step).2.sink.position := by
  obtain ⟨taken, flushed⟩ := desk.perform_flushed step
  obtain ⟨noted, refused, flushes, all, _⟩ := flushed.flushes
  have after : (desk.answer step).2.sink.position =
      desk.sink.position + taken.length := position_answer flushed.bytes
  have early : noted <+: (Plan.flushOffsets (step.plan desk.reporters)).filter
      (· ≤ taken.length) := by
    rw [all]
    exact List.prefix_append _ _
  rw [flushes_answer flushes, after]
  refine ⟨flushes, ?_, ?_, Nat.le_add_right _ _⟩
  · have apart := (step.flushesApart_plan desk.reporters).filter
      (· ≤ taken.length)
    rw [List.pairwise_map]
    apply (apart.sublist early.sublist).imp
    intro sooner later less
    omega
  · intro place member
    obtain ⟨offset, found, rfl⟩ := List.mem_map.1 member
    have within := (List.mem_filter.1 (early.subset found)).2
    rw [decide_eq_true_eq] at within
    omega

/-! ## Notices -/

/-- A notice fails within its text, or has its text written and then ends with
its flush. -/
theorem perform_notice_cases (desk : Desk) (text : String) :
    let run := desk.perform (.notice text)
    (∃ cause taken, run.result = .error (.sink cause) ∧
      run.sink.bytes = desk.sink.bytes ++ taken ∧
      taken.length < (utf8 text).length ∧ desk.sink.SameFlushes run.sink) ∨
    (run.sink.bytes = desk.sink.bytes ++ utf8 text ∧
      run.sink.flushCalls = desk.sink.flushCalls + 1 ∧
      (run.result = .ok () ∧
          run.sink.flushes = desk.sink.flushes ++
            [desk.sink.position + (utf8 text).length] ∨
        (∃ cause, run.result = .error (.sink cause)) ∧
          run.sink.flushes = desk.sink.flushes)) := by
  intro run
  have carriedOut : run = Plan.run [.write (utf8 text) .sink, .flush .sink]
      desk.sink desk.reporters :=
    (Plan.run_notice StepError.sink text desk.sink desk.reporters).symm
  have same := desk.sink.sameFlushes_writeAll (utf8 text)
  rcases desk.sink.writeAll_taken (utf8 text) with
    ⟨next, wrote, written⟩ | ⟨cause, next, taken, wrote, written, _, short⟩
  · rw [wrote] at same
    rw [Plan.run_write_of_ok _ _ _ wrote] at carriedOut
    have moved := Sink.position_of_bytes written
    rcases next.flush_cases with
      ⟨last, flushed, sameBytes, counted, noted⟩ |
        ⟨cause, last, flushed, sameBytes, counted, noted⟩
    · rw [Plan.run_flush_of_ok _ _ _ flushed] at carriedOut
      rw [carriedOut]
      refine .inr ⟨sameBytes.trans written, ?_, .inl ⟨rfl, ?_⟩⟩
      · exact counted.trans (congrArg (· + 1) same.calls)
      · rw [← same.flushes, ← moved]
        exact noted
    · rw [Plan.run_flush_of_error _ _ _ flushed] at carriedOut
      rw [carriedOut]
      refine .inr ⟨sameBytes.trans written, ?_, .inr ⟨⟨cause, rfl⟩, ?_⟩⟩
      · exact counted.trans (congrArg (· + 1) same.calls)
      · exact noted.trans same.flushes
  · rw [wrote] at same
    rw [Plan.run_write_of_error _ _ _ wrote] at carriedOut
    rw [carriedOut]
    exact .inl ⟨cause, taken, rfl, written, short, same⟩

/-- What a notice has to do with flushes. -/
structure FlushesNotice (desk : Desk) (text : String) : Prop where
  /-- A flush is asked for once if the whole text was taken, and else never. -/
  asked :
    (desk.answer (.notice text)).2.sink.flushCalls =
      desk.sink.flushCalls +
        if (desk.answer (.notice text)).1.out = utf8 text then 1 else 0
  /-- It is noted unless it is refused, where the text ends. -/
  noted :
    (desk.answer (.notice text)).1.flushes =
      if (desk.answer (.notice text)).1.result = .ok () then
        [desk.sink.position + (utf8 text).length]
      else
        []
  /-- The sink has not moved since. -/
  placed : ∀ place ∈ (desk.answer (.notice text)).1.flushes,
    place = (desk.answer (.notice text)).1.position

theorem flushesNotice (desk : Desk) (text : String) :
    desk.FlushesNotice text := by
  rcases desk.perform_notice_cases text with
    ⟨cause, taken, failed, bytes, short, same⟩ |
      ⟨bytes, counted, ⟨succeeded, flushes⟩ | ⟨⟨cause, failed⟩, flushes⟩⟩
  · have less : taken ≠ utf8 text := by
      intro whole
      rw [whole] at short
      exact Nat.lt_irrefl _ short
    have none : (desk.answer (.notice text)).1.flushes = [] :=
      flushes_answer (same.flushes.trans (List.append_nil _).symm)
    have told : (desk.answer (.notice text)).1.result = .error (.sink cause) :=
      failed
    constructor
    case asked =>
      rw [out_answer bytes, if_neg less]
      exact same.calls
    case noted => rw [none, told, if_neg nofun]
    case placed => rw [none]; nofun
  · have one : (desk.answer (.notice text)).1.flushes =
        [desk.sink.position + (utf8 text).length] := flushes_answer flushes
    have told : (desk.answer (.notice text)).1.result = .ok () := succeeded
    constructor
    case asked =>
      rw [out_answer bytes, if_pos rfl]
      exact counted
    case noted => rw [one, told, if_pos rfl]
    case placed =>
      intro place member
      rw [one, List.mem_singleton] at member
      rw [member, position_answer bytes]
  · have none : (desk.answer (.notice text)).1.flushes = [] :=
      flushes_answer (flushes.trans (List.append_nil _).symm)
    have told : (desk.answer (.notice text)).1.result = .error (.sink cause) :=
      failed
    constructor
    case asked =>
      rw [out_answer bytes, if_pos rfl]
      exact counted
    case noted => rw [none, told, if_neg nofun]
    case placed => rw [none]; nofun

/-! ## Reports -/

/-- What a report at a desk has to do with flushes. -/
structure FlushesReport
    (desk : Desk)
    (arguments : List String)
    (first last : Nat) : Prop where
  /-- A flush is asked for once for each block of which the whole notice was
  taken. -/
  asked :
    (desk.answer (.report arguments first last)).2.sink.flushCalls =
      desk.sink.flushCalls +
        (Report.openedBlocks (desk.slice first last) arguments
          (desk.answer (.report arguments first last)).1.out).length
  /-- Each is noted where that notice ends, but for a last one that is refused.
  Then the report fails. -/
  noted : ∃ refused,
    ((Report.openedBlocks (desk.slice first last) arguments
        (desk.answer (.report arguments first last)).1.out).map fun number =>
          desk.sink.position +
            Report.noticeEnd (desk.slice first last) arguments number) =
        (desk.answer (.report arguments first last)).1.flushes ++ refused ∧
      refused.length ≤ 1 ∧
      ((desk.answer (.report arguments first last)).1.result = .ok () ->
        refused = [])
  /-- A report that succeeds is flushed once in each block. -/
  completed :
    (desk.answer (.report arguments first last)).1.result = .ok () ->
      (desk.answer (.report arguments first last)).1.flushes =
        (List.range arguments.length).map fun number =>
          desk.sink.position +
            Report.noticeEnd (desk.slice first last) arguments number
  /-- Where a report by the default reporters is flushed depends on how long its
  arguments are. -/
  byDefault :
    desk.slice first last = Reporter.defaults ->
      let sizes := arguments.map fun argument => (utf8 argument).length
      let places := (List.range arguments.length).map fun number =>
        desk.sink.position + 28 +
          ((sizes.take number).map Report.blockLength).sum
      (desk.answer (.report arguments first last)).1.flushes <+: places ∧
        ((desk.answer (.report arguments first last)).1.result = .ok () ->
          (desk.answer (.report arguments first last)).1.flushes = places ∧
            (desk.answer (.report arguments first last)).1.position =
              desk.sink.position + (sizes.map Report.blockLength).sum)

theorem flushesReport
    (desk : Desk)
    (arguments : List String)
    (first last : Nat) :
    desk.FlushesReport arguments first last := by
  obtain ⟨taken, flushed⟩ := Report.blocks_flushed (desk.slice first last)
    arguments first desk.sink
  obtain ⟨noted, refused, flushes, all, one, none⟩ := flushed.flushes
  have bytes : (desk.perform (.report arguments first last)).sink.bytes =
      desk.sink.bytes ++ taken := flushed.bytes
  have out : (desk.answer (.report arguments first last)).1.out = taken :=
    out_answer bytes
  have own : (desk.answer (.report arguments first last)).1.flushes = noted :=
    flushes_answer flushes
  have succeeds :
      (desk.answer (.report arguments first last)).1.result = .ok () ->
        (Report.blocks first arguments desk.sink
          (desk.slice first last)).result = .ok () := by
    intro succeeded
    have told : (Report.blocks first arguments desk.sink
        (desk.slice first last)).result.mapError StepError.report = .ok () :=
      succeeded
    cases ended : (Report.blocks first arguments desk.sink
        (desk.slice first last)).result with
    | ok => rfl
    | error failure =>
        rw [ended] at told
        cases told
  have opened (succeeded :
      (desk.answer (.report arguments first last)).1.result = .ok ()) :
      noted = (Report.noticeEnds (desk.slice first last) arguments).map
        (desk.sink.position + ·) := by
    rw [none (succeeds succeeded), flushed.completed (succeeds succeeded),
      Report.openedBlocks_reportText, List.append_nil] at all
    rw [← all, Report.noticeEnds, List.map_map]
    rfl
  constructor
  case asked =>
    rw [out]
    exact flushed.calls
  case noted =>
    rw [out, own]
    exact ⟨refused, all, one, fun succeeded => none (succeeds succeeded)⟩
  case completed =>
    intro succeeded
    rw [own, opened succeeded, Report.noticeEnds, List.map_map]
    rfl
  case byDefault =>
    intro chosen sizes places
    have ends : (Report.noticeEnds (desk.slice first last) arguments).map
        (desk.sink.position + ·) = places := by
      rw [Report.noticeEnds, List.map_map]
      apply List.map_congr_left
      intro number _
      rw [Function.comp_apply, chosen, Report.noticeEnd_defaults,
        ← Nat.add_assoc, ← List.map_take, List.map_map]
      rfl
    refine ⟨?_, fun succeeded => ⟨?_, ?_⟩⟩
    · have early := (Report.map_openedBlocks_isPrefix (desk.slice first last)
        arguments flushed.isPrefix).map (desk.sink.position + ·)
      rw [List.map_map, ends] at early
      rw [own]
      apply List.IsPrefix.trans _ early
      exact ⟨refused, all.symm⟩
    · rw [own, opened succeeded, ends]
    · rw [position_answer bytes, flushed.completed (succeeds succeeded), chosen,
        Report.length_reportText_defaults, List.map_map]
      rfl

/-! ## Sessions -/

/-- What a step has to do with flushes. -/
def FlushesInPlace (desk : Desk) (step : Step) : Prop :=
  match step with
  | .notice text => desk.FlushesNotice text
  | .report arguments first last => desk.FlushesReport arguments first last
  | .line _ _ | .consult _ _ | .border | .check _ =>
      (desk.answer step).2.sink.flushCalls = desk.sink.flushCalls ∧
        (desk.answer step).1.flushes = []

theorem flushesInPlace (desk : Desk) (step : Step) :
    desk.FlushesInPlace step := by
  by_cases flushes : step.Flushes
  · cases step with
    | notice text => exact desk.flushesNotice text
    | report arguments first last =>
        exact desk.flushesReport arguments first last
    | line builtin argument | consult index argument | border
    | check arguments => cases flushes
  · obtain ⟨taken, flushed⟩ := desk.perform_flushed step
    obtain ⟨noted, refused, own, all, _⟩ := flushed.flushes
    have calls := flushed.calls
    have none := step.flushOffsets_plan_of_not_flushes flushes desk.reporters
    rw [none, List.filter_nil] at calls all
    rw [(List.append_eq_nil_iff.1 all.symm).1] at own
    have silent : (desk.answer step).2.sink.flushCalls = desk.sink.flushCalls ∧
        (desk.answer step).1.flushes = [] :=
      ⟨calls, flushes_answer own⟩
    cases step with
    | notice text | report arguments first last => exact absurd trivial flushes
    | line builtin argument | consult index argument | border
    | check arguments => exact silent

/-- The flushes of a session are noted in order, within what it wrote. -/
theorem session_flushes_ordered (desk : Desk) (steps : List Step) :
    (desk.session steps).2.sink.flushes =
        desk.sink.flushes ++ (desk.session steps).1.flatMap Answer.flushes ∧
      ((desk.session steps).1.flatMap Answer.flushes).Pairwise (· ≤ ·) ∧
      (∀ place ∈ (desk.session steps).1.flatMap Answer.flushes,
        desk.sink.position ≤ place ∧
          place ≤ (desk.session steps).2.sink.position) ∧
      desk.sink.position ≤ (desk.session steps).2.sink.position := by
  induction steps generalizing desk with
  | nil => exact ⟨(List.append_nil _).symm, .nil, nofun, Nat.le_refl _⟩
  | cons step rest inductionHypothesis =>
      obtain ⟨noted, ordered, within, further⟩ :=
        desk.answer_flushes_ordered step
      obtain ⟨restNoted, restOrdered, restWithin, restFurther⟩ :=
        inductionHypothesis (desk.answer step).2
      rw [session_cons, List.flatMap_cons]
      refine ⟨?_, ?_, ?_, Nat.le_trans further restFurther⟩
      · rw [restNoted, noted, List.append_assoc]
      · rw [List.pairwise_append]
        refine ⟨ordered, restOrdered, fun early earlyMember late lateMember => ?_⟩
        exact Nat.le_trans (within early earlyMember).2
          (restWithin late lateMember).1
      · intro place member
        rcases List.mem_append.1 member with own | others
        · have bounds := within place own
          exact ⟨bounds.1, Nat.le_trans bounds.2 restFurther⟩
        · have bounds := restWithin place others
          exact ⟨Nat.le_trans further bounds.1, bounds.2⟩

/-- After any session, each step is flushed in its place, and the flushes of the
session were noted in the order of their positions. -/
theorem session_flushes_in_place (desk : Desk) (steps : List Step) :
    let flushed := (desk.session steps).1.flatMap Answer.flushes
    let reached := (desk.session steps).2
    (∀ step, reached.FlushesInPlace step) ∧
      reached.sink.flushes = desk.sink.flushes ++ flushed ∧
      flushed.Pairwise (· ≤ ·) ∧
      ∀ place ∈ flushed,
        desk.sink.position ≤ place ∧ place ≤ reached.sink.position := by
  intro flushed reached
  obtain ⟨noted, ordered, within, _⟩ := desk.session_flushes_ordered steps
  exact ⟨reached.flushesInPlace, noted, ordered, within⟩

/-- An empty notice is flushed, and the next flush is refused. The report after
that is flushed where the lengths of its arguments tell. -/
theorem session_flushes_in_place_of_refused_flush :
    let desk : Desk :=
      { sink :=
          { chunk := some 50
            flushFaults := [{ place := 1, effect := .interrupted }] }
        reporters := Reporter.defaults }
    let steps : List Step := [.notice "", .report ["a"] 0 3]
    let reached := (desk.session steps).2
    let answer := (reached.answer (.report ["é", ""] 0 3)).1
    0 ∈ (desk.session steps).1.flatMap Answer.flushes ∧
      reached.slice 0 3 = Reporter.defaults ∧
      reached.sink.position = 28 ∧ reached.sink.flushes = [0] ∧
      answer.result = .ok () ∧ answer.flushes = [56, 244] ∧
      answer.position = 396 ∧ 0 ≤ reached.sink.position := by
  intro desk steps reached answer
  have noted : 0 ∈ (desk.session steps).1.flatMap Answer.flushes := by
    decide +kernel
  have chosen : reached.slice 0 3 = Reporter.defaults := by decide +kernel
  have position : reached.sink.position = 28 := by decide +kernel
  have succeeded : answer.result = .ok () := by decide +kernel
  have flushes : reached.sink.flushes = [0] := by decide +kernel
  obtain ⟨inPlace, _, _, within⟩ := session_flushes_in_place desk steps
  have report : reached.FlushesReport ["é", ""] 0 3 :=
    inPlace (.report ["é", ""] 0 3)
  obtain ⟨own, last⟩ := (report.byDefault chosen).2 succeeded
  rw [position] at own last
  exact ⟨noted, chosen, position, flushes, succeeded,
    own.trans (by decide +kernel), last.trans (by decide +kernel),
    (within 0 noted).2⟩

end Desk
end ArgReport
