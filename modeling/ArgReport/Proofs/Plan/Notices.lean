import ArgReport.Proofs.Plan.Flushing

/-!
# The notices of a report

A report is flushed where a notice ends, and nowhere else. How far its bytes have
come tells which notices they contain, and so which flushes were asked for: those
at the end of each notice whose bytes were all taken.

A script may end a report before its last notice. The bytes then end too, so
this needs no case of its own.
-/

namespace ArgReport
namespace Plan

variable
  {Error : Type}
  {first : Plan Error}
  (second : Plan Error)

theorem utterance_append_of_ok (completed : first.ending = .ok ()) :
    utterance (first ++ second) = first.utterance ++ second.utterance := by
  induction first with
  | nil => rfl
  | cons task rest inductionHypothesis =>
      cases task with
      | ask call => exact inductionHypothesis completed
      | write bytes blame =>
          rw [List.cons_append, utterance, utterance,
            inductionHypothesis completed, List.append_assoc]
      | flush blame => exact inductionHypothesis completed
      | fail failure => cases completed

theorem utterance_append_of_error
    {failure : Error}
    (failed : first.ending = .error failure) :
    utterance (first ++ second) = first.utterance := by
  induction first with
  | nil => cases failed
  | cons task rest inductionHypothesis =>
      cases task with
      | ask call => exact inductionHypothesis failed
      | write bytes blame =>
          rw [List.cons_append, utterance, utterance,
            inductionHypothesis failed]
      | flush blame => exact inductionHypothesis failed
      | fail other => rfl

/-- What a plan utters begins its text. -/
theorem utterance_isPrefix_text (plan : Plan Error) :
    plan.utterance <+: plan.text := by
  induction plan with
  | nil => exact List.prefix_rfl
  | cons task rest inductionHypothesis =>
      cases task with
      | ask call => exact inductionHypothesis
      | write bytes blame =>
          exact (List.prefix_append_right_inj bytes).2 inductionHypothesis
      | flush blame => exact inductionHypothesis
      | fail failure => exact List.nil_prefix

end Plan

namespace Report

variable
  (reporters : List Reporter)
  (argument : String)
  (arguments : List String)

/-! ## Where notices end -/

/-- Where the notices of a report end, in order. -/
def noticeEnds : List Nat :=
  (List.range arguments.length).map (noticeEnd reporters arguments)

theorem noticeEnd_zero :
    noticeEnd reporters arguments 0 = (utf8 noticeText).length := by
  simp [noticeEnd]

theorem noticeEnd_succ (number : Nat) :
    noticeEnd reporters (argument :: arguments) (number + 1) =
      (utf8 (blockText reporters argument)).length +
        noticeEnd reporters arguments number := by
  simp [noticeEnd]

theorem noticeEnd_pos (number : Nat) :
    0 < noticeEnd reporters arguments number := by
  have notice : 0 < (utf8 noticeText).length := by decide
  rw [noticeEnd, utf8_append, List.length_append]
  omega

theorem noticeEnds_cons :
    noticeEnds reporters (argument :: arguments) =
      (utf8 noticeText).length ::
        (noticeEnds reporters arguments).map
          ((utf8 (blockText reporters argument)).length + ·) := by
  rw [noticeEnds, noticeEnds, List.length_cons, List.range_succ_eq_map,
    List.map_cons, noticeEnd_zero, List.map_map, List.map_map]
  congr 2
  funext number
  exact noticeEnd_succ reporters argument arguments number

theorem noticeEnds_map_asked :
    noticeEnds (reporters.map Reporter.asked) arguments =
      noticeEnds reporters arguments := by
  apply List.map_congr_left
  intro number _
  rw [noticeEnd, noticeEnd, reportText_map_asked]

theorem length_notice_lt_block :
    (utf8 noticeText).length < (utf8 (blockText reporters argument)).length := by
  have border : 0 < (utf8 borderLine).length := by decide
  simp only [blockText, utf8_append, List.length_append]
  omega

theorem pairwise_noticeEnds :
    (noticeEnds reporters arguments).Pairwise (· < ·) := by
  induction arguments with
  | nil => exact .nil
  | cons argument rest inductionHypothesis =>
      have longer := length_notice_lt_block reporters argument
      rw [noticeEnds_cons, List.pairwise_cons, List.pairwise_map]
      refine ⟨?_, inductionHypothesis.imp (Nat.add_lt_add_left · _)⟩
      intro place member
      obtain ⟨further, _, rfl⟩ := List.mem_map.1 member
      omega

/-- The flushes of a report are at the ends of the notices that it utters. -/
theorem flushOffsets_plan (index : Nat) :
    Plan.flushOffsets (plan index arguments reporters) =
      (noticeEnds reporters arguments).filter
        (· ≤ (Plan.utterance (plan index arguments reporters)).length) := by
  induction arguments generalizing reporters with
  | nil => rfl
  | cons argument rest inductionHypothesis =>
      have longer := length_notice_lt_block reporters argument
      have opened : (utf8 noticeText).length ≤
          (Plan.utterance (blockPlan argument index reporters)).length := by
        have member : ((utf8 noticeText).length, .notice) ∈
            Plan.flushPoints (blockPlan argument index reporters) := by
          rw [flushPoints_blockPlan]
          exact List.mem_singleton_self _
        exact Plan.offset_le_length_utterance member
      rw [plan, noticeEnds_cons]
      cases ended : Plan.ending (blockPlan argument index reporters) with
      | error failure =>
          have short := (Plan.utterance_isPrefix_text
            (blockPlan argument index reporters)).length_le
          rw [text_blockPlan] at short
          rw [Plan.utterance_append_of_error _ ended,
            List.filter_cons_of_pos
              (by simpa only [decide_eq_true_eq] using opened),
            Plan.flushOffsets, Plan.flushPoints_append_of_error _ ended,
            flushPoints_blockPlan, List.map_singleton, List.cons_inj_right,
            eq_comm, List.filter_eq_nil_iff]
          intro place member
          obtain ⟨further, found, rfl⟩ := List.mem_map.1 member
          obtain ⟨number, _, rfl⟩ := List.mem_map.1 found
          have positive := noticeEnd_pos reporters rest number
          simp only [decide_eq_true_eq]
          omega
      | ok =>
          rw [Plan.utterance_append_of_ok _ ended, List.length_append,
            List.filter_cons_of_pos (by simp only [decide_eq_true_eq]; omega),
            Plan.flushOffsets, Plan.flushPoints_append_of_ok _ ended,
            flushPoints_blockPlan, Plan.utterance_eq_text ended, text_blockPlan,
            Plan.filter_map_add_le, ← noticeEnds_map_asked,
            ← inductionHypothesis]
          simp [Plan.flushOffsets, Function.comp_def]

/-! ## Which notices were written -/

/-- The bytes of a report up to the end of a notice. -/
def throughNotice (number : Nat) : List UInt8 :=
  utf8 (reportText reporters (arguments.take number) ++ noticeText)

theorem throughNotice_isPrefix
    {number : Nat}
    (bound : number < arguments.length) :
    throughNotice reporters arguments number <+:
      utf8 (reportText reporters arguments) := by
  have whole := reportText_append reporters (arguments.take number)
    (arguments.drop number)
  rw [List.take_append_drop, List.drop_eq_getElem_cons bound, reportText_cons,
    blockText] at whole
  rw [throughNotice, whole]
  simp only [utf8_append, List.append_assoc]
  exact (List.prefix_append_right_inj _).2 (List.prefix_append _ _)

theorem throughNotice_isPrefix_iff
    {number : Nat}
    (bound : number < arguments.length)
    {taken : List UInt8}
    (isPrefix : taken <+: utf8 (reportText reporters arguments)) :
    throughNotice reporters arguments number <+: taken ↔
      noticeEnd reporters arguments number ≤ taken.length := by
  constructor
  · exact List.IsPrefix.length_le
  · exact List.prefix_of_prefix_length_le
      (throughNotice_isPrefix reporters arguments bound) isPrefix

/-- The numbers of the notices of a report that some bytes contain in full. -/
def openedBlocks (taken : List UInt8) : List Nat :=
  (List.range arguments.length).filter fun number =>
    throughNotice reporters arguments number <+: taken

theorem filter_noticeEnds
    {taken : List UInt8}
    (isPrefix : taken <+: utf8 (reportText reporters arguments)) :
    (noticeEnds reporters arguments).filter (· ≤ taken.length) =
      (openedBlocks reporters arguments taken).map
        (noticeEnd reporters arguments) := by
  rw [noticeEnds, List.filter_map, openedBlocks]
  congr 1
  apply List.filter_congr
  intro number member
  have bound := List.mem_range.1 member
  simp only [Function.comp_apply, decide_eq_decide]
  exact (throughNotice_isPrefix_iff reporters arguments bound isPrefix).symm

/-- Among places in order, those up to a limit come first. -/
theorem filter_le_isPrefix
    {places : List Nat}
    (ordered : places.Pairwise (· < ·))
    (limit : Nat) :
    places.filter (· ≤ limit) <+: places := by
  induction places with
  | nil => exact List.prefix_rfl
  | cons place rest inductionHypothesis =>
      obtain ⟨later, restOrdered⟩ := List.pairwise_cons.1 ordered
      by_cases within : place ≤ limit
      · rw [List.filter_cons_of_pos (by simpa only [decide_eq_true_eq])]
        exact (List.prefix_cons_inj place).2 (inductionHypothesis restOrdered)
      · have none : (place :: rest).filter (· ≤ limit) = [] := by
          rw [List.filter_eq_nil_iff]
          intro other member
          rw [decide_eq_true_eq]
          rcases List.mem_cons.1 member with rfl | further
          · exact within
          · have beyond := later other further
            omega
        rw [none]
        exact List.nil_prefix

/-- The notices that were written are the first ones. -/
theorem map_openedBlocks_isPrefix
    {taken : List UInt8}
    (isPrefix : taken <+: utf8 (reportText reporters arguments)) :
    (openedBlocks reporters arguments taken).map
        (noticeEnd reporters arguments) <+:
      noticeEnds reporters arguments := by
  rw [← filter_noticeEnds reporters arguments isPrefix]
  exact filter_le_isPrefix (pairwise_noticeEnds reporters arguments) _

theorem openedBlocks_reportText :
    openedBlocks reporters arguments (utf8 (reportText reporters arguments)) =
      List.range arguments.length := by
  rw [openedBlocks, List.filter_eq_self]
  intro number member
  exact decide_eq_true
    (throughNotice_isPrefix reporters arguments (List.mem_range.1 member))

/-! ## The flushes of a report -/

/-- What a report has written and flushed by the time it ends. -/
structure Flushed
    (reporters : List Reporter)
    (arguments : List String)
    (sink : Sink)
    (run : Run Failure)
    (taken : List UInt8) : Prop where
  bytes : run.sink.bytes = sink.bytes ++ taken
  isPrefix : taken <+: utf8 (reportText reporters arguments)
  /-- A flush was asked for after each notice that was written. -/
  calls :
    run.sink.flushCalls =
      sink.flushCalls + (openedBlocks reporters arguments taken).length
  /-- Each was noted where the notice ends, but for a last one that was
  refused. -/
  flushes : ∃ noted refused,
    run.sink.flushes = sink.flushes ++ noted ∧
      (openedBlocks reporters arguments taken).map
          (sink.position + noticeEnd reporters arguments ·) =
        noted ++ refused ∧
      refused.length ≤ 1 ∧ (run.result = .ok () -> refused = [])
  /-- A report that succeeds has written all of its text. -/
  completed :
    run.result = .ok () -> taken = utf8 (reportText reporters arguments)

theorem flushesApart_plan (index : Nat) :
    Plan.FlushesApart (plan index arguments reporters) := by
  rw [Plan.FlushesApart, flushOffsets_plan]
  exact (pairwise_noticeEnds reporters arguments).filter _

/-- A report is flushed after each notice that it has written. -/
theorem blocks_flushed
    (index : Nat)
    (sink : Sink) :
    ∃ taken, Flushed reporters arguments sink
      (blocks index arguments sink reporters) taken := by
  obtain ⟨others, sameResult, sameSink⟩ :=
    blocks_eq_run_plan index arguments sink reporters
  obtain ⟨taken, flushed⟩ :=
    Plan.run_flushed (flushesApart_plan reporters arguments index) sink others
  obtain ⟨added, bytes, _, whole, _⟩ := Plan.run_taken
    (flushesEarly_plan index arguments reporters) sink others
  rw [← sameResult, ← sameSink] at flushed
  rw [← sameSink] at bytes
  rw [← sameResult, text_plan] at whole
  have sameBytes : added = taken :=
    List.append_cancel_left (bytes.symm.trans flushed.bytes)
  have isPrefix : taken <+: utf8 (reportText reporters arguments) := by
    have uttered := flushed.isPrefix.trans (Plan.utterance_isPrefix_text _)
    rwa [text_plan] at uttered
  have reached :
      (Plan.flushOffsets (plan index arguments reporters)).filter
          (· ≤ taken.length) =
        (openedBlocks reporters arguments taken).map
          (noticeEnd reporters arguments) := by
    have within := flushed.isPrefix.length_le
    rw [flushOffsets_plan, List.filter_filter,
      ← filter_noticeEnds reporters arguments isPrefix]
    apply List.filter_congr
    intro place _
    rw [Bool.and_eq_left_iff_imp, decide_eq_true_eq, decide_eq_true_eq]
    omega
  have completed :
      (blocks index arguments sink reporters).result = .ok () ->
        taken = utf8 (reportText reporters arguments) := by
    intro succeeded
    rw [← sameBytes]
    exact whole succeeded
  obtain ⟨noted, refused, flushes, all, one, none⟩ := flushed.flushes
  refine ⟨taken, flushed.bytes, isPrefix, ?_, ?_, completed⟩
  · rw [flushed.calls, reached, List.length_map]
  · refine ⟨noted.map (sink.position + ·), refused.map (sink.position + ·),
      flushes, ?_, ?_, ?_⟩
    · rw [← List.map_append, ← all, reached, List.map_map]
      rfl
    · rw [List.length_map]
      exact one
    · intro succeeded
      rw [none succeeded, List.map_nil]

end Report
end ArgReport
