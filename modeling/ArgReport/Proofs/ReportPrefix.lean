import ArgReport.Proofs.Fragments
import ArgReport.Proofs.Plan.Scripted

/-!
# What a report leaves written

Whatever a sink does, and whatever its chunk, the bytes that a report adds to it
begin the text of the report. They are the whole text exactly when the report
succeeds, as long as no script fails.

That a failed report falls short needs an argument. A refused write leaves a
byte of its own unwritten. A refused flush does not, but in a report each flush
has text behind it.
-/

namespace ArgReport

/-! ## The text, spelled out -/

/-- What a reporter writes about an argument, spelled out. -/
def Reporter.spelledText : Reporter -> String -> String
  | .standard builtin, argument => builtin.spelledLine argument
  | .scripted script _, _ => script.output.getD ""

theorem Reporter.text_eq_spelledText :
    Reporter.text = Reporter.spelledText := by
  funext reporter argument
  cases reporter with
  | standard builtin => exact builtin.line_eq_spelledLine argument
  | scripted script calls => rfl

/-- The report of some reporters on some arguments, spelled out. -/
def spelledReport
    (reporters : List Reporter)
    (arguments : List String) : String :=
  let border := String.ofList (List.replicate 60 '*') ++ "\n"
  String.join (arguments.map fun argument =>
    "Here is a little message...\n" ++ border ++
      String.join (reporters.map fun reporter =>
        reporter.spelledText argument) ++ border)

theorem reportText_eq_spelledReport
    (reporters : List Reporter)
    (arguments : List String) :
    reportText reporters arguments = spelledReport reporters arguments := by
  unfold reportText spelledReport
  congr 2
  funext argument
  rw [blockText, findingsText, Reporter.text_eq_spelledText]
  rfl

/-! ## What a sink takes -/

namespace Sink

/-- A write takes all its bytes, or fails with some of them not taken. -/
theorem writeAll_taken (bytes : List UInt8) (sink : Sink) :
    (∃ next, writeAll bytes sink = .ok () next ∧
      next.bytes = sink.bytes ++ bytes) ∨
      ∃ cause next taken, writeAll bytes sink = .error cause next ∧
        next.bytes = sink.bytes ++ taken ∧ taken <+: bytes ∧
        taken.length < bytes.length := by
  by_cases chunk : sink.chunk = some 0
  · by_cases empty : bytes = []
    · subst empty
      exact .inl ⟨sink, writeAll_nil sink, (List.append_nil _).symm⟩
    · have stopped := writeAll_of_chunk_zero empty chunk
      have nothing : sink.bytes = sink.bytes ++ [] := (List.append_nil _).symm
      have short : ([] : List UInt8).length < bytes.length :=
        List.length_pos_iff.2 empty
      cases blocked : sink.barrier? 0 with
      | none =>
          rw [blocked] at stopped
          exact .inr ⟨_, _, [], stopped, nothing, List.nil_prefix, short⟩
      | some effect =>
          rw [blocked] at stopped
          exact .inr ⟨_, _, [], stopped, nothing, List.nil_prefix, short⟩
  · rcases sink.clearFor_or_barrier bytes.length with
      clear | ⟨distance, effect, inside, clear, waits⟩
    · exact .inl ⟨_, writeAll_of_clear chunk clear, sink.bytes_carry bytes⟩
    · refine .inr ⟨_, _, bytes.take distance,
        writeAll_of_barrier chunk clear waits inside, ?_,
        List.take_prefix _ _, ?_⟩
      · rw [bytes_halt, bytes_carry]
      · rw [List.length_take]
        omega

/-- A flush changes no byte. -/
theorem flush_bytes (sink : Sink) :
    (∃ next, flush sink = .ok () next ∧ next.bytes = sink.bytes) ∨
      ∃ cause next, flush sink = .error cause next ∧
        next.bytes = sink.bytes := by
  cases waits : sink.refusal? 0 with
  | none => exact .inl ⟨_, flush_of_free waits, rfl⟩
  | some refusal =>
      obtain ⟨left, _, refused⟩ := flush_of_refusal waits
      exact .inr ⟨_, _, refused, rfl⟩

end Sink

namespace Plan

variable {Error : Type}

/-- Every flush of the plan has text behind it. -/
def FlushesEarly : Plan Error -> Prop
  | [] => True
  | .ask _ :: rest => FlushesEarly rest
  | .write _ _ :: rest => FlushesEarly rest
  | .flush _ :: rest => text rest ≠ [] ∧ FlushesEarly rest
  | .fail _ :: rest => FlushesEarly rest

theorem FlushesEarly.append
    {first second : Plan Error}
    (firstEarly : first.FlushesEarly)
    (secondEarly : second.FlushesEarly) :
    FlushesEarly (first ++ second) := by
  induction first with
  | nil => exact secondEarly
  | cons task rest inductionHypothesis =>
      cases task with
      | ask _ | write _ _ | fail _ => exact inductionHypothesis firstEarly
      | flush blame =>
          obtain ⟨behind, restEarly⟩ := firstEarly
          have further : text (rest ++ second) ≠ [] := by
            rw [text_append]
            exact List.append_ne_nil_of_left_ne_nil behind _
          exact ⟨further, inductionHypothesis restEarly⟩

theorem flushesEarly_of_unflushed
    {plan : Plan Error}
    (unflushed : plan.Unflushed) :
    plan.FlushesEarly := by
  induction plan with
  | nil => trivial
  | cons task rest inductionHypothesis =>
      have further : FlushesEarly rest :=
        inductionHypothesis fun blame member =>
          unflushed blame (List.mem_cons_of_mem _ member)
      cases task with
      | ask _ | write _ _ | fail _ => exact further
      | flush blame =>
          exact False.elim (unflushed blame List.mem_cons_self)

/-- A plan leaves a beginning of its text written: all of it if it succeeds, and
less if its sink fails. -/
theorem run_taken
    {plan : Plan Error}
    (early : plan.FlushesEarly)
    (sink : Sink)
    (reporters : List Reporter) :
    ∃ taken,
      (plan.run sink reporters).sink.bytes = sink.bytes ++ taken ∧
        taken <+: plan.text ∧
        ((plan.run sink reporters).result = .ok () -> taken = plan.text) ∧
        ∀ failure, (plan.run sink reporters).result = .error failure ->
          .fail failure ∈ plan ∨ taken.length < plan.text.length := by
  induction plan generalizing sink reporters with
  | nil =>
      refine ⟨[], (List.append_nil _).symm, List.nil_prefix, fun _ => rfl, ?_⟩
      intro failure failed
      cases failed
  | cons task rest inductionHypothesis =>
      cases task with
      | ask call =>
          obtain ⟨taken, bytes, isPrefix, completed, failed⟩ :=
            inductionHypothesis early sink
              (reporters.modify call.index Reporter.asked)
          refine ⟨taken, bytes, isPrefix, completed, fun failure result => ?_⟩
          exact (failed failure result).imp (List.mem_cons_of_mem _) id
      | write bytes blame =>
          rcases sink.writeAll_taken bytes with
            ⟨next, wrote, written⟩ |
              ⟨cause, next, taken, wrote, written, isPrefix, short⟩
          · rw [run_write_of_ok _ _ _ wrote]
            obtain ⟨taken, further, isPrefix, completed, failed⟩ :=
              inductionHypothesis early next reporters
            refine ⟨bytes ++ taken, ?_,
              (List.prefix_append_right_inj bytes).2 isPrefix, ?_, ?_⟩
            · rw [further, written, List.append_assoc]
            · intro result
              rw [completed result, text]
            · intro failure result
              refine (failed failure result).imp (List.mem_cons_of_mem _) ?_
              intro less
              rw [text, List.length_append, List.length_append]
              omega
          · rw [run_write_of_error _ _ _ wrote]
            refine ⟨taken, written,
              isPrefix.trans (List.prefix_append _ _), ?_, ?_⟩
            · intro result
              cases result
            · intro failure _
              refine .inr ?_
              rw [text, List.length_append]
              omega
      | flush blame =>
          obtain ⟨behind, restEarly⟩ := early
          rcases sink.flush_bytes with
            ⟨next, flushed, same⟩ | ⟨cause, next, flushed, same⟩
          · rw [run_flush_of_ok _ _ _ flushed]
            obtain ⟨taken, bytes, isPrefix, completed, failed⟩ :=
              inductionHypothesis restEarly next reporters
            rw [same] at bytes
            refine ⟨taken, bytes, isPrefix, completed,
              fun failure result => ?_⟩
            exact (failed failure result).imp (List.mem_cons_of_mem _) id
          · rw [run_flush_of_error _ _ _ flushed]
            refine ⟨[], ?_, List.nil_prefix, ?_, ?_⟩
            · rw [same, List.append_nil]
            · intro result
              cases result
            · intro failure _
              exact .inr (List.length_pos_iff.2 behind)
      | fail failure =>
          refine ⟨[], (List.append_nil _).symm, List.nil_prefix, ?_, ?_⟩
          · intro result
            cases result
          · intro other result
            injection result with same
            subst same
            exact .inl List.mem_cons_self

end Plan

namespace Report

theorem flushesEarly_blockPlan
    (argument : String)
    (index : Nat)
    (reporters : List Reporter) :
    Plan.FlushesEarly (blockPlan argument index reporters) := by
  have border : Plan.Unflushed borderPlan := by
    intro blame member
    simp [borderPlan] at member
  have behind : Plan.text borderPlan ≠ [] := by
    have lineEnd : "\n".utf8ByteSize = 1 := rfl
    apply List.length_pos_iff.1
    simp only [borderPlan, Plan.text, borderLine, utf8_append,
      List.append_nil, List.length_append, length_utf8]
    omega
  have framed : Plan.FlushesEarly
      (borderPlan ++ (consultPlan argument index reporters ++ borderPlan)) :=
    (Plan.flushesEarly_of_unflushed border).append
      ((Plan.flushesEarly_of_unflushed
        (unflushed_consultPlan argument index reporters)).append
          (Plan.flushesEarly_of_unflushed border))
  have further : Plan.text (borderPlan ++
      (consultPlan argument index reporters ++ borderPlan)) ≠ [] := by
    rw [Plan.text_append]
    exact List.append_ne_nil_of_left_ne_nil behind _
  exact ⟨further, framed⟩

theorem flushesEarly_plan
    (index : Nat)
    (arguments : List String)
    (reporters : List Reporter) :
    Plan.FlushesEarly (plan index arguments reporters) := by
  induction arguments generalizing reporters with
  | nil => trivial
  | cons argument rest inductionHypothesis =>
      rw [plan]
      exact (flushesEarly_blockPlan argument index reporters).append
        (inductionHypothesis _)

/-- A report in which no script fails adds a beginning of its text, spelled out,
to its sink, whatever the sink does. It succeeds exactly when it adds the whole
text, and falls short of it when it fails. -/
theorem blocks_add_prefix
    (index : Nat)
    (arguments : List String)
    (reporters : List Reporter)
    (sink : Sink)
    (unscripted : ∀ failure,
      (blocks index arguments sink reporters).result = .error failure ->
        ¬failure.IsScripted) :
    let run := blocks index arguments sink reporters
    let expected := utf8 (spelledReport reporters arguments)
    ∃ added, run.sink.bytes = sink.bytes ++ added ∧ added <+: expected ∧
      (run.result = .ok () ↔ added = expected) ∧
      ∀ failure, run.result = .error failure ->
        added.length < expected.length := by
  intro run expected
  obtain ⟨others, sameResult, sameSink⟩ :=
    blocks_eq_run_plan index arguments sink reporters
  obtain ⟨added, bytes, isPrefix, completed, failed⟩ :=
    Plan.run_taken (flushesEarly_plan index arguments reporters) sink others
  rw [text_plan, reportText_eq_spelledReport] at isPrefix completed failed
  rw [← sameResult] at completed failed
  rw [← sameSink] at bytes
  have short : ∀ failure, run.result = .error failure ->
      added.length < expected.length := by
    intro failure result
    rcases failed failure result with givesUp | less
    · have scripted :=
        tellsTruly_plan index arguments reporters (.fail failure) givesUp
      exact absurd scripted (unscripted failure result)
    · exact less
  refine ⟨added, bytes, isPrefix, ⟨completed, ?_⟩, short⟩
  intro whole
  cases result : run.result with
  | ok => rfl
  | error failure =>
      have less := short failure result
      rw [whole] at less
      exact absurd less (Nat.lt_irrefl _)

/-- A sink that stalls within the second border keeps what came before. -/
theorem blocks_add_prefix_of_stalling_sink :
    let sink : Sink :=
      { chunk := some 20, faults := [{ place := 120, effect := .stall }] }
    let reporters : List Reporter :=
      [.scripted { name := "quiet", failingCall := some 2 }]
    let run := blocks 0 ["a"] sink reporters
    (∀ failure, run.result = .error failure -> ¬failure.IsScripted) ∧
      run.result = .error (.border .stalled) ∧
      ∃ added, run.sink.bytes = sink.bytes ++ added ∧
        added <+: utf8 (spelledReport reporters ["a"]) ∧
        added.length < (utf8 (spelledReport reporters ["a"])).length := by
  have stalled :
      (blocks 0 ["a"]
        { chunk := some 20, faults := [{ place := 120, effect := .stall }] }
        [.scripted { name := "quiet", failingCall := some 2 }]).result =
        .error (.border .stalled) := by
    decide +kernel
  intro sink reporters run
  have unscripted : ∀ failure, run.result = .error failure ->
      ¬failure.IsScripted := by
    intro failure result
    have same := result.symm.trans stalled
    injection same with same
    subst same
    exact id
  obtain ⟨added, bytes, isPrefix, _, short⟩ :=
    blocks_add_prefix 0 ["a"] reporters sink unscripted
  exact ⟨unscripted, stalled, added, bytes, isPrefix, short _ stalled⟩

end Report
end ArgReport
