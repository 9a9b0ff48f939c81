import ArgReport.Proofs.Plan.Scripted

/-!
# What a failure costs

How often a sink can still cause a failure is a number: the times left of its
hard faults and of the faults of its flushes. A plan that the sink lets fail
takes one off it. A plan that succeeds, or gives up by itself, takes nothing
off.

A sink with nothing left where it may still come lets no plan fail.
-/

namespace ArgReport

namespace Sink

/-- How many more failures the sink can cause. -/
def hardBudget (sink : Sink) : Nat :=
  Fault.budget (Fault.hard sink.faults) + Fault.budget sink.flushFaults

@[simp] theorem hardBudget_carry (sink : Sink) (bytes : List UInt8) :
    (sink.carry bytes).hardBudget = sink.hardBudget := by
  rw [hardBudget, hardBudget, hard_faults_carry, flushFaults_carry]

@[simp] theorem hardBudget_flushed (sink : Sink) :
    sink.flushed.hardBudget = sink.hardBudget := rfl

theorem hardBudget_halt
    {sink : Sink}
    {effect : WriteEffect}
    (waits : sink.barrier? 0 = some effect) :
    sink.halt.hardBudget + 1 = sink.hardBudget := by
  rw [barrier?, Nat.add_zero, Option.map_eq_some_iff] at waits
  obtain ⟨⟨_, left⟩, struck, _⟩ := waits
  have spent := Fault.budget_of_strike? struck
  have collided : Fault.hard sink.halt.faults = left :=
    Fault.hard_collide struck
  rw [hardBudget, hardBudget, collided, flushFaults_halt]
  omega

/-- A write that fails takes one off the budget, and one that succeeds takes
nothing off. -/
theorem writeAll_charge
    {sink : Sink}
    (takes : sink.chunk ≠ some 0)
    (bytes : List UInt8) :
    (∃ next, writeAll bytes sink = .ok () next ∧
      next.chunk ≠ some 0 ∧ next.hardBudget = sink.hardBudget) ∨
      ∃ cause next, writeAll bytes sink = .error cause next ∧
        next.chunk ≠ some 0 ∧ next.hardBudget + 1 = sink.hardBudget := by
  rcases sink.clearFor_or_barrier bytes.length with
    clear | ⟨distance, effect, inside, clear, waits⟩
  · exact .inl ⟨_, writeAll_of_clear takes clear, takes,
      hardBudget_carry sink bytes⟩
  · refine .inr ⟨_, _, writeAll_of_barrier takes clear waits inside, takes, ?_⟩
    rw [hardBudget_halt (barrier?_carry_take waits inside), hardBudget_carry]

/-- A flush that fails takes one off the budget, and one that succeeds takes
nothing off. -/
theorem flush_charge
    {sink : Sink}
    (takes : sink.chunk ≠ some 0) :
    (∃ next, flush sink = .ok () next ∧
      next.chunk ≠ some 0 ∧ next.hardBudget = sink.hardBudget) ∨
      ∃ cause next, flush sink = .error cause next ∧
        next.chunk ≠ some 0 ∧ next.hardBudget + 1 = sink.hardBudget := by
  cases waits : sink.refusal? 0 with
  | none => exact .inl ⟨_, flush_of_free waits, takes, rfl⟩
  | some refusal =>
      obtain ⟨left, struck, refused⟩ := flush_of_refusal waits
      have spent := Fault.budget_of_strike? struck
      refine .inr ⟨_, _, refused, takes, ?_⟩
      simp only [hardBudget]
      omega

/-- No fault is left where the sink may still come. -/
structure IsQuiet (sink : Sink) : Prop where
  writes : ∀ fault ∈ Fault.hard sink.faults,
    0 < fault.times -> fault.place < sink.position
  flushes : ∀ fault ∈ sink.flushFaults,
    0 < fault.times -> fault.place < sink.flushCalls

namespace IsQuiet

variable
  {sink : Sink}
  (quiet : sink.IsQuiet)

include quiet

theorem clearFor (distance : Nat) : sink.ClearFor distance := by
  intro nearer _
  rw [barrier?, Option.map_eq_none_iff, Fault.strike?_eq_none_iff]
  intro fault member awaits
  have behind := quiet.writes fault member awaits.2
  have there := awaits.1
  omega

theorem refusal?_eq_none : sink.refusal? 0 = none := by
  rw [refusal?, Option.map_eq_none_iff, Fault.strike?_eq_none_iff]
  intro fault member awaits
  have behind := quiet.flushes fault member awaits.2
  have there := awaits.1
  omega

theorem carry (bytes : List UInt8) : (sink.carry bytes).IsQuiet where
  writes := by
    intro fault member positive
    rw [hard_faults_carry] at member
    have behind := quiet.writes fault member positive
    rw [position_carry]
    omega
  flushes := quiet.flushes

theorem flushed : sink.flushed.IsQuiet where
  writes := quiet.writes
  flushes := fun fault member positive =>
    Nat.lt_succ_of_lt (quiet.flushes fault member positive)

end IsQuiet
end Sink

namespace Plan

variable
  {Error : Type}
  {isScripted : Error -> Prop}

/-- How a run settles with its sink. It succeeds and owes nothing, it fails
because of the sink and pays one, or it fails by a script and owes nothing. -/
inductive Settled
    (isScripted : Error -> Prop)
    (sink : Sink)
    (result : Except Error Unit)
    (after : Sink) : Prop
  | completed
      (succeeded : result = .ok ())
      (same : after.hardBudget = sink.hardBudget)
  | charged
      (failure : Error)
      (failed : result = .error failure)
      (unscripted : ¬isScripted failure)
      (spent : after.hardBudget + 1 = sink.hardBudget)
  | scripted
      (failure : Error)
      (failed : result = .error failure)
      (scripted : isScripted failure)
      (same : after.hardBudget = sink.hardBudget)

/-- A run may settle with a sink of the same budget instead. -/
theorem Settled.of_hardBudget_eq
    {sink next after : Sink}
    {result : Except Error Unit}
    (settled : Settled isScripted next result after)
    (same : next.hardBudget = sink.hardBudget) :
    Settled isScripted sink result after := by
  cases settled with
  | completed succeeded kept => exact .completed succeeded (kept.trans same)
  | charged failure failed unscripted spent =>
      exact .charged failure failed unscripted (spent.trans same)
  | scripted failure failed scripted kept =>
      exact .scripted failure failed scripted (kept.trans same)

/-- Every plan settles with its sink, and leaves one that takes bytes. -/
theorem run_settled
    {plan : Plan Error}
    (tells : plan.TellsTruly isScripted)
    {sink : Sink}
    (takes : sink.chunk ≠ some 0)
    (reporters : List Reporter) :
    (plan.run sink reporters).sink.chunk ≠ some 0 ∧
      Settled isScripted sink (plan.run sink reporters).result
        (plan.run sink reporters).sink := by
  induction plan generalizing sink reporters with
  | nil => exact ⟨takes, .completed rfl rfl⟩
  | cons task rest inductionHypothesis =>
      have restTells : TellsTruly isScripted rest :=
        fun other member => tells other (List.mem_cons_of_mem _ member)
      have taskTells := tells task List.mem_cons_self
      cases task with
      | ask call =>
          exact inductionHypothesis restTells takes
            (reporters.modify call.index Reporter.asked)
      | write bytes blame =>
          rcases Sink.writeAll_charge takes bytes with
            ⟨next, wrote, nextTakes, same⟩ |
              ⟨cause, next, wrote, nextTakes, spent⟩
          · rw [run_write_of_ok _ _ _ wrote]
            obtain ⟨restTakes, settled⟩ :=
              inductionHypothesis restTells nextTakes reporters
            exact ⟨restTakes, settled.of_hardBudget_eq same⟩
          · rw [run_write_of_error _ _ _ wrote]
            exact ⟨nextTakes, .charged _ rfl (taskTells cause) spent⟩
      | flush blame =>
          rcases Sink.flush_charge takes with
            ⟨next, flushed, nextTakes, same⟩ |
              ⟨cause, next, flushed, nextTakes, spent⟩
          · rw [run_flush_of_ok _ _ _ flushed]
            obtain ⟨restTakes, settled⟩ :=
              inductionHypothesis restTells nextTakes reporters
            exact ⟨restTakes, settled.of_hardBudget_eq same⟩
          · rw [run_flush_of_error _ _ _ flushed]
            exact ⟨nextTakes, .charged _ rfl (taskTells cause) spent⟩
      | fail failure => exact ⟨takes, .scripted failure rfl taskTells rfl⟩

/-- A quiet sink stays quiet, and lets a plan fail only if the plan gives up. -/
theorem run_of_quiet
    (plan : Plan Error)
    {sink : Sink}
    (takes : sink.chunk ≠ some 0)
    (quiet : sink.IsQuiet)
    (reporters : List Reporter) :
    (plan.run sink reporters).sink.IsQuiet ∧
      ∀ failure, (plan.run sink reporters).result = .error failure ->
        .fail failure ∈ plan := by
  induction plan generalizing sink reporters with
  | nil =>
      refine ⟨quiet, fun failure failed => ?_⟩
      cases failed
  | cons task rest inductionHypothesis =>
      cases task with
      | ask call =>
          obtain ⟨restQuiet, gaveUp⟩ := inductionHypothesis takes quiet
            (reporters.modify call.index Reporter.asked)
          exact ⟨restQuiet, fun failure failed =>
            List.mem_cons_of_mem _ (gaveUp failure failed)⟩
      | write bytes blame =>
          rw [run_write_of_ok _ _ _
            (Sink.writeAll_of_clear takes (quiet.clearFor bytes.length))]
          obtain ⟨restQuiet, gaveUp⟩ :=
            inductionHypothesis (by simpa using takes) (quiet.carry bytes)
              reporters
          exact ⟨restQuiet, fun failure failed =>
            List.mem_cons_of_mem _ (gaveUp failure failed)⟩
      | flush blame =>
          rw [run_flush_of_ok _ _ _
            (Sink.flush_of_free quiet.refusal?_eq_none)]
          obtain ⟨restQuiet, gaveUp⟩ :=
            inductionHypothesis (by simpa using takes) quiet.flushed reporters
          exact ⟨restQuiet, fun failure failed =>
            List.mem_cons_of_mem _ (gaveUp failure failed)⟩
      | fail failure =>
          refine ⟨quiet, fun other failed => ?_⟩
          injection failed with same
          rw [same]
          exact List.mem_cons_self

end Plan
end ArgReport
