import ArgReport.Proofs.Sink.Outcome

/-!
# Where a write stops, fault by fault

The outcome of a write is told here through the faults themselves, as they stand
in the list of the sink. A fault blocks a write if it is hard and waits along the
bytes. If none does, the transient ones along the bytes are used up and the
others are left alone. Otherwise the write stops at the nearest place with one.
The foremost of those that block it there is hit, and the transient faults that
the write came by before that are used up: all of those at earlier places, and
at the last place those that stand in front of the one that is hit.
-/

namespace ArgReport
namespace Fault

/-- The fault ends a write that comes along these places. -/
def Blocks (first last : Nat) (fault : Fault WriteEffect) : Prop :=
  fault.IsHard ∧ 0 < fault.times ∧ first ≤ fault.place ∧ fault.place < last

instance (first last : Nat) (fault : Fault WriteEffect) :
    Decidable (fault.Blocks first last) :=
  inferInstanceAs (Decidable (_ ∧ _ ∧ _ ∧ _))

/-- Among the faults along these places, a write is stopped by this one: no
blocking fault is nearer, and none at the same place stands in front of it. -/
structure Stops
    (first last : Nat)
    (before : List (Fault WriteEffect))
    (hit : Fault WriteEffect)
    (behind : List (Fault WriteEffect)) : Prop where
  blocks : hit.Blocks first last
  nearest : ∀ other ∈ before ++ hit :: behind, other.Blocks first last ->
    hit.place ≤ other.place
  foremost : ∀ other ∈ before, other.Blocks first last ->
    hit.place ≠ other.place

namespace Stops

variable
  {first last : Nat}
  {before behind otherBefore otherBehind : List (Fault WriteEffect)}
  {hit otherHit : Fault WriteEffect}

theorem not_mem_before
    (stops : Stops first last before hit behind)
    (otherStops : Stops first last otherBefore otherHit otherBehind)
    (same : before ++ hit :: behind = otherBefore ++ otherHit :: otherBehind) :
    hit ∉ otherBefore := by
  intro member
  have otherIn : otherHit ∈ before ++ hit :: behind := by
    rw [same]
    exact List.mem_append_cons_self
  have nearer := stops.nearest otherHit otherIn otherStops.blocks
  have otherNearer := otherStops.nearest hit
    (List.mem_append_left _ member) stops.blocks
  exact otherStops.foremost hit member stops.blocks
    (Nat.le_antisymm otherNearer nearer)

/-- Only one fault stops a write. -/
theorem unique
    (stops : Stops first last before hit behind)
    (otherStops : Stops first last otherBefore otherHit otherBehind)
    (same : before ++ hit :: behind = otherBefore ++ otherHit :: otherBehind) :
    before = otherBefore ∧ hit = otherHit ∧ behind = otherBehind := by
  have absent := stops.not_mem_before otherStops same
  have otherAbsent := otherStops.not_mem_before stops same.symm
  rcases List.append_eq_append_iff.1 same with
    ⟨between, rfl, rest⟩ | ⟨between, rfl, rest⟩
  · cases between with
    | nil =>
        injection rest with sameHit sameBehind
        exact ⟨(List.append_nil _).symm, sameHit, sameBehind⟩
    | cons fault between =>
        injection rest with sameHit _
        exact absurd (by simp [sameHit]) absent
  · cases between with
    | nil =>
        injection rest with sameHit sameBehind
        exact ⟨List.append_nil _, sameHit.symm, sameBehind.symm⟩
    | cons fault between =>
        injection rest with sameHit _
        exact absurd (by simp [sameHit]) otherAbsent

end Stops

/-- What is left of the faults once one of them has stopped a write. -/
def stopped
    (first : Nat)
    (before : List (Fault WriteEffect))
    (hit : Fault WriteEffect)
    (behind : List (Fault WriteEffect)) : List (Fault WriteEffect) :=
  sweep first (hit.place + 1) before ++
    hit.spend :: sweep first hit.place behind

/-- A fault that does not wait at a place is left by a write that comes there as
by one that stops before. -/
theorem crossed_succ
    {place : Nat}
    {fault : Fault WriteEffect}
    (elsewhere : ¬fault.Awaits place)
    (first : Nat) :
    fault.crossed first (place + 1) = fault.crossed first place := by
  by_cases here : fault.place = place
  · have spent : fault.times = 0 := by
      by_contra positive
      exact elsewhere ⟨here, Nat.pos_of_ne_zero positive⟩
    unfold crossed
    rw [exhaust_eq_self spent, ite_self, ite_self]
  · unfold crossed
    congr 1
    apply propext
    constructor
    · rintro ⟨transient, lower, upper⟩
      exact ⟨transient, lower, by omega⟩
    · rintro ⟨transient, lower, upper⟩
      exact ⟨transient, lower, by omega⟩

theorem awaits_crossed_iff
    (first place : Nat)
    (fault : Fault WriteEffect) :
    (fault.crossed first place).Awaits place ↔ fault.Awaits place := by
  by_cases inside :
      fault.effect.IsTransient ∧ first ≤ fault.place ∧ fault.place < place
  · rw [crossed, if_pos inside]
    constructor
    · rintro ⟨_, positive⟩
      exact absurd positive (Nat.lt_irrefl 0)
    · rintro ⟨here, _⟩
      omega
  · rw [crossed, if_neg inside]

/-- A write that has come to a place and is stopped there. -/
theorem collide_sweep
    {first place : Nat}
    (lower : first ≤ place)
    {faults left : List (Fault WriteEffect)}
    {effect : WriteEffect}
    (struck : strike? place (hard faults) = some (effect, left)) :
    ∃ before hit behind,
      faults = before ++ hit :: behind ∧
        hit.IsHard ∧ hit.Awaits place ∧ hit.effect = effect ∧
        (∀ other ∈ before, other.IsHard -> ¬other.Awaits place) ∧
        collide place (sweep first place faults) =
          stopped first before hit behind := by
  induction faults generalizing left with
  | nil => simp [hard, strike?] at struck
  | cons fault rest inductionHypothesis =>
      by_cases hits : fault.IsHard ∧ fault.Awaits place
      · obtain ⟨isHard, awaits⟩ := hits
        rw [hard_cons_of_isHard isHard, strike?, if_pos awaits] at struck
        injection struck with pair
        injection pair with sameEffect _
        refine ⟨[], fault, rest, rfl, isHard, awaits, sameEffect, ?_, ?_⟩
        · intro other member
          cases member
        · rw [sweep_cons, crossed_of_isHard isHard, collide, if_pos awaits,
            if_pos isHard, stopped, awaits.1]
          rfl
      · -- The strike is further on, and this fault is got past.
        have further : ∃ others,
            strike? place (hard rest) = some (effect, others) := by
          by_cases isHard : fault.IsHard
          · have elsewhere : ¬fault.Awaits place :=
              fun awaits => hits ⟨isHard, awaits⟩
            rw [hard_cons_of_isHard isHard, strike?, if_neg elsewhere,
              Option.map_eq_some_iff] at struck
            obtain ⟨⟨_, others⟩, restStruck, pair⟩ := struck
            injection pair with sameEffect _
            exact ⟨others, by rw [restStruck, sameEffect]⟩
          · rw [hard_cons_of_isTransient (Decidable.not_not.1 isHard)]
              at struck
            exact ⟨left, struck⟩
        have passed : collide place (sweep first place (fault :: rest)) =
            fault.crossed first (place + 1) ::
              collide place (sweep first place rest) := by
          rw [sweep_cons, collide]
          by_cases awaits : fault.Awaits place
          · have transient : fault.effect.IsTransient :=
              Decidable.not_not.1 fun isHard => hits ⟨isHard, awaits⟩
            have soft : ¬(fault.crossed first place).IsHard := by
              rw [IsHard, effect_crossed]
              exact not_not_intro transient
            have unchanged : fault.crossed first place = fault := by
              rw [crossed, if_neg (by have := awaits.1; omega)]
            rw [if_pos ((awaits_crossed_iff first place fault).2 awaits),
              if_neg soft, unchanged, crossed,
              if_pos ⟨transient, by have := awaits.1; omega,
                by have := awaits.1; omega⟩]
          · rw [if_neg (mt (awaits_crossed_iff first place fault).1 awaits),
              crossed_succ awaits]
        obtain ⟨others, restStruck⟩ := further
        obtain ⟨before, hit, behind, rfl, isHard, awaits, sameEffect, absent,
          collided⟩ := inductionHypothesis restStruck
        refine ⟨fault :: before, hit, behind, rfl, isHard, awaits, sameEffect,
          ?_, ?_⟩
        · intro other member otherHard otherAwaits
          rcases List.mem_cons.1 member with rfl | inBefore
          · exact hits ⟨otherHard, otherAwaits⟩
          · exact absent other inBefore otherHard otherAwaits
        · rw [passed, collided, stopped, stopped, sweep_cons, awaits.1,
            List.cons_append]

end Fault

namespace Sink

/-- A distance is clear exactly when no fault blocks a write along it. -/
theorem clearFor_iff_blocks
    {sink : Sink}
    {distance : Nat} :
    sink.ClearFor distance ↔
      ∀ fault ∈ sink.faults,
        ¬fault.Blocks sink.position (sink.position + distance) := by
  constructor
  · rintro clear fault member ⟨isHard, positive, lower, upper⟩
    have nothing := clear (fault.place - sink.position) (by omega)
    rw [barrier?, Option.map_eq_none_iff, Fault.strike?_eq_none_iff] at nothing
    exact nothing fault
      (List.mem_filter.2 ⟨member, decide_eq_true isHard⟩)
      ⟨by omega, positive⟩
  · intro absent nearer inside
    rw [barrier?, Option.map_eq_none_iff, Fault.strike?_eq_none_iff]
    intro fault member awaits
    obtain ⟨member, isHard⟩ := List.mem_filter.1 member
    exact absent fault member
      ⟨of_decide_eq_true isHard, awaits.2, by have := awaits.1; omega,
        by have := awaits.1; omega⟩

/-- The sink after it has taken some bytes, with these faults left. -/
def took
    (sink : Sink)
    (bytes : List UInt8)
    (faults : List (Fault WriteEffect)) : Sink :=
  { sink.accept bytes with faults }

theorem halt_carry_of_barrier
    {sink : Sink}
    {length distance : Nat}
    {effect : WriteEffect}
    (clear : sink.ClearFor distance)
    (waits : sink.barrier? distance = some effect)
    (inside : distance < length) :
    ∃ before hit behind,
      sink.faults = before ++ hit :: behind ∧
        Fault.Stops sink.position (sink.position + length) before hit behind ∧
        hit.place = sink.position + distance ∧ hit.effect = effect ∧
        ∀ bytes : List UInt8, bytes.length = distance ->
          (sink.carry bytes).halt =
            sink.took bytes (Fault.stopped sink.position before hit behind) := by
  rw [barrier?, Option.map_eq_some_iff] at waits
  obtain ⟨⟨_, left⟩, struck, rfl⟩ := waits
  obtain ⟨before, hit, behind, split, isHard, awaits, sameEffect, absent,
    collided⟩ := Fault.collide_sweep (Nat.le_add_right _ distance) struck
  have here := awaits.1
  refine ⟨before, hit, behind, split, ?_, here, sameEffect, ?_⟩
  · refine ⟨⟨isHard, awaits.2, by omega, by omega⟩, ?_, ?_⟩
    · intro other member blocks
      rw [← split] at member
      by_contra nearer
      exact clearFor_iff_blocks.1 clear other member
        ⟨blocks.1, blocks.2.1, blocks.2.2.1, by omega⟩
    · intro other member blocks same
      exact absent other member blocks.1 ⟨by omega, blocks.2.1⟩
  · intro bytes reached
    rw [halt, position_carry, carry, took, reached, ← collided]

end Sink
end ArgReport
