import ArgReport.Sink.Basic
import Mathlib.Tactic.Common

/-!
# Transient and hard faults

A transient fault is got past by trying again, so a write that comes by uses it
up. A hard fault ends the write and loses one of its times.

`sweep` is what a write leaves of the faults along a stretch that it crosses,
and `collide` what it leaves of those at the place where it ends. Neither is
defined through the loop that retries. Both act on the whole list, and the list
of hard faults sees only the strike that ends the write.
-/

namespace ArgReport
namespace Fault

/-- The fault is not got past by trying again. -/
def IsHard (fault : Fault WriteEffect) : Prop :=
  ¬fault.effect.IsTransient

instance (fault : Fault WriteEffect) : Decidable fault.IsHard :=
  inferInstanceAs (Decidable (¬_))

/-- The hard faults of a list, in order. -/
def hard (faults : List (Fault WriteEffect)) : List (Fault WriteEffect) :=
  faults.filter fun fault => fault.IsHard

@[simp] theorem hard_append (first second : List (Fault WriteEffect)) :
    hard (first ++ second) = hard first ++ hard second := by
  simp [hard]

theorem hard_cons_of_isHard
    {fault : Fault WriteEffect}
    (isHard : fault.IsHard)
    (rest : List (Fault WriteEffect)) :
    hard (fault :: rest) = fault :: hard rest := by
  simp [hard, isHard]

theorem hard_cons_of_isTransient
    {fault : Fault WriteEffect}
    (transient : fault.effect.IsTransient)
    (rest : List (Fault WriteEffect)) :
    hard (fault :: rest) = hard rest := by
  simp [hard, IsHard, transient]

@[simp] theorem isHard_spend (fault : Fault WriteEffect) :
    fault.spend.IsHard ↔ fault.IsHard := Iff.rfl

/-- The fault with no times left. -/
def exhaust (fault : Fault WriteEffect) : Fault WriteEffect :=
  { fault with times := 0 }

theorem exhaust_eq_self
    {fault : Fault WriteEffect}
    (spent : fault.times = 0) :
    fault.exhaust = fault := by
  cases fault
  simp_all [exhaust]

/-! ## The first fault that waits -/

/-- A strike comes from the first fault of the list that waits at the place,
and leaves the others as they are. -/
theorem exists_of_strike?
    {Effect : Type}
    {place : Nat}
    {faults left : List (Fault Effect)}
    {effect : Effect}
    (struck : strike? place faults = some (effect, left)) :
    ∃ before fault after,
      faults = before ++ fault :: after ∧
        (∀ earlier ∈ before, ¬earlier.Awaits place) ∧
        fault.Awaits place ∧ fault.effect = effect ∧
        left = before ++ fault.spend :: after := by
  induction faults generalizing left with
  | nil => simp [strike?] at struck
  | cons fault rest inductionHypothesis =>
      by_cases awaits : fault.Awaits place
      · simp only [strike?, awaits, if_true, Option.some.injEq,
          Prod.mk.injEq] at struck
        obtain ⟨rfl, rfl⟩ := struck
        exact ⟨[], fault, rest, rfl, by simp, awaits, rfl, rfl⟩
      · simp only [strike?, awaits, if_false, Option.map_eq_some_iff,
          Prod.mk.injEq] at struck
        obtain ⟨⟨_, others⟩, restStruck, rfl, rfl⟩ := struck
        obtain ⟨before, first, after, rfl, absent, here, rfl, rfl⟩ :=
          inductionHypothesis restStruck
        refine ⟨fault :: before, first, after, rfl, ?_, here, rfl, rfl⟩
        intro earlier member
        rcases List.mem_cons.1 member with same | inBefore
        · rw [same]
          exact awaits
        · exact absent earlier inBefore

/-- Faults that do not wait at the place are passed over. -/
theorem strike?_append_of_absent
    {Effect : Type}
    {place : Nat}
    {before : List (Fault Effect)}
    (absent : ∀ earlier ∈ before, ¬earlier.Awaits place)
    (after : List (Fault Effect)) :
    strike? place (before ++ after) =
      (strike? place after).map fun (effect, left) =>
        (effect, before ++ left) := by
  induction before with
  | nil => simp
  | cons fault rest inductionHypothesis =>
      have elsewhere : ¬fault.Awaits place := absent fault (by simp)
      have restAbsent : ∀ earlier ∈ rest, ¬earlier.Awaits place :=
        fun earlier member => absent earlier (by simp [member])
      simp only [List.cons_append, strike?, elsewhere, if_false,
        inductionHypothesis restAbsent, Option.map_map]
      rfl

/-! ## Crossing a stretch -/

/-- The fault after a write has crossed a stretch, from `first` up to but not
at `last`. A transient fault in it is used up. -/
def crossed
    (first last : Nat)
    (fault : Fault WriteEffect) : Fault WriteEffect :=
  if fault.effect.IsTransient ∧ first ≤ fault.place ∧ fault.place < last then
    fault.exhaust
  else
    fault

@[simp] theorem effect_crossed
    (first last : Nat)
    (fault : Fault WriteEffect) :
    (fault.crossed first last).effect = fault.effect := by
  unfold crossed
  split <;> rfl

@[simp] theorem place_crossed
    (first last : Nat)
    (fault : Fault WriteEffect) :
    (fault.crossed first last).place = fault.place := by
  unfold crossed
  split <;> rfl

theorem crossed_of_isHard
    {fault : Fault WriteEffect}
    (isHard : fault.IsHard)
    (first last : Nat) :
    fault.crossed first last = fault := by
  rw [crossed, if_neg]
  rintro ⟨transient, _⟩
  exact isHard transient

/-- Only a fault that waits in the stretch is changed. -/
theorem crossed_of_not_awaits
    {first last : Nat}
    {fault : Fault WriteEffect}
    (absent : ∀ place, first ≤ place -> place < last -> ¬fault.Awaits place) :
    fault.crossed first last = fault := by
  unfold crossed
  split
  · rename_i inside
    obtain ⟨_, lower, upper⟩ := inside
    apply exhaust_eq_self
    by_contra positive
    exact absent fault.place lower upper
      ⟨rfl, Nat.pos_of_ne_zero positive⟩
  · rfl

/-- Whatever transient faults wait along a stretch, a write that crosses it
uses up. -/
def sweep
    (first last : Nat)
    (faults : List (Fault WriteEffect)) : List (Fault WriteEffect) :=
  faults.map fun fault => fault.crossed first last

@[simp] theorem sweep_append
    (first last : Nat)
    (before after : List (Fault WriteEffect)) :
    sweep first last (before ++ after) =
      sweep first last before ++ sweep first last after := by
  simp [sweep]

@[simp] theorem sweep_cons
    (first last : Nat)
    (fault : Fault WriteEffect)
    (rest : List (Fault WriteEffect)) :
    sweep first last (fault :: rest) =
      fault.crossed first last :: sweep first last rest := by
  simp [sweep]

/-- Nothing is changed where nothing waits. -/
theorem sweep_of_absent
    {first last : Nat}
    {faults : List (Fault WriteEffect)}
    (absent : ∀ fault ∈ faults, ∀ place,
      first ≤ place -> place < last -> ¬fault.Awaits place) :
    sweep first last faults = faults := by
  induction faults with
  | nil => rfl
  | cons fault rest inductionHypothesis =>
      rw [sweep_cons, crossed_of_not_awaits (absent fault (by simp)),
        inductionHypothesis fun other member =>
          absent other (by simp [member])]

/-- An empty stretch has no faults. -/
@[simp] theorem sweep_self
    (place : Nat)
    (faults : List (Fault WriteEffect)) :
    sweep place place faults = faults := by
  apply sweep_of_absent
  intro fault _ other lower upper
  omega

/-- Two stretches in a row are one. -/
theorem sweep_sweep
    {first middle last : Nat}
    (lower : first ≤ middle)
    (upper : middle ≤ last)
    (faults : List (Fault WriteEffect)) :
    sweep middle last (sweep first middle faults) =
      sweep first last faults := by
  unfold sweep
  rw [List.map_map]
  apply List.map_congr_left
  intro fault _
  by_cases inFirst :
      fault.effect.IsTransient ∧ first ≤ fault.place ∧ fault.place < middle
  · have inWhole :
        fault.effect.IsTransient ∧ first ≤ fault.place ∧ fault.place < last :=
      ⟨inFirst.1, inFirst.2.1, by omega⟩
    have spent : (fault.crossed first middle).crossed middle last =
        fault.crossed first middle := by
      rw [crossed, if_neg]
      rw [place_crossed]
      omega
    rw [Function.comp_apply, spent, crossed, crossed, if_pos inFirst,
      if_pos inWhole]
  · have same : fault.crossed first middle = fault := by
      rw [crossed, if_neg inFirst]
    rw [Function.comp_apply, same]
    unfold crossed
    congr 1
    apply propext
    constructor
    · rintro ⟨transient, above, below⟩
      exact ⟨transient, by omega, below⟩
    · rintro ⟨transient, above, below⟩
      refine ⟨transient, ?_, below⟩
      by_contra under
      exact inFirst ⟨transient, above, by omega⟩

/-- Crossing a stretch leaves the hard faults alone. -/
@[simp] theorem hard_sweep
    (first last : Nat)
    (faults : List (Fault WriteEffect)) :
    hard (sweep first last faults) = hard faults := by
  induction faults with
  | nil => rfl
  | cons fault rest inductionHypothesis =>
      rw [sweep_cons]
      by_cases transient : fault.effect.IsTransient
      · rw [hard_cons_of_isTransient (by simpa using transient),
          hard_cons_of_isTransient transient, inductionHypothesis]
      · rw [crossed_of_isHard transient, hard_cons_of_isHard transient,
          hard_cons_of_isHard transient, inductionHypothesis]

/-! ## Ending at a place -/

/-- What a write that ends at a place leaves of the faults. The transient ones
that wait there are used up as far as the first hard one, which loses one of its
times. -/
def collide (place : Nat) :
    List (Fault WriteEffect) -> List (Fault WriteEffect)
  | [] => []
  | fault :: rest =>
      if fault.Awaits place then
        if fault.IsHard then
          fault.spend :: rest
        else
          fault.exhaust :: collide place rest
      else
        fault :: collide place rest

theorem collide_append_of_absent
    {place : Nat}
    {before : List (Fault WriteEffect)}
    (absent : ∀ earlier ∈ before, ¬earlier.Awaits place)
    (after : List (Fault WriteEffect)) :
    collide place (before ++ after) = before ++ collide place after := by
  induction before with
  | nil => rfl
  | cons fault rest inductionHypothesis =>
      have elsewhere : ¬fault.Awaits place := absent fault (by simp)
      rw [List.cons_append, collide, if_neg elsewhere, inductionHypothesis]
      · rfl
      · intro earlier member
        exact absent earlier (by simp [member])

/-- Seen by the hard faults, ending at a place is one strike. -/
theorem hard_collide
    {place : Nat}
    {faults left : List (Fault WriteEffect)}
    {effect : WriteEffect}
    (struck : strike? place (hard faults) = some (effect, left)) :
    hard (collide place faults) = left := by
  induction faults generalizing left with
  | nil => simp [hard, strike?] at struck
  | cons fault rest inductionHypothesis =>
      by_cases isHard : fault.IsHard
      · rw [hard_cons_of_isHard isHard, strike?] at struck
        by_cases awaits : fault.Awaits place
        · rw [if_pos awaits] at struck
          injection struck with pair
          injection pair with _ same
          rw [collide, if_pos awaits, if_pos isHard, ← same]
          exact hard_cons_of_isHard ((isHard_spend fault).2 isHard) rest
        · rw [if_neg awaits, Option.map_eq_some_iff] at struck
          obtain ⟨⟨_, others⟩, restStruck, pair⟩ := struck
          injection pair with sameEffect same
          rw [sameEffect] at restStruck
          rw [collide, if_neg awaits, hard_cons_of_isHard isHard, ← same,
            inductionHypothesis restStruck]
      · have transient : fault.effect.IsTransient := Decidable.not_not.1 isHard
        rw [hard_cons_of_isTransient transient] at struck
        by_cases awaits : fault.Awaits place
        · have exhausted : fault.exhaust.effect.IsTransient := transient
          rw [collide, if_pos awaits, if_neg isHard,
            hard_cons_of_isTransient exhausted, inductionHypothesis struck]
        · rw [collide, if_neg awaits, hard_cons_of_isTransient transient,
            inductionHypothesis struck]

/-! ## A strike among all faults -/

section Strike

variable
  {place : Nat}
  {faults left : List (Fault WriteEffect)}
  {effect : WriteEffect}

/-- A hard strike is the one that the hard faults make by themselves. -/
theorem strike?_hard_of_isHard
    (struck : strike? place faults = some (effect, left))
    (isHard : ¬effect.IsTransient) :
    strike? place (hard faults) = some (effect, hard left) ∧
      collide place faults = left := by
  obtain ⟨before, fault, after, rfl, absent, here, rfl, rfl⟩ :=
    exists_of_strike? struck
  have hardAbsent : ∀ earlier ∈ hard before, ¬earlier.Awaits place :=
    fun earlier member => absent earlier (List.mem_filter.1 member).1
  constructor
  · rw [hard_append, hard_cons_of_isHard isHard,
      strike?_append_of_absent hardAbsent, strike?, if_pos here, hard_append,
      hard_cons_of_isHard ((isHard_spend fault).2 isHard)]
    rfl
  · have faultHard : fault.IsHard := isHard
    rw [collide_append_of_absent absent, collide, if_pos here,
      if_pos faultHard]

/-- A transient strike is not seen by the hard faults, and changes neither what
a crossing leaves nor what an end at the place leaves. -/
theorem hard_of_isTransient
    (struck : strike? place faults = some (effect, left))
    (transient : effect.IsTransient) :
    hard left = hard faults := by
  obtain ⟨before, fault, after, rfl, _, _, rfl, rfl⟩ :=
    exists_of_strike? struck
  have spendTransient : fault.spend.effect.IsTransient := transient
  rw [hard_append, hard_append, hard_cons_of_isTransient transient,
    hard_cons_of_isTransient spendTransient]

theorem sweep_of_isTransient
    (struck : strike? place faults = some (effect, left))
    (transient : effect.IsTransient)
    {first last : Nat}
    (lower : first ≤ place)
    (upper : place < last) :
    sweep first last left = sweep first last faults := by
  obtain ⟨before, fault, after, rfl, _, here, rfl, rfl⟩ :=
    exists_of_strike? struck
  have inside : fault.effect.IsTransient ∧ first ≤ fault.place ∧
      fault.place < last :=
    ⟨transient, by rw [here.1]; exact lower, by rw [here.1]; exact upper⟩
  have same : fault.spend.crossed first last = fault.crossed first last := by
    rw [crossed, crossed, if_pos inside]
    exact if_pos inside
  rw [sweep_append, sweep_append, sweep_cons, sweep_cons, same]

theorem collide_of_isTransient
    (struck : strike? place faults = some (effect, left))
    (transient : effect.IsTransient) :
    collide place left = collide place faults := by
  obtain ⟨before, fault, after, rfl, absent, here, rfl, rfl⟩ :=
    exists_of_strike? struck
  have soft : ¬fault.IsHard := not_not_intro transient
  rw [collide_append_of_absent absent, collide_append_of_absent absent,
    collide, collide, if_pos here, if_neg soft]
  congr 1
  by_cases more : fault.spend.Awaits place
  · rw [if_pos more, if_neg (mt (isHard_spend fault).1 soft)]
    rfl
  · have spent : fault.spend.times = 0 := by
      by_contra positive
      exact more ⟨here.1, Nat.pos_of_ne_zero positive⟩
    rw [if_neg more, ← exhaust_eq_self spent]
    rfl

end Strike

end Fault
end ArgReport
