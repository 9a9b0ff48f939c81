/-!
# Faults that wait at a place

A fault is set at a place and strikes whoever comes there, as often as it has
times left. Places are positions in the output for writes and numbers of calls
for flushes, so the faults of both are described here once, for any kind of
effect.

When several faults wait at one place, the first in the list strikes. The times
left over a whole list are its budget, and each strike takes one off it.
-/

namespace ArgReport

/-- Something that happens at a place, a number of times. -/
structure Fault (Effect : Type) where
  /-- Where it happens. -/
  place : Nat
  /-- What happens. -/
  effect : Effect
  /-- How many times it is still to happen. -/
  times : Nat := 1
  deriving DecidableEq, Repr

namespace Fault

variable {Effect : Type}

/-- The fault has times left and waits at this place. -/
def Awaits (fault : Fault Effect) (place : Nat) : Prop :=
  fault.place = place ∧ 0 < fault.times

instance (fault : Fault Effect) (place : Nat) :
    Decidable (fault.Awaits place) :=
  inferInstanceAs (Decidable (_ ∧ _))

/-- The fault after one more strike. -/
def spend (fault : Fault Effect) : Fault Effect :=
  { fault with times := fault.times - 1 }

/-- Strikes left in a list of faults. -/
def budget : List (Fault Effect) -> Nat
  | [] => 0
  | fault :: rest => fault.times + budget rest

@[simp] theorem budget_nil : budget ([] : List (Fault Effect)) = 0 := rfl

@[simp] theorem budget_cons
    (fault : Fault Effect)
    (rest : List (Fault Effect)) :
    budget (fault :: rest) = fault.times + budget rest := rfl

/-- Let the first fault that waits at a place strike. The answer is its effect
and the faults that are left. -/
def strike? (place : Nat) :
    List (Fault Effect) -> Option (Effect × List (Fault Effect))
  | [] => none
  | fault :: rest =>
      if fault.Awaits place then
        some (fault.effect, fault.spend :: rest)
      else
        (strike? place rest).map fun (effect, left) => (effect, fault :: left)

/-- Nothing strikes exactly where no fault waits. -/
theorem strike?_eq_none_iff
    {place : Nat}
    {faults : List (Fault Effect)} :
    strike? place faults = none ↔ ∀ fault ∈ faults, ¬fault.Awaits place := by
  induction faults with
  | nil => simp [strike?]
  | cons fault rest inductionHypothesis =>
      by_cases awaits : fault.Awaits place <;>
        simp [strike?, awaits, inductionHypothesis]

/-- A strike takes one off the budget. -/
theorem budget_of_strike?
    {place : Nat}
    {faults left : List (Fault Effect)}
    {effect : Effect}
    (struck : strike? place faults = some (effect, left)) :
    budget left + 1 = budget faults := by
  induction faults generalizing left with
  | nil => simp [strike?] at struck
  | cons fault rest inductionHypothesis =>
      by_cases awaits : fault.Awaits place
      · have positive : 0 < fault.times := awaits.2
        simp only [strike?, awaits, if_true, Option.some.injEq,
          Prod.mk.injEq] at struck
        obtain ⟨_, rfl⟩ := struck
        simp only [budget_cons, spend]
        omega
      · simp only [strike?, awaits, if_false, Option.map_eq_some_iff,
          Prod.mk.injEq] at struck
        obtain ⟨⟨_, others⟩, restStruck, rfl, rfl⟩ := struck
        have smaller := inductionHypothesis restStruck
        simp only [budget_cons]
        omega

end Fault
end ArgReport
