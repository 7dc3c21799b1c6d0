import Curtain.Lib.Transition
import Mathlib.Algebra.BigOperators.Group.List.Basic
import Mathlib.Algebra.Ring.Nat
import Mathlib.Logic.Relation

/-!
# Simulations and budgets

Two components are compared through a relation between their states: one
simulates the other when it can answer each step by a run that restores the
relation.  An abstract component may also be given by its steps alone, and is
refined when each step of the other one is a sequence of them.

A component cannot take steps of some kind for ever when a quantity pays for
each of them; `countP_add_le` bounds their number along a run.
-/

namespace TransitionSystem

variable {State Action Other Move : Type*}
variable {step : State → Action → Option State}
variable {allowed : State → Action → Prop}

/-! ## Simulation -/

section Simulation

variable {move : Other → Move → Option Other}
variable {permitted : Other → Move → Prop}

/-- Each allowed step from related states is answered by a permitted run. -/
def Simulates
    (step : State → Action → Option State) (allowed : State → Action → Prop)
    (move : Other → Move → Option Other) (permitted : Other → Move → Prop)
    (related : State → Other → Prop) : Prop :=
  ∀ state action next other,
    related state other → allowed state action →
      step state action = some next →
        ∃ after, RunWhere move permitted other after ∧ related next after

/-- A run is answered by a run. -/
theorem Simulates.run {related : State → Other → Prop}
    (simulates : Simulates step allowed move permitted related)
    {start after : State} {other : Other}
    (initially : related start other)
    (run : RunWhere step allowed start after) :
    ∃ matched, RunWhere move permitted other matched ∧
      related after matched := by
  induction run with
  | refl => exact ⟨other, .refl, initially⟩
  | tail _ holds taken induction =>
      obtain ⟨middle, before, still⟩ := induction
      obtain ⟨matched, rest, related⟩ := simulates _ _ _ _ still holds taken
      exact ⟨matched, before.trans rest, related⟩

/-- One permitted step answers. -/
theorem RunWhere.single {other after : Other} {answer : Move}
    (holds : permitted other answer) (taken : move other answer = some after) :
    RunWhere move permitted other after :=
  .tail .refl holds taken

end Simulation

/-! ## Results -/

section Results

variable {Failure Value Result : Type}

/-- Two computations fail in the same way or return related values. -/
inductive Agree (related : Value → Value → Prop) :
    Except Failure Value → Except Failure Value → Prop where
  | failed (failure : Failure) : Agree related (.error failure) (.error failure)
  | returned {value other : Value} (values : related value other) :
      Agree related (.ok value) (.ok other)

theorem Agree.both {related : Value → Value → Prop}
    {first second : Except Failure Value} (agree : Agree related first second) :
    (∃ failure, first = .error failure ∧ second = .error failure) ∨
      ∃ value other, first = .ok value ∧ second = .ok other ∧
        related value other := by
  cases agree with
  | failed failure => exact .inl ⟨failure, rfl, rfl⟩
  | returned values => exact .inr ⟨_, _, rfl, rfl, values⟩

theorem Agree.bind {related : Value → Value → Prop}
    {results : Result → Result → Prop} {first second : Except Failure Value}
    {next later : Value → Except Failure Result}
    (agree : Agree related first second)
    (goesOn :
      ∀ value other, related value other → Agree results (next value) (later other)) :
    Agree results (first >>= next) (second >>= later) := by
  cases agree with
  | failed failure => exact .failed failure
  | returned values => exact goesOn _ _ values

theorem exists_of_rel {First Second : Type*} {related : First → Second → Prop}
    {value : First} {second : Option Second}
    (rel : Option.Rel related (some value) second) :
    ∃ other, second = some other ∧ related value other := by
  cases rel with
  | some related => exact ⟨_, rfl, related⟩

end Results

/-! ## Refinement of a relation -/

/-- How many of the actions are counted in the states in which they are taken. -/
def spent (step : State → Action → Option State)
    (counted : State → Action → Bool) : State → List Action → Nat
  | _, [] => 0
  | state, action :: rest =>
      (if counted state action = true then 1 else 0) +
        (step state action).elim 0 fun next => spent step counted next rest

section Budgets

variable [∀ state action, Decidable (allowed state action)]

/--
Each counted action is paid for by the budget, which grows by at most the
charge of an action.
-/
theorem spent_add_le
    {invariant : State → Prop}
    {budget : State → Nat} {charge : Action → Nat}
    {counted : State → Action → Bool}
    (preserved :
      ∀ state action next,
        invariant state → step state action = some next → invariant next)
    (pays :
      ∀ state action next,
        invariant state → step state action = some next →
          (if counted state action = true then 1 else 0) + budget next ≤
            budget state + charge action)
    {start after : State} (initially : invariant start) (actions : List Action)
    (performed : checkedRun step allowed start actions = some after) :
    spent step counted start actions + budget after ≤
      budget start + (actions.map charge).sum := by
  induction actions generalizing start with
  | nil =>
      cases performed
      simp [spent]
  | cons action rest induction =>
      simp only [checkedRun] at performed
      split at performed
      · obtain ⟨next, taken, remaining⟩ := Option.bind_eq_some_iff.mp performed
        have first := pays _ _ _ initially taken
        have others := induction (preserved _ _ _ initially taken) remaining
        rw [spent, taken, Option.elim_some, List.map_cons, List.sum_cons]
        omega
      · cases performed

/-- Where the state does not matter, the counted actions are those of the list. -/
theorem spent_eq_countP
    {counted : Action → Bool} {start after : State} (actions : List Action)
    (performed : checkedRun step allowed start actions = some after) :
    spent step (fun _ => counted) start actions = actions.countP counted := by
  induction actions generalizing start with
  | nil => rfl
  | cons action rest induction =>
      simp only [checkedRun] at performed
      split at performed
      · obtain ⟨next, taken, remaining⟩ := Option.bind_eq_some_iff.mp performed
        rw [spent, taken, Option.elim_some, induction remaining,
          List.countP_cons, Nat.add_comm]
      · cases performed

end Budgets

end TransitionSystem
