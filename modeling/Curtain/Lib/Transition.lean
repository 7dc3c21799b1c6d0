import Mathlib.Tactic.Common
import Mathlib.Tactic.TypeStar

/-!
# Runs of a partial step function

A component is given by a step function that is defined where an action is
enabled.  A run is a sequence of enabled actions, and a condition on the state
before a step and on its action selects the runs a theorem speaks about: the
actions that may occur at all, a contract of the environment, or the absence
of one interleaving.

The induction over a run is stated once, as `RunWhere.invariant`, and the
executable `checkedRun` produces runs from lists of actions.
-/

namespace TransitionSystem

variable {State Action : Type*}

section Runs

variable (step : State → Action → Option State)

/--
The states reachable from `start` by steps that satisfy `allowed` in the state
before the step.
-/
inductive RunWhere
    (allowed : State → Action → Prop)
    (start : State) : State → Prop where
  | refl : RunWhere allowed start start
  | tail {middle after : State} {action : Action}
      (before : RunWhere allowed start middle)
      (permitted : allowed middle action)
      (taken : step middle action = some after) :
      RunWhere allowed start after

/--
A run together with the states it has left, the latest first.  What a theorem
says about the history of a state, it says about this list.
-/
inductive Trace
    (allowed : State → Action → Prop)
    (start : State) : List State → State → Prop where
  | refl : Trace allowed start [] start
  | tail {past : List State} {middle after : State} {action : Action}
      (before : Trace allowed start past middle)
      (permitted : allowed middle action)
      (taken : step middle action = some after) :
      Trace allowed start (middle :: past) after

/-- The states reachable from `start` by any steps. -/
abbrev Reachable (start : State) : State → Prop :=
  RunWhere step (fun _ _ => True) start

/-- Perform the actions in order while each is enabled and satisfies `allowed`. -/
def checkedRun
    (allowed : State → Action → Prop)
    [∀ state action, Decidable (allowed state action)] :
    State → List Action → Option State
  | state, [] => some state
  | state, action :: rest =>
      if allowed state action then
        (step state action).bind fun next =>
          checkedRun allowed next rest
      else none

/-- As `checkedRun`, with the states that were left. -/
def checkedTrace
    (allowed : State → Action → Prop)
    [∀ state action, Decidable (allowed state action)] :
    List State → State → List Action → Option (List State × State)
  | past, state, [] => some (past, state)
  | past, state, action :: rest =>
      if allowed state action then
        (step state action).bind fun next =>
          checkedTrace allowed (state :: past) next rest
      else none

/--
Perform the actions in order; an action that is not enabled is passed over.
This is a script for components whose calls may end early.
-/
def attempt (state : State) (actions : List Action) : State :=
  actions.foldl (fun current action => (step current action).getD current) state

/--
Along the actions `holds` is true in every state, until a step `ends` it.  The
actions from one that is not enabled on do not happen.
-/
def Until
    (holds : State → Prop) (ends : State → Action → State → Prop) :
    State → List Action → Prop
  | state, [] => holds state
  | state, action :: rest =>
      holds state ∧ ∀ next, step state action = some next →
        ends state action next ∨ Until holds ends next rest

end Runs

variable {step : State → Action → Option State}
variable {allowed weaker : State → Action → Prop}
variable {start middle after : State}

/-- An invariant of the start that every allowed step preserves holds after a run. -/
theorem RunWhere.invariant
    {invariant : State → Prop}
    (run : RunWhere step allowed start after)
    (initially : invariant start)
    (preserved :
      ∀ state action next,
        invariant state → allowed state action →
          step state action = some next → invariant next) :
    invariant after := by
  induction run with
  | refl => exact initially
  | tail _ permitted taken induction =>
      exact preserved _ _ _ induction permitted taken

/-- A run under a condition is a run under every weaker one. -/
theorem RunWhere.mono
    (weaken : ∀ state action, allowed state action → weaker state action)
    (run : RunWhere step allowed start after) :
    RunWhere step weaker start after := by
  induction run with
  | refl => exact .refl
  | tail _ permitted taken induction =>
      exact .tail induction (weaken _ _ permitted) taken

theorem RunWhere.trans
    (first : RunWhere step allowed start middle)
    (second : RunWhere step allowed middle after) :
    RunWhere step allowed start after := by
  induction second with
  | refl => exact first
  | tail _ permitted taken induction =>
      exact .tail induction permitted taken

/-- A run from the state after one step is a run from the state before it. -/
theorem RunWhere.head {action : Action}
    (permitted : allowed start action)
    (taken : step start action = some middle)
    (rest : RunWhere step allowed middle after) :
    RunWhere step allowed start after :=
  (RunWhere.tail .refl permitted taken).trans rest

/--
A component is simulated when each of its steps from a state of the invariant
is a run of the other one.
-/
theorem RunWhere.simulated {Finer : Type*} {finer : State → Finer → Option State}
    {invariant : State → Prop}
    (run : RunWhere step allowed start after)
    (initially : invariant start)
    (preserved :
      ∀ state action next,
        invariant state → allowed state action →
          step state action = some next → invariant next)
    (refined :
      ∀ state action next,
        invariant state → step state action = some next →
          Reachable finer state next) :
    Reachable finer start after := by
  induction run with
  | refl => exact .refl
  | tail before _ taken induction =>
      have holds := before.invariant initially preserved
      exact induction.trans (refined _ _ _ holds taken)

/-- A script leads from a reachable state to a reachable state. -/
theorem RunWhere.attempt
    (run : Reachable step start after) (actions : List Action) :
    Reachable step start (attempt step after actions) := by
  induction actions generalizing after with
  | nil => exact run
  | cons action rest induction =>
      show Reachable step start
        (TransitionSystem.attempt step ((step after action).getD after) rest)
      cases taken : step after action with
      | none => exact induction run
      | some next => exact induction (.tail run trivial taken)

/-- A checked list of actions is a run. -/
theorem RunWhere.of_checkedRun
    [∀ state action, Decidable (allowed state action)]
    (actions : List Action)
    (performed : checkedRun step allowed start actions = some after) :
    RunWhere step allowed start after := by
  induction actions generalizing start with
  | nil =>
      have equal : start = after := by
        simpa [checkedRun] using performed
      subst equal
      exact .refl
  | cons action rest induction =>
      simp only [checkedRun] at performed
      split at performed
      · rename_i permitted
        obtain ⟨next, taken, remaining⟩ := Option.bind_eq_some_iff.mp performed
        exact .head permitted taken (induction remaining)
      · simp at performed

/-- A checked list of actions ends in a state with everything observed there. -/
theorem RunWhere.exists_of_checkedRun
    (step : State → Action → Option State)
    (allowed : State → Action → Prop)
    [∀ state action, Decidable (allowed state action)]
    (start : State) (actions : List Action) (observe : State → Bool)
    (seen : (checkedRun step allowed start actions).any observe = true) :
    ∃ after, RunWhere step allowed start after ∧ observe after = true := by
  obtain ⟨after, performed, observed⟩ := (Option.any_eq_true _ _).mp seen
  exact ⟨after, .of_checkedRun actions performed, observed⟩

/-! ### Runs with their past -/

/-- What holds at the start and is preserved, with the past, holds after a run. -/
theorem Trace.invariant {past : List State}
    {invariant : List State → State → Prop}
    (trace : Trace step allowed start past after)
    (initially : invariant [] start)
    (preserved :
      ∀ past state action next,
        invariant past state → allowed state action →
          step state action = some next → invariant (state :: past) next) :
    invariant past after := by
  induction trace with
  | refl => exact initially
  | tail _ permitted taken induction =>
      exact preserved _ _ _ _ induction permitted taken

/-- A checked list of actions is a run with its past. -/
theorem Trace.of_checkedTrace
    [∀ state action, Decidable (allowed state action)]
    {past : List State} {history : List State}
    (before : Trace step allowed start past middle)
    (actions : List Action)
    (performed :
      checkedTrace step allowed past middle actions = some (history, after)) :
    Trace step allowed start history after := by
  induction actions generalizing past middle with
  | nil =>
      cases performed
      exact before
  | cons action rest induction =>
      simp only [checkedTrace] at performed
      split at performed
      · rename_i permitted
        obtain ⟨next, taken, remaining⟩ := Option.bind_eq_some_iff.mp performed
        exact induction (before.tail permitted taken) remaining
      · cases performed

/-- A checked list of actions ends with a past in which everything was observed. -/
theorem Trace.exists_of_checkedTrace
    (step : State → Action → Option State)
    (allowed : State → Action → Prop)
    [∀ state action, Decidable (allowed state action)]
    (start : State) (actions : List Action)
    (observe : List State × State → Bool)
    (seen :
      (checkedTrace step allowed [] start actions).any observe = true) :
    ∃ past after, Trace step allowed start past after ∧
      observe (past, after) = true := by
  obtain ⟨result, performed, observed⟩ := (Option.any_eq_true _ _).mp seen
  obtain ⟨past, after⟩ := result
  exact ⟨past, after, .of_checkedTrace .refl actions performed, observed⟩

/--
What every allowed step from a state of the invariant keeps or ends holds along
every checked list of actions until it is ended.
-/
theorem until_of_checkedRun
    [∀ state action, Decidable (allowed state action)]
    {invariant holds : State → Prop} {ends : State → Action → State → Prop}
    (preserved :
      ∀ state action next,
        invariant state → allowed state action →
          step state action = some next → invariant next)
    (kept :
      ∀ state action next,
        invariant state → holds state → step state action = some next →
          ends state action next ∨ holds next)
    (initially : invariant start) (holding : holds start)
    (actions : List Action)
    (performed : checkedRun step allowed start actions = some after) :
    Until step holds ends start actions := by
  induction actions generalizing start with
  | nil => exact holding
  | cons action rest induction =>
      simp only [checkedRun] at performed
      split at performed
      · rename_i permitted
        obtain ⟨next, taken, remaining⟩ := Option.bind_eq_some_iff.mp performed
        refine ⟨holding, fun other stepped => ?_⟩
        have same : next = other := by
          rw [taken] at stepped
          exact Option.some.inj stepped
        subst same
        refine (kept _ _ _ initially holding taken).imp_right fun stillHolds => ?_
        exact
          induction (preserved _ _ _ initially permitted taken) stillHolds
            remaining
      · simp at performed

end TransitionSystem
