import Curtain.Lib.Simulation
import Curtain.Locality

/-!
# A server may die at any moment

What a call has committed stays, and the rest of the call is lost with the
process that ran it: an order may stay without an answer, a refund without its
record, a gate key without its release.  To everybody else a lost call looks
like one that is very slow, so the loss of calls brings about nothing that
could not happen without it.
-/

namespace Curtain

open TransitionSystem

/-- A step of the world, or the loss of the call at an index. -/
inductive Happening where
  | step (action : Action)
  | lost (call : Nat)
deriving DecidableEq, Repr

namespace World

/-- The steps of a world in which calls may be lost. -/
def mortalStep (world : World) : Happening → Option World
  | .step action => world.step action
  | .lost index => do
      let _ ← world.calls[index]?
      return world.withCalls (replaceCall world.calls index none)

/-- The gateway keeps its contract, where it is trusted. -/
def Contract (trusted : Bool) (world : World) (action : Action) : Prop :=
  trusted = true → world.truthful action = true

instance (trusted : Bool) (world : World) (action : Action) :
    Decidable (Contract trusted world action) :=
  inferInstanceAs (Decidable (_ → _))

/-- The contract of the gateway does not speak of lost calls. -/
def MortalContract (trusted : Bool) (world : World) : Happening → Prop
  | .step action => Contract trusted world action
  | .lost _ => True

instance (trusted : Bool) (world : World) :
    (happening : Happening) → Decidable (MortalContract trusted world happening)
  | .step action => inferInstanceAs (Decidable (Contract trusted world action))
  | .lost _ => inferInstanceAs (Decidable True)

/-- The two worlds differ in calls that only the second one still has. -/
def Outlived (world slow : World) : Prop :=
  ∃ lost calls, slow = world.withCalls calls ∧
    (world.calls ++ lost).Perm calls

theorem Outlived.refl (world : World) : world.Outlived world :=
  ⟨[], world.calls, rfl, by rw [List.append_nil]⟩

/-- A world in which nothing is lost takes the same steps. -/
theorem outlived_simulates (trusted : Bool) :
    Simulates mortalStep (MortalContract trusted) step (Contract trusted)
      Outlived := by
  rintro world happening next _ ⟨lost, calls, rfl, perm⟩ permitted taken
  cases happening with
  | step action =>
      obtain ⟨same, after, followed, left, truthful⟩ := step_shuffled perm taken
      refine ⟨_, .single ?_ followed, lost, after, rfl, left⟩
      intro trust
      rw [truthful]
      exact permitted trust
  | lost index =>
      obtain ⟨call, found, ended⟩ := Option.bind_eq_some_iff.mp taken
      cases ended
      obtain ⟨others, split, replaced⟩ := exists_others found
      refine ⟨_, .refl, call :: lost, calls, rfl, ?_⟩
      -- the lost call goes from the calls in progress to the lost ones
      have moved : (others ++ call :: lost).Perm (call :: others ++ lost) :=
        List.perm_middle
      exact
        ((replaced none).append_right _).trans
          (moved.trans ((split.append_right lost).symm.trans perm))

/--
Whatever happens in a run that loses calls happens in a run that loses none:
the same tables, ledgers, gate keys and answers at the same time, with the lost
calls still waiting for their next step.
-/
theorem lost_calls_only_wait {trusted : Bool} {start world : World}
    (run : RunWhere mortalStep (MortalContract trusted) start world) :
    ∃ slow lost,
      RunWhere step (Contract trusted) start slow ∧
        slow.toBooks = world.toBooks ∧ slow.clock = world.clock ∧
        slow.gate = world.gate ∧ slow.log = world.log ∧
        slow.calls.Perm (world.calls ++ lost) := by
  obtain ⟨_, slowRun, lost, calls, rfl, perm⟩ :=
    (outlived_simulates trusted).run (.refl start) run
  exact
    ⟨_, lost, slowRun, rfl, rfl, rfl, rfl, perm.symm⟩

/-- The server dies after the gateway took the money and before it heard of it. -/
def lostAnswer : List Happening :=
  (Action.order 7 "key" ++ [Action.execute 0 "tid-1"]).map .step ++ [.lost 0]

/-- The loss happens in a run, and the order waits for its answer. -/
theorem lost_calls_only_wait_answer :
    ∃ world slow lost,
      RunWhere mortalStep (MortalContract true) oneSeat world ∧
        (world.calls.isEmpty && world.db.orders.map (·.status) == [.pending]) =
          true ∧
        RunWhere step (Contract true) oneSeat slow ∧
          slow.toBooks = world.toBooks ∧
          slow.calls.Perm (world.calls ++ lost) := by
  obtain ⟨world, run, seen⟩ :=
    RunWhere.exists_of_checkedRun mortalStep (MortalContract true) oneSeat
      lostAnswer
      (fun world =>
        world.calls.isEmpty && world.db.orders.map (·.status) == [.pending])
      (by decide)
  obtain ⟨slow, lost, slowRun, books, -, -, -, calls⟩ := lost_calls_only_wait run
  exact ⟨world, slow, lost, run, seen, slowRun, books, calls⟩

end World

end Curtain
