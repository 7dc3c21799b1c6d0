import Curtain.Silence

/-!
# A step looks at one call

The calls in progress know nothing of each other: a step reads the books, the
clock, the gate and the one call that it continues.  So the order of the calls
in the list plays no part, and calls that nobody continues do not matter.
-/

namespace Curtain

open HoldService OrderService

/-- The same action for the call at another place. -/
def Action.at (index : Nat) : Action → Action
  | .advance _ => .advance index
  | .execute _ number => .execute index number
  | .answer _ attempt => .answer index attempt
  | .gate _ io => .gate index io
  | action => action

namespace World

variable {world next : World} {action : Action}

/-- The world with other calls in progress. -/
def withCalls (world : World) (calls : List Call) : World :=
  { world with calls }

@[simp]
theorem withCalls_calls (world : World) (calls : List Call) :
    (world.withCalls calls).calls = calls := rfl

@[simp]
theorem withCalls_withCalls (world : World) (first second : List Call) :
    (world.withCalls first).withCalls second = world.withCalls second := rfl

theorem replaceCall_self {calls : List Call} {index : Nat} {call : Call}
    (found : calls[index]? = some call) :
    replaceCall calls index (some call) = calls := by
  obtain ⟨inside, rfl⟩ := List.getElem?_eq_some_iff.mp found
  exact List.set_getElem_self inside

@[simp]
theorem replaceCall_singleton (call : Call) (next : Option Call) :
    replaceCall [call] 0 next = next.toList := by
  cases next <;> rfl

/-- An action for one call does to the world what it does to that call alone. -/
theorem step_of_call {index : Nat} (own : action.call? = some index) :
    world.step action =
      world.calls[index]?.bind fun call =>
        ((world.withCalls [call]).step (action.at 0)).map fun after =>
          after.withCalls (replaceCall world.calls index after.calls.head?) := by
  cases found : world.calls[index]? with
  | none =>
      cases action <;> cases own <;> simp [step, found]
  | some call =>
      cases action with
      | tick | startAcquire | startRelease | sweep | startPlace
        | startReconcile | startCancel | webhook | flushall => cases own
      | advance =>
          cases own
          cases advances : Curtain.advance world.clock world.db call <;>
            simp [step, found, advances, Action.at, withCalls, progress]
      | answer _ attempt =>
          cases own
          cases received : receive world.db attempt call <;>
            simp [step, found, received, Action.at, withCalls, progress]
      | gate _ io =>
          cases own
          cases trip : gateTrip world.clock world.gate io call <;>
            simp [step, found, trip, Action.at, withCalls]
      | execute _ number =>
          cases own
          have alone : (world.withCalls [call]).calls[0]? = some call := rfl
          have stays := replaceCall_self found
          simp only [step, found, alone, Action.at, executeRequest,
            Option.bind_eq_bind, Option.bind_some]
          by_cases used : number ∈ world.issued
          · simp [used, withCalls]
          · cases approval : call.approval? with
            | some asked =>
                by_cases twice : world.approvals.any (·.orderId == asked.1) <;>
                  simp [used, twice, withCalls, stays]
            | none =>
                cases refund : call.refund? <;>
                  simp [used, withCalls, replaceCall]

/-- Any other action leaves the calls alone and may start one. -/
theorem step_of_none (own : action.call? = none) :
    world.step action =
      ((world.withCalls []).step action).map fun after =>
        after.withCalls (world.calls ++ after.calls) := by
  cases action with
  | advance | execute | answer | gate => cases own
  | tick | flushall => simp [step, withCalls]
  | sweep => simp [step, withCalls, note]
  | startAcquire request =>
      cases checked : checkAcquire request <;>
        simp [step, checked, withCalls, note, addCall]
  | startRelease scheduleId userId seatIds =>
      by_cases none : (releaseSeats scheduleId userId seatIds world.db).1 = [] <;>
        simp [step, none, withCalls, note, addCall]
  | startPlace request =>
      by_cases empty : request.seatIds = [] <;>
        simp [step, empty, withCalls, note, addCall]
  | startReconcile => simp [step, withCalls]
  | startCancel orderId now =>
      cases prepared :
          prepareCancel orderId
            (now.getD { instant := world.clock, offset := 0 }) world.db <;>
        simp [step, prepared, withCalls, note, addCall]
  | webhook orderId pgTid =>
      cases confirmed : confirmPaid orderId pgTid world.clock world.db <;>
        simp [step, confirmed, withCalls, note]

/-! ## The order of the calls -/

section Order

variable {calls others idle : List Call} {call : Call}

/-- What is left of the calls when one of them goes on. -/
theorem exists_others {index : Nat} (found : calls[index]? = some call) :
    ∃ others, calls.Perm (call :: others) ∧
      ∀ next, (replaceCall calls index next).Perm (next.toList ++ others) := by
  obtain ⟨inside, rfl⟩ := List.getElem?_eq_some_iff.mp found
  refine
    ⟨calls.eraseIdx index, (List.getElem_cons_eraseIdx_perm inside).symm, ?_⟩
  intro next
  cases next with
  | none => exact .refl _
  | some _ => exact List.set_perm_cons_eraseIdx inside _

theorem exists_index (perm : calls.Perm (call :: others)) :
    ∃ index, calls[index]? = some call ∧
      ∀ next, (replaceCall calls index next).Perm (next.toList ++ others) := by
  obtain ⟨index, found⟩ :=
    List.mem_iff_getElem?.mp (perm.mem_iff.mpr List.mem_cons_self)
  obtain ⟨left, split, replaced⟩ := exists_others found
  have same := (split.symm.trans perm).cons_inv
  exact
    ⟨index, found, fun next => (replaced next).trans (same.append_left _)⟩

theorem call?_at {index place : Nat} (own : action.call? = some index) :
    (action.at place).call? = some place := by
  cases action <;> cases own <;> rfl

theorem at_at (action : Action) (first second : Nat) :
    (action.at first).at second = action.at second := by
  cases action <;> rfl

/-- A call is answered as truthfully at any place. -/
theorem truthful_at {index place : Nat}
    (own : action.call? = some index)
    (same : calls[place]? = world.calls[index]?) :
    (world.withCalls calls).truthful (action.at place) =
      world.truthful action := by
  cases action with
  | tick | startAcquire | startRelease | sweep | startPlace
    | startReconcile | startCancel | webhook | flushall => cases own
  | advance | execute | gate => rfl
  | answer =>
      cases own
      simp only [truthful, Action.at, taskOf, withCalls, same]
      rfl

/-- Among other calls, and in another order of them, the same step is taken. -/
theorem step_shuffled (perm : (world.calls ++ idle).Perm calls)
    (taken : world.step action = some next) :
    ∃ same after,
      (world.withCalls calls).step same = some (next.withCalls after) ∧
        (next.calls ++ idle).Perm after ∧
        (world.withCalls calls).truthful same = world.truthful action := by
  cases own : action.call? with
  | none =>
      rw [step_of_none own] at taken
      obtain ⟨alone, ran, rfl⟩ := Option.map_eq_some_iff.mp taken
      refine ⟨action, calls ++ alone.calls, ?_, ?_, ?_⟩
      · rw [step_of_none own, withCalls_withCalls, ran]
        rfl
      · have moved :
            ((world.calls ++ alone.calls) ++ idle).Perm
              ((world.calls ++ idle) ++ alone.calls) := by
          rw [List.append_assoc, List.append_assoc]
          exact List.perm_append_comm.append_left _
        exact moved.trans (perm.append_right _)
      · cases action <;> cases own <;> rfl
  | some index =>
      rw [step_of_call own] at taken
      obtain ⟨call, found, moved⟩ := Option.bind_eq_some_iff.mp taken
      obtain ⟨alone, ran, rfl⟩ := Option.map_eq_some_iff.mp moved
      obtain ⟨others, split, replaced⟩ := exists_others found
      have perm' : calls.Perm (call :: (others ++ idle)) :=
        perm.symm.trans (split.append_right idle)
      obtain ⟨place, there, relocated⟩ := exists_index perm'
      refine
        ⟨action.at place, replaceCall calls place alone.calls.head?, ?_, ?_,
          truthful_at own (there.trans found.symm)⟩
      · rw [step_of_call (call?_at own), at_at, withCalls_calls, there,
          Option.bind_some, withCalls_withCalls, ran]
        rfl
      · refine ((replaced alone.calls.head?).append_right idle).trans ?_
        rw [List.append_assoc]
        exact (relocated _).symm

end Order

end World

end Curtain
