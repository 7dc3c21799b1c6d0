import Curtain.Crashes

/-!
# The gate decides nothing

The gate turns requests away early, and a request that it lets through is
judged by the database all the same.  So whatever happens with the gate happens
without it: requests that it kept away may just as well not have been made, and
requests that it let through may have found it down.
-/

namespace Curtain

open HoldService OrderService TransitionSystem

/-- A refused `acquire`. -/
def Event.refuses : Event → Bool
  | .acquireEnded _ (.error _) => true
  | _ => false

/--
The call without the gate.  Before the gate has answered the call need not have
been made, and one that the database refused has nothing more to do.
-/
def Call.ungated : Call → Option Call
  | .acquiring request (.holding _) => some (.acquiring request (.holding false))
  | .acquiring _ (.gating _) => none
  | .acquiring _ (.ungating _) => none
  | call => some call

/-- The gate is asked only for a request that passed its checks. -/
def Call.Checked : Call → Prop
  | .acquiring request (.gating _) => checkAcquire request = .ok ()
  | _ => True

/-- The store of the gate is not reached and not flushed. -/
def Action.gateless : Action → Bool
  | .gate _ io => io == .unreachable
  | .flushall => false
  | _ => true

/-- The orders that are placed meet a condition. -/
def Action.Asks (asks : PlaceRequest → Prop) : Action → Prop
  | .startPlace request => asks request
  | _ => True

instance (asks : PlaceRequest → Prop) [DecidablePred asks] :
    (action : Action) → Decidable (action.Asks asks)
  | .startPlace request => inferInstanceAs (Decidable (asks request))
  | .tick _ | .startAcquire _ | .startRelease _ _ _ | .sweep _
  | .startReconcile _ _ | .startCancel _ _ | .webhook _ _ | .advance _
  | .execute _ _ | .answer _ _ | .gate _ _ | .flushall => isTrue trivial

/-- The action neither reads nor writes the gate. -/
def Action.besideGate : Action → Bool
  | .gate _ _ => false
  | .flushall => false
  | _ => true

namespace World

variable {world next : World} {action : Action}

/-- The world with another gate and another past. -/
def beside (world : World) (gate : KeyStore.Store Gate.Key Gate.Token)
    (log : List Event) : World :=
  { world with gate, log }

/-- A step beside the gate does not depend on the gate, nor on the past. -/
theorem step_beside (away : action.besideGate = true)
    (taken : world.step action = some next) :
    ∃ events, next.log = world.log ++ events ∧
      ∀ gate log,
        (world.beside gate log).step action =
          some (next.beside gate (log ++ events)) := by
  have silent : world.log = world.log ++ [] := (List.append_nil _).symm
  cases action with
  | gate | flushall => cases away
  | tick =>
      cases taken
      exact ⟨[], silent, fun _ _ => by simp [step, beside]⟩
  | sweep =>
      cases taken
      exact ⟨_, rfl, fun _ _ => rfl⟩
  | startAcquire request =>
      simp only [step] at taken ⊢
      split at taken <;> cases taken
      · exact ⟨_, rfl, fun _ _ => rfl⟩
      · exact ⟨[], silent, fun _ _ => by simp [beside, addCall]⟩
  | startRelease scheduleId userId seatIds =>
      simp only [step] at taken
      split at taken <;> cases taken
      · rename_i none
        exact ⟨_, rfl, fun _ _ => by simp [step, beside, none, note]⟩
      · rename_i some
        exact ⟨[], silent, fun _ _ => by simp [step, beside, some, addCall]⟩
  | startPlace request =>
      simp only [step] at taken ⊢
      split at taken <;> cases taken
      · rename_i none
        exact ⟨_, rfl, fun _ _ => if_pos none⟩
      · rename_i some
        exact ⟨[], silent, fun _ _ => by rw [if_neg some, List.append_nil]; rfl⟩
  | startReconcile =>
      cases taken
      exact ⟨_, rfl, fun _ _ => rfl⟩
  | startCancel orderId now =>
      simp only [step] at taken
      split at taken <;> cases taken
      · rename_i failed
        exact ⟨_, rfl, fun _ _ => by simp [step, beside, failed, note]⟩
      · rename_i prepared
        exact ⟨_, rfl, fun _ _ => by simp [step, beside, prepared, note, addCall]⟩
  | webhook orderId pgTid =>
      simp only [step] at taken
      split at taken <;> cases taken
      · rename_i confirmed
        exact ⟨_, rfl, fun _ _ => by simp [step, beside, confirmed, note]⟩
      · rename_i failed
        exact ⟨_, rfl, fun _ _ => by simp [step, beside, failed, note]⟩
  | advance index =>
      obtain ⟨call, found, callTaken⟩ := Option.bind_eq_some_iff.mp taken
      obtain ⟨progress, advances, final⟩ :=
        Option.bind_eq_some_iff.mp callTaken
      cases final
      exact ⟨_, rfl, fun _ _ => by simp [step, beside, found, advances, World.progress]⟩
  | answer index attempt =>
      obtain ⟨call, found, callTaken⟩ := Option.bind_eq_some_iff.mp taken
      obtain ⟨progress, receives, final⟩ :=
        Option.bind_eq_some_iff.mp callTaken
      cases final
      exact ⟨_, rfl, fun _ _ => by simp [step, beside, found, receives, World.progress]⟩
  | execute index number =>
      obtain ⟨call, found, callTaken⟩ := Option.bind_eq_some_iff.mp taken
      refine ⟨[], ?_, ?_⟩
      · cases executes_of_executeRequest callTaken <;> exact silent
      · intro gate log
        simp only [step, beside, found, Option.bind_eq_bind, Option.bind_some]
        simp only [executeRequest] at callTaken ⊢
        split at callTaken
        · cases callTaken
        · rename_i fresh
          rw [if_neg fresh]
          split at callTaken
          · split at callTaken
            · cases callTaken
            · rename_i first
              cases callTaken
              simp [*]
          · cases callTaken
            simp [*]
          · cases callTaken

/-- A call that is not `acquire` does not become one. -/
theorem advance_ungated {now : Time} {db : Db} {call : Call}
    {progress : Progress} (own : call.ungated = some call)
    (advances : advance now db call = some progress) :
    progress.next.toList.filterMap Call.ungated = progress.next.toList := by
  cases call with
  | releasing => cases advances
  | acquiring request stage =>
      rcases stage with _ | gated | _
      · cases own
      · cases own
        simp only [advance, advanceAcquire] at advances
        split at advances <;> cases advances <;> rfl
      · cases own
  | placing request stage =>
      cases stage with
      | approving => cases advances
      | opening | lookingUp =>
          simp only [advance, advancePlace] at advances
          split at advances <;> cases advances <;> rfl
      | polling =>
          simp only [advance, advancePlace] at advances
          split at advances
          · cases advances
            rfl
          · cases advances
            rfl
          · split at advances <;> cases advances <;> rfl
      | settling stage =>
          simp only [advance, advancePlace, Option.map_eq_some_iff] at advances
          obtain ⟨⟨after, events, settled⟩, settles, rfl⟩ := advances
          cases settled <;> rfl
  | reconciling rest confirmed stage =>
      cases stage with
      | inquiring => cases advances
      | settling stage =>
          simp only [advance, advanceReconcile, Option.map_eq_some_iff]
            at advances
          obtain ⟨⟨after, events, settled⟩, settles, rfl⟩ := advances
          cases settled <;> first | rfl | cases rest <;> rfl
  | canceling cancellation stage =>
      cases stage with
      | refunding => cases advances
      | failing | closing =>
          simp only [advance, advanceCancel] at advances
          split at advances <;> cases advances <;> rfl

theorem receive_ungated {db : Db} {attempt : PayAttempt} {call : Call}
    {progress : Progress} (receives : receive db attempt call = some progress) :
    progress.next.toList.filterMap Call.ungated = progress.next.toList := by
  cases receives_of_receive receives with
  | @inquiryUnknown rest => cases rest <;> rfl
  | placeUnanswered | placeDeclined | placeApproved | placeRefunded
    | inquiryBroken | inquiryApproved | inquiryDeclined | reconcileRefunded
    | cancelRefunded => rfl

/-- A step of a call alone, other than at the gate, leaves it in its kind. -/
theorem alone_ungated {call : Call}
    (own : action.call? = some 0) (away : action.besideGate = true)
    (same : call.ungated = some call)
    (taken : (world.withCalls [call]).step action = some next) :
    next.calls.head?.toList.filterMap Call.ungated =
      next.calls.head?.toList := by
  cases step_moves taken with
  | stays calls =>
      rw [calls]
      simp [same]
  | starts starts =>
      cases action with
      | advance | execute | answer | gate => cases starts
      | tick | startAcquire | startRelease | sweep | startPlace
        | startReconcile | startCancel | webhook | flushall => cases own
  | advances found advances =>
      cases own
      cases found
      rw [head?_progress rfl]
      exact advance_ungated same advances
  | answers found receives =>
      cases own
      cases found
      rw [head?_progress rfl]
      exact receive_ungated receives
  | executes found inFlight calls =>
      cases own
      cases found
      rw [calls]
      cases refunds_of_refund inFlight <;> rfl
  | travels => cases away

/-! ## Without the gate -/

/-- What is left of the calls without the gate when one of them goes on. -/
theorem exists_rest {calls plain : List Call} {index : Nat} {call : Call}
    (perm : (calls.filterMap Call.ungated).Perm plain)
    (found : calls[index]? = some call) :
    ∃ rest, plain.Perm (call.ungated.toList ++ rest) ∧
      ∀ next,
        ((replaceCall calls index next).filterMap Call.ungated).Perm
          (next.toList.filterMap Call.ungated ++ rest) := by
  obtain ⟨others, split, replaced⟩ := exists_others found
  refine ⟨others.filterMap Call.ungated, perm.symm.trans ?_, fun next => ?_⟩
  · have own := split.filterMap Call.ungated
    cases ungated : call.ungated <;> simpa [ungated] using own
  · have own := (replaced next).filterMap Call.ungated
    rwa [List.filterMap_append] at own

/--
The second world has the same books, its gate has not been reached, and its
calls and its past are those of the first one without the gate.
-/
def Unguarded (gate : KeyStore.Store Gate.Key Gate.Token)
    (world plain : World) : Prop :=
  ∃ calls log, plain = (world.withCalls calls).beside gate log ∧
    (world.calls.filterMap Call.ungated).Perm calls ∧
      log.filter (!·.refuses) = world.log.filter (!·.refuses) ∧
        ∀ call ∈ world.calls, call.Checked

section Ungated

variable {gate : KeyStore.Store Gate.Key Gate.Token} {plain : World}
variable {trusted : Bool} {asks : PlaceRequest → Prop}

/-- The gateway keeps its contract, where it is trusted, and the gate is down. -/
def GatelessContract (trusted : Bool) (world : World) (action : Action) : Prop :=
  Contract trusted world action ∧ action.gateless = true

/-- Besides, the orders that are placed meet a condition. -/
def AskingContract (trusted : Bool) (asks : PlaceRequest → Prop) (world : World)
    (action : Action) : Prop :=
  Contract trusted world action ∧ action.Asks asks

instance [DecidablePred asks] (world : World) (action : Action) :
    Decidable (AskingContract trusted asks world action) :=
  inferInstanceAs (Decidable (_ ∧ _))

def AskingGateless (trusted : Bool) (asks : PlaceRequest → Prop) (world : World)
    (action : Action) : Prop :=
  GatelessContract trusted world action ∧ action.Asks asks

theorem checked_of_ungated {call : Call} (same : call.ungated = some call) :
    call.Checked := by
  cases call with
  | acquiring request stage =>
      cases stage with
      | gating => cases same
      | holding | ungating => trivial
  | releasing | placing | reconciling | canceling => trivial

theorem besideGate_at (action : Action) (index : Nat) :
    (action.at index).besideGate = action.besideGate := by
  cases action <;> rfl

theorem asks_of_forall (every : ∀ request, asks request) (action : Action) :
    action.Asks asks := by
  cases action <;> first | exact every _ | trivial

theorem asks_at {index : Nat} (own : action.call? = some index) (place : Nat) :
    (action.at place).Asks asks := by
  cases action <;> trivial

theorem gateless_of_beside (away : action.besideGate = true) :
    action.gateless = true := by
  cases action <;> first | rfl | cases away

/-- A step of a call that has nothing to do with the gate. -/
theorem unguarded_call {index : Nat} {call : Call}
    (related : Unguarded gate world plain)
    (own : action.call? = some index) (away : action.besideGate = true)
    (found : world.calls[index]? = some call)
    (same : call.ungated = some call)
    (permitted : Contract trusted world action)
    (taken : world.step action = some next) :
    ∃ after, RunWhere step (AskingGateless trusted asks) plain after ∧
      Unguarded gate next after := by
  obtain ⟨calls, log, rfl, perm, past, checked⟩ := related
  obtain ⟨rest, split, replaced⟩ := exists_rest perm found
  rw [same] at split
  obtain ⟨place, there, relocated⟩ := exists_index split
  rw [step_of_call own, found, Option.bind_some] at taken
  obtain ⟨alone, ran, rfl⟩ := Option.map_eq_some_iff.mp taken
  obtain ⟨events, logged, aside⟩ :=
    step_beside ((besideGate_at action 0).trans away) ran
  have kept :=
    alone_ungated (call?_at own) ((besideGate_at action 0).trans away) same ran
  have stepped :
      ((world.withCalls calls).beside gate log).step (action.at place) =
        some
          ((alone.withCalls (replaceCall calls place alone.calls.head?)).beside
            gate (log ++ events)) := by
    rw [step_of_call (call?_at own), at_at]
    show
      calls[place]?.bind (fun call =>
        (((world.withCalls [call]).beside gate log).step (action.at 0)).map _) = _
    rw [there, Option.bind_some, aside]
    rfl
  refine
    ⟨_, .single ⟨⟨fun trust => ?_, ?_⟩, asks_at own place⟩ stepped,
      replaceCall calls place alone.calls.head?, log ++ events, rfl, ?_, ?_, ?_⟩
  · have truthful :=
      @truthful_at world action calls index place own (there.trans found.symm)
    exact truthful.trans (permitted trust)
  · exact gateless_of_beside ((besideGate_at action place).trans away)
  · have moved := replaced alone.calls.head?
    rw [kept] at moved
    exact moved.trans (relocated _).symm
  · rw [withCalls, logged, List.filter_append, List.filter_append, past]
    rfl
  · intro other member
    rcases mem_replaceCall member with old | new
    · exact checked other old
    · rw [new] at kept
      refine checked_of_ungated ?_
      cases ungated : other.ungated with
      | none => simp [ungated] at kept
      | some call => simpa [ungated] using kept

/-- A step that continues no call and does not start `acquire`. -/
theorem unguarded_start
    (related : Unguarded gate world plain)
    (own : action.call? = none) (away : action.besideGate = true)
    (other : ∀ request, action ≠ .startAcquire request)
    (permitted : Contract trusted world action) (asked : action.Asks asks)
    (taken : world.step action = some next) :
    ∃ after, RunWhere step (AskingGateless trusted asks) plain after ∧
      Unguarded gate next after := by
  obtain ⟨calls, log, rfl, perm, past, checked⟩ := related
  rw [step_of_none own] at taken
  obtain ⟨alone, ran, rfl⟩ := Option.map_eq_some_iff.mp taken
  obtain ⟨events, logged, aside⟩ := step_beside away ran
  have kept : ∀ call ∈ alone.calls, call.ungated = some call := by
    cases step_moves ran with
    | stays same =>
        rw [same]
        simp
    | starts starts same =>
        rw [same]
        cases action with
        | advance | execute | answer | gate => cases starts
        | tick | sweep | webhook | flushall => cases starts
        | startAcquire request => exact absurd rfl (other request)
        | startPlace =>
            cases starts
            simp [Call.ungated]
        | startRelease =>
            obtain ⟨released, rfl⟩ := starts
            simp [Call.ungated]
        | startReconcile =>
            obtain ⟨rest, orderId, rfl⟩ := starts
            simp [Call.ungated]
        | startCancel =>
            obtain ⟨cancellation, rfl⟩ := starts
            simp [Call.ungated]
    | advances | answers | executes | travels => cases own
  have stepped :
      ((world.withCalls calls).beside gate log).step action =
        some
          ((alone.withCalls (calls ++ alone.calls)).beside gate
            (log ++ events)) := by
    rw [step_of_none own]
    show (((world.withCalls []).beside gate log).step action).map _ = _
    rw [aside]
    rfl
  refine
    ⟨_, .single ⟨⟨fun trust => ?_, gateless_of_beside away⟩, asked⟩ stepped,
      calls ++ alone.calls, log ++ events, rfl, ?_, ?_, ?_⟩
  · rw [← permitted trust]
    cases action <;> cases own <;> rfl
  · have same : alone.calls.filterMap Call.ungated = alone.calls := by
      rw [List.filterMap_congr kept, List.filterMap_some]
    rw [withCalls_calls, List.filterMap_append, same]
    exact perm.append_right _
  · show (log ++ events).filter _ = alone.log.filter _
    rw [logged, List.filter_append, List.filter_append, past]
    rfl
  · intro call member
    rcases List.mem_append.mp member with old | new
    · exact checked call old
    · exact checked_of_ungated (kept call new)

/-- A request that the gate would let through finds it down instead. -/
theorem admitted {request : AcquireRequest}
    (checks : checkAcquire request = .ok ()) (plain : World) :
    RunWhere step (AskingGateless trusted asks) plain
      (plain.withCalls
        (plain.calls ++ [.acquiring request (.holding false)])) := by
  have replaced (stage next : AcquireStage) :
      replaceCall (plain.calls ++ [.acquiring request stage])
          plain.calls.length (some (.acquiring request next)) =
        plain.calls ++ [.acquiring request next] := by
    simp [replaceCall]
  have starts :
      plain.step (.startAcquire request) =
        some
          (plain.withCalls
            (plain.calls ++ [.acquiring request (.gating Gate.attempts)])) := by
    simp [step, checks, addCall, withCalls]
  have trip (attempts : Nat) :
      (plain.withCalls
          (plain.calls ++ [.acquiring request (.gating attempts)])).step
          (.gate plain.calls.length .unreachable) =
        some
          (plain.withCalls
            (plain.calls ++
              [.acquiring request
                (if attempts ≤ 1 then .holding false
                  else .gating (attempts - 1))])) := by
    simp [step, gateTrip, withCalls, replaced]
  have quiet (place : Nat) (world : World) :
      AskingGateless trusted asks world (.gate place .unreachable) :=
    ⟨⟨fun _ => rfl, rfl⟩, trivial⟩
  exact
    .head ⟨⟨fun _ => rfl, rfl⟩, by trivial⟩ starts
      (.head (quiet _ _) (trip Gate.attempts) (.single (quiet _ _) (trip 1)))

theorem checked_replaceCall {calls : List Call} {index : Nat}
    {next : Option Call} (checked : ∀ call ∈ calls, call.Checked)
    (goesOn : ∀ call ∈ next, call.Checked) :
    ∀ call ∈ replaceCall calls index next, call.Checked := by
  intro call member
  rcases mem_replaceCall member with old | new
  · exact checked call old
  · exact goesOn call new

section Trip

variable {index : Nat} {call : Call} {trip : GateProgress}

/-- The gate is still to be asked, or has turned the request away. -/
theorem unguarded_kept
    (related : Unguarded gate world plain)
    (found : world.calls[index]? = some call) (waits : call.ungated = none)
    (still : ∀ later ∈ trip.next, later.ungated = none ∧ later.Checked)
    (refused : ∀ event ∈ trip.events, event.refuses = true) :
    Unguarded gate
      { world with
        gate := trip.gate
        calls := replaceCall world.calls index trip.next
        log := world.log ++ trip.events }
      plain := by
  obtain ⟨calls, log, rfl, perm, past, checked⟩ := related
  obtain ⟨rest, split, replaced⟩ := exists_rest perm found
  rw [waits] at split
  refine ⟨calls, log, rfl, ?_, ?_, ?_⟩
  · have none : trip.next.toList.filterMap Call.ungated = [] := by
      rw [List.filterMap_eq_nil_iff]
      intro later member
      exact (still later (Option.mem_toList.mp member)).1
    have moved := replaced trip.next
    rw [none] at moved
    exact moved.trans split.symm
  · have dropped : trip.events.filter (!·.refuses) = [] := by
      rw [List.filter_eq_nil_iff]
      intro event member
      simp [refused event member]
    rw [past, List.filter_append, dropped, List.append_nil]
  · exact checked_replaceCall checked fun later member => (still later member).2

/-- The gate has let the request through, or was not reached. -/
theorem unguarded_admitted {request : AcquireRequest} {gated : Bool}
    (related : Unguarded gate world plain)
    (found : world.calls[index]? = some call) (waits : call.ungated = none)
    (checks : checkAcquire request = .ok ())
    (enters : trip.next = some (.acquiring request (.holding gated)))
    (silent : trip.events = []) :
    ∃ after, RunWhere step (AskingGateless trusted asks) plain after ∧
      Unguarded gate
        { world with
          gate := trip.gate
          calls := replaceCall world.calls index trip.next
          log := world.log ++ trip.events }
        after := by
  obtain ⟨calls, log, rfl, perm, past, checked⟩ := related
  obtain ⟨rest, split, replaced⟩ := exists_rest perm found
  rw [waits] at split
  refine
    ⟨_, admitted checks _, calls ++ [.acquiring request (.holding false)], log,
      rfl, ?_, ?_, ?_⟩
  · have moved := replaced trip.next
    rw [enters] at moved ⊢
    have joined :
        (.acquiring request (.holding false) :: rest).Perm
          (calls ++ [.acquiring request (.holding false)]) :=
      (split.symm.cons _).trans (List.perm_append_singleton _ _).symm
    exact moved.trans joined
  · rw [silent, List.append_nil, past]
  · refine checked_replaceCall checked fun later member => ?_
    cases enters.symm.trans member
    trivial

end Trip

/-- A round trip of `acquire` lets it through, turns it away or ends it. -/
theorem unguarded_acquire {index : Nat} {request : AcquireRequest}
    {stage : AcquireStage} {io : GateIo}
    (related : Unguarded gate world plain)
    (found : world.calls[index]? = some (.acquiring request stage))
    (taken : world.step (.gate index io) = some next) :
    ∃ after, RunWhere step (AskingGateless trusted asks) plain after ∧
      Unguarded gate next after := by
  have checked : (Call.acquiring request stage).Checked :=
    related.elim fun _ ⟨_, _, _, _, all⟩ => all _ (List.mem_of_getElem? found)
  obtain ⟨call, same, callTaken⟩ := Option.bind_eq_some_iff.mp taken
  obtain ⟨trip, travels, final⟩ := Option.bind_eq_some_iff.mp callTaken
  cases final
  cases found.symm.trans same
  cases stage with
  | holding => cases travels
  | ungating error =>
      refine ⟨plain, .refl, unguarded_kept related found rfl ?_ ?_⟩
      all_goals
        cases travels_of_gateTrip travels
        simp [Event.refuses]
  | gating attempts =>
      by_cases enters :
          ∃ gated, trip.next = some (.acquiring request (.holding gated))
      · obtain ⟨gated, enters⟩ := enters
        refine unguarded_admitted related found rfl checked enters ?_
        cases travels_of_gateTrip travels <;> first | rfl | cases enters
      · refine ⟨plain, .refl, unguarded_kept related found rfl ?_ ?_⟩
        · cases travels_of_gateTrip travels with
          | blocked => simp
          | passed => exact absurd ⟨true, rfl⟩ enters
          | retried =>
              by_cases last : attempts ≤ 1
              · exact absurd ⟨false, by simp [last]⟩ enters
              · rw [if_neg last]
                rintro later ⟨⟩
                exact ⟨rfl, checked⟩
        · cases travels_of_gateTrip travels <;> simp [Event.refuses]

/-- The database judges a request in the same way whether it was gated or not. -/
theorem advance_holding {now : Time} {db : Db} {request : AcquireRequest}
    {gated : Bool} {progress : Progress}
    (advances :
      advance now db (.acquiring request (.holding gated)) = some progress) :
    (∀ later ∈ progress.next, later.ungated = none ∧ later.Checked) ∧
      ∃ event,
        advance now db (.acquiring request (.holding false)) =
            some { db := progress.db, next := none, events := [event] } ∧
          [event].filter (!·.refuses) = progress.events.filter (!·.refuses) := by
  simp only [advance, advanceAcquire] at advances ⊢
  cases judged : acquireSeats request now db with
  | ok held =>
      rw [judged] at advances
      cases advances
      exact ⟨by simp, _, rfl, rfl⟩
  | error error =>
      rw [judged] at advances
      cases gated with
      | false =>
          cases advances
          exact ⟨by simp, _, rfl, rfl⟩
      | true =>
          cases advances
          refine ⟨?_, _, rfl, rfl⟩
          rintro later ⟨⟩
          exact ⟨rfl, trivial⟩

theorem unguarded_holding {index : Nat} {request : AcquireRequest} {gated : Bool}
    (related : Unguarded gate world plain)
    (found :
      world.calls[index]? = some (.acquiring request (.holding gated)))
    (taken : world.step (.advance index) = some next) :
    ∃ after, RunWhere step (AskingGateless trusted asks) plain after ∧
      Unguarded gate next after := by
  obtain ⟨calls, log, rfl, perm, past, checked⟩ := related
  obtain ⟨rest, split, replaced⟩ := exists_rest perm found
  obtain ⟨place, there, relocated⟩ := exists_index split
  obtain ⟨call, same, callTaken⟩ := Option.bind_eq_some_iff.mp taken
  obtain ⟨progress, advances, final⟩ := Option.bind_eq_some_iff.mp callTaken
  cases final
  cases found.symm.trans same
  obtain ⟨ended, event, judged, refused⟩ := advance_holding advances
  have stepped :
      ((world.withCalls calls).beside gate log).step (.advance place) =
        some
          (({ world with db := progress.db }.withCalls
            (replaceCall calls place none)).beside gate (log ++ [event])) := by
    simp only [step, withCalls, beside, there, Option.bind_eq_bind,
      Option.bind_some, judged]
    rfl
  refine
    ⟨_, .single ⟨⟨fun _ => rfl, rfl⟩, by trivial⟩ stepped,
      replaceCall calls place none,
      log ++ [event], rfl, ?_, ?_, ?_⟩
  · have none : progress.next.toList.filterMap Call.ungated = [] := by
      rw [List.filterMap_eq_nil_iff]
      intro later member
      exact (ended later (Option.mem_toList.mp member)).1
    have left := replaced progress.next
    rw [none] at left
    exact left.trans (relocated Option.none).symm
  · rw [World.progress, List.filter_append, List.filter_append, past, refused]
  · exact checked_replaceCall checked fun later member => (ended later member).2

/-- A released hold leaves its gate keys to their time to live. -/
theorem unguarded_releasing {index scheduleId userId : Nat}
    {released : List Nat} {io : GateIo}
    (related : Unguarded gate world plain)
    (found :
      world.calls[index]? = some (.releasing scheduleId userId released))
    (taken : world.step (.gate index io) = some next) :
    ∃ after, RunWhere step (AskingGateless trusted asks) plain after ∧
      Unguarded gate next after := by
  obtain ⟨calls, log, rfl, perm, past, checked⟩ := related
  obtain ⟨rest, split, replaced⟩ := exists_rest perm found
  obtain ⟨place, there, relocated⟩ := exists_index split
  obtain ⟨call, same, callTaken⟩ := Option.bind_eq_some_iff.mp taken
  obtain ⟨trip, travels, final⟩ := Option.bind_eq_some_iff.mp callTaken
  cases final
  cases found.symm.trans same
  cases travels
  have stepped :
      ((world.withCalls calls).beside gate log).step
          (.gate place .unreachable) =
        some
          ((world.withCalls (replaceCall calls place none)).beside gate
            (log ++ [.releaseEnded scheduleId userId released])) := by
    simp only [step, withCalls, beside, there, Option.bind_eq_bind,
      Option.bind_some, gateTrip]
    rfl
  refine
    ⟨_, .single ⟨⟨fun _ => rfl, rfl⟩, by trivial⟩ stepped,
      replaceCall calls place none,
      log ++ [.releaseEnded scheduleId userId released], rfl, ?_, ?_, ?_⟩
  · exact (replaced none).trans (relocated none).symm
  · rw [List.filter_append, List.filter_append, past]
  · have ended : ∀ call ∈ (none : Option Call), call.Checked := by simp
    exact checked_replaceCall checked ended

/-- A request that passes its checks is held back until the gate has answered. -/
theorem unguarded_startAcquire {request : AcquireRequest}
    (related : Unguarded gate world plain)
    (taken : world.step (.startAcquire request) = some next) :
    ∃ after, RunWhere step (AskingGateless trusted asks) plain after ∧
      Unguarded gate next after := by
  obtain ⟨calls, log, rfl, perm, past, checked⟩ := related
  simp only [step] at taken
  split at taken
  · rename_i error refused
    cases taken
    have stepped :
        ((world.withCalls calls).beside gate log).step (.startAcquire request) =
          some
            ((world.withCalls calls).beside gate
              (log ++ [.acquireEnded request (.error error)])) := by
      simp only [step, refused]
      rfl
    refine
      ⟨_, .single ⟨⟨fun _ => rfl, rfl⟩, by trivial⟩ stepped, calls, _, rfl,
        perm, ?_, checked⟩
    rw [note, List.filter_append, List.filter_append, past]
  · rename_i checks
    cases taken
    refine ⟨_, .refl, calls, log, rfl, ?_, past, ?_⟩
    · have kept :
          (world.calls ++
              [Call.acquiring request (.gating Gate.attempts)]).filterMap
              Call.ungated =
            world.calls.filterMap Call.ungated := by
        rw [List.filterMap_append]
        exact List.append_nil _
      rw [addCall, kept]
      exact perm
    · intro call member
      rcases List.mem_append.mp member with old | new
      · exact checked call old
      · cases List.mem_singleton.mp new
        exact checks

/-- A world whose gate is down answers every step. -/
theorem unguarded_simulates (trusted : Bool) (asks : PlaceRequest → Prop)
    (gate : KeyStore.Store Gate.Key Gate.Token) :
    Simulates step (AskingContract trusted asks) step
      (AskingGateless trusted asks) (Unguarded gate) := by
  rintro world action next plain related ⟨permitted, asked⟩ taken
  cases own : action.call? with
  | none =>
      cases action with
      | advance | execute | answer | gate => cases own
      | flushall =>
          cases taken
          exact ⟨plain, .refl, related⟩
      | startAcquire request => exact unguarded_startAcquire related taken
      | tick | startRelease | sweep | startPlace | startReconcile | startCancel
        | webhook =>
          exact unguarded_start related rfl rfl (by simp) permitted asked taken
  | some index =>
      obtain ⟨call, found, -⟩ :=
        Option.bind_eq_some_iff.mp ((step_of_call own).symm.trans taken)
      by_cases away : action.besideGate = true ∧ call.ungated = some call
      · exact unguarded_call related own away.1 found away.2 permitted taken
      · cases action with
        | tick | startAcquire | startRelease | sweep | startPlace
          | startReconcile | startCancel | webhook | flushall => cases own
        | gate =>
            cases own
            cases call with
            | acquiring => exact unguarded_acquire related found taken
            | releasing => exact unguarded_releasing related found taken
            | placing | reconciling | canceling =>
                simp [step, found, gateTrip] at taken
        | advance =>
            cases own
            cases call with
            | releasing | placing | reconciling | canceling =>
                exact absurd ⟨rfl, rfl⟩ away
            | acquiring request stage =>
                cases stage with
                | holding => exact unguarded_holding related found taken
                | gating | ungating =>
                    simp [step, found, Curtain.advance, advanceAcquire] at taken
        | answer =>
            cases own
            cases call with
            | releasing | placing | reconciling | canceling =>
                exact absurd ⟨rfl, rfl⟩ away
            | acquiring => simp [step, found, receive] at taken
        | execute =>
            cases own
            cases call with
            | releasing | placing | reconciling | canceling =>
                exact absurd ⟨rfl, rfl⟩ away
            | acquiring =>
                simp [step, found, executeRequest, Call.approval?, Call.refund?]
                  at taken

/--
The gate decides nothing.  Whatever happens to the books happens, with the same
answers to everybody who was not turned away, in a run in which no script ever
reaches the gate's store.
-/
theorem gate_decides_nothing {start world : World}
    (quiet : start.calls = [])
    (run : RunWhere step (Contract trusted) start world) :
    ∃ plain,
      RunWhere step (GatelessContract trusted) start plain ∧
        plain.toBooks = world.toBooks ∧ plain.clock = world.clock ∧
        plain.gate = start.gate ∧
        plain.log.filter (!·.refuses) = world.log.filter (!·.refuses) ∧
        (world.calls.filterMap Call.ungated).Perm plain.calls := by
  have initially : Unguarded start.gate start start := by
    refine ⟨[], start.log, ?_, ?_, rfl, ?_⟩
    · rw [← quiet]
      rfl
    · rw [quiet]
      exact .refl _
    · simp [quiet]
  obtain ⟨_, plainRun, calls, log, rfl, perm, past, -⟩ :=
    (unguarded_simulates trusted (fun _ => True) start.gate).run initially
      (run.mono fun _ action permitted =>
        ⟨permitted, asks_of_forall (fun _ => trivial) action⟩)
  have gateless := plainRun.mono fun _ _ permitted => permitted.1
  exact ⟨_, gateless, rfl, rfl, rfl, past, perm⟩

/-- The gate turns a second customer away and is then flushed. -/
def secondCustomer : List Action :=
  Action.order 7 "key" ++
    [.startAcquire { scheduleId := 1, userId := 8, seatIds := [1] },
      .gate 1 .answered, .flushall]

/-- The order is opened in a run without the gate, too. -/
theorem gate_decides_nothing_refused :
    ∃ world plain,
      RunWhere step (Contract true) oneSeat world ∧
        (world.log.any (·.refuses) &&
            world.db.orders.map (·.status) == [.pending]) = true ∧
          RunWhere step (GatelessContract true) oneSeat plain ∧
            plain.toBooks = world.toBooks := by
  obtain ⟨world, run, seen⟩ :=
    RunWhere.exists_of_checkedRun step (Contract true) oneSeat secondCustomer
      (fun world =>
        world.log.any (·.refuses) &&
          world.db.orders.map (·.status) == [.pending])
      (by decide)
  obtain ⟨plain, plainRun, books, -⟩ := gate_decides_nothing rfl run
  exact ⟨world, plain, run, seen, plainRun, books⟩

end Ungated

end World

end Curtain
