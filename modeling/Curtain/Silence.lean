import Curtain.Answers
import Curtain.OrderBooks

/-!
# Silence is no conclusion

An order is settled after a conclusive answer about it, never after silence.
A placing call that hears nothing ends.  A reconciler goes on to the next
candidate, and the rest of its list does not contain the order again, so it
leaves the rows of this order alone.  The stock is shared: another order of
the user may name the same seat and be settled on its own answer.
-/

namespace Curtain

open Queries Table HoldService OrderService

/-! ## The candidates of a reconciler -/

def ReconcileStage.orderId : ReconcileStage → Nat
  | .inquiring orderId => orderId
  | .settling stage => stage.orderId

/-- The orders that a reconciler is still going to look at. -/
def Call.candidates : Call → Option (List Nat)
  | .reconciling rest _ stage => some (stage.orderId :: rest)
  | _ => none

/-- A call goes on with the end of its list of candidates. -/
inductive Call.Narrows (call next : Call) : Prop where
  | aside (before : call.candidates = none) (after : next.candidates = none)
  | shorter {orders rest : List Nat}
      (before : call.candidates = some orders)
      (after : next.candidates = some rest)
      (suffix : rest <:+ orders)

theorem nextCandidate_narrows
    {db : Db} {events : List Event} {confirmed rest : List Nat} {call next : Call}
    {orderId : Nat}
    (before : call.candidates = some (orderId :: rest))
    (goesOn : (nextCandidate db events confirmed rest).next = some next) :
    call.Narrows next := by
  cases rest with
  | nil => cases goesOn
  | cons first rest =>
      cases goesOn
      exact .shorter before rfl (List.suffix_cons _ _)

theorem advance_narrows
    {now : Time} {db : Db} {call next : Call} {progress : Progress}
    (advances : advance now db call = some progress)
    (goesOn : progress.next = some next) :
    call.Narrows next := by
  cases call with
  | releasing => cases advances
  | acquiring request stage =>
      cases stage with
      | gating | ungating => cases advances
      | holding gated =>
          simp only [advance, advanceAcquire] at advances
          split at advances
          · cases advances
            cases goesOn
          · split at advances <;> cases advances <;> cases goesOn
            exact .aside rfl rfl
  | placing request stage =>
      refine .aside rfl ?_
      cases stage with
      | approving => cases advances
      | opening | lookingUp =>
          simp only [advance, advancePlace] at advances
          split at advances <;> cases advances <;> cases goesOn <;> rfl
      | settling stage =>
          simp only [advance, advancePlace, Option.map_eq_some_iff] at advances
          obtain ⟨⟨after, events, settled⟩, -, rfl⟩ := advances
          cases settled <;> cases goesOn <;> rfl
      | polling =>
          simp only [advance, advancePlace] at advances
          split at advances
          · cases advances
            cases goesOn
          · cases advances
            cases goesOn
          · split at advances <;> cases advances <;> cases goesOn
            rfl
  | canceling cancellation stage =>
      cases stage with
      | refunding => cases advances
      | failing | closing =>
          simp only [advance, advanceCancel] at advances
          split at advances <;> cases advances <;> cases goesOn
  | reconciling rest confirmed stage =>
      cases stage with
      | inquiring => cases advances
      | settling stage =>
          simp only [advance, advanceReconcile, Option.map_eq_some_iff]
            at advances
          obtain ⟨⟨after, events, settled⟩, settles, rfl⟩ := advances
          cases settled with
          | settling later =>
              cases goesOn
              have same := (settle_order settles).1 later rfl
              exact .shorter rfl rfl ⟨[], congrArg (· :: rest) same⟩
          | confirmed | closed | compensated =>
              exact nextCandidate_narrows rfl goesOn
          | raised => cases goesOn

theorem receive_narrows
    {db : Db} {attempt : PayAttempt} {call next : Call} {progress : Progress}
    (receives : receive db attempt call = some progress)
    (goesOn : progress.next = some next) :
    call.Narrows next := by
  cases receives_of_receive receives with
  | placeUnanswered | inquiryBroken => cases goesOn
  | placeDeclined | placeApproved | placeRefunded | cancelRefunded =>
      cases goesOn
      exact .aside rfl rfl
  | inquiryUnknown => exact nextCandidate_narrows rfl goesOn
  | inquiryApproved | inquiryDeclined | reconcileRefunded =>
      cases goesOn
      exact .shorter rfl rfl List.suffix_rfl

theorem refund_narrows
    {call : Call} {pgTid number : String} {amount : Int}
    {executed : String → Call}
    (inFlight : call.refund? = some (pgTid, amount, executed)) :
    call.Narrows (executed number) := by
  cases refunds_of_refund inFlight with
  | placing | canceling => exact .aside rfl rfl
  | reconciling => exact .shorter rfl rfl List.suffix_rfl

theorem gateTrip_narrows
    {now : Time} {gate : KeyStore.Store Gate.Key Gate.Token} {io : GateIo}
    {call next : Call} {trip : GateProgress}
    (made : gateTrip now gate io call = some trip)
    (goesOn : trip.next = some next) :
    call.Narrows next := by
  cases travels_of_gateTrip made with
  | retried | passed =>
      cases goesOn
      exact .aside rfl rfl
  | blocked | ungated | released => cases goesOn

/-! ## The call at a place -/

/-- The index of the call that an action continues. -/
def Action.call? : Action → Option Nat
  | .advance index => some index
  | .execute index _ => some index
  | .answer index _ => some index
  | .gate index _ => some index
  | _ => none

/-- What a step does to the list of the calls. -/
inductive CallsTurn (world : World) (action : Action) (next : World) : Prop where
  | stay (calls : next.calls = world.calls)
  | start (call : Call)
      (starts : action.Starts call)
      (own : action.call? = none)
      (calls : next.calls = world.calls ++ [call])
  | replace (index : Nat) (call : Call) (after : Option Call)
      (own : action.call? = some index)
      (found : world.calls[index]? = some call)
      (narrows : ∀ later ∈ after, call.Narrows later)
      (calls : next.calls = World.replaceCall world.calls index after)

theorem step_calls {world next : World} {action : Action}
    (taken : world.step action = some next) :
    CallsTurn world action next := by
  cases step_moves taken with
  | stays calls => exact .stay calls
  | starts starts calls =>
      refine .start _ starts ?_ calls
      cases action with
      | advance | execute | answer | gate => cases starts
      | _ => rfl
  | advances found advances =>
      exact .replace _ _ _ rfl found (fun _ => advance_narrows advances) rfl
  | answers found receives =>
      exact .replace _ _ _ rfl found (fun _ => receive_narrows receives) rfl
  | executes found refunds calls =>
      refine .replace _ _ _ rfl found ?_ calls
      rintro later ⟨⟩
      exact refund_narrows refunds
  | travels found travels calls =>
      exact .replace _ _ _ rfl found (fun _ => gateTrip_narrows travels) calls

namespace World

/-- Where a call is after a step of another call: the calls behind an ended one move up. -/
def moved (world next : World) (action : Action) (place : Nat) : Nat :=
  match action.call? with
  | some other =>
      if other < place ∧ next.calls.length < world.calls.length then place - 1
      else place
  | none => place

/-- The run of a world together with the place of one call, as long as it goes on. -/
def follow (followed : World × Nat) (action : Action) : Option (World × Nat) :=
  (followed.1.step action).bind fun next =>
    if action.call? = some followed.2 then
      if next.calls.length = followed.1.calls.length then some (next, followed.2)
      else none
    else some (next, followed.1.moved next action followed.2)

variable {world next : World} {action : Action} {place : Nat}

theorem replaceCall_length_none {calls : List Call} {index : Nat}
    (inside : index < calls.length) :
    (replaceCall calls index none).length + 1 = calls.length := by
  rw [replaceCall, List.length_eraseIdx_of_lt inside]
  omega

theorem replaceCall_length_some (calls : List Call) (index : Nat) (call : Call) :
    (replaceCall calls index (some call)).length = calls.length :=
  List.length_set

/-- A step of another call moves the call but does not change it. -/
theorem moved_call (taken : world.step action = some next)
    (other : action.call? ≠ some place) {call : Call}
    (found : world.calls[place]? = some call) :
    next.calls[world.moved next action place]? = some call := by
  obtain ⟨inside, -⟩ := List.getElem?_eq_some_iff.mp found
  have stays (same : next.calls.length ≥ world.calls.length) :
      world.moved next action place = place := by
    rw [moved]
    split
    · rw [if_neg]
      rintro ⟨-, shorter⟩
      omega
    · rfl
  cases step_calls taken with
  | stay calls => rw [stays (by rw [calls]), calls, found]
  | start started starts own calls =>
      rw [stays (by rw [calls]; simp), calls, List.getElem?_append_left inside, found]
  | replace index replaced after own known narrows calls =>
      have apart : index ≠ place := by
        rintro rfl
        exact other own
      cases after with
      | some later =>
          have length := replaceCall_length_some world.calls index later
          rw [stays (by rw [calls, length]), calls, replaceCall,
            List.getElem?_set_ne apart, found]
      | none =>
          obtain ⟨within, -⟩ := List.getElem?_eq_some_iff.mp known
          have length := replaceCall_length_none within
          rw [← calls] at length
          rw [moved, own]
          dsimp only
          by_cases before : index < place
          · rw [if_pos ⟨before, by omega⟩, calls, replaceCall,
              List.getElem?_eraseIdx_of_ge (by omega),
              Nat.sub_add_cancel (by omega), found]
          · rw [if_neg fun both => before both.1, calls, replaceCall,
              List.getElem?_eraseIdx_of_lt (by omega), found]

/-- A call that goes on narrows its list. -/
theorem own_call (taken : world.step action = some next)
    (own : action.call? = some place)
    (ongoing : next.calls.length = world.calls.length) {call : Call}
    (found : world.calls[place]? = some call) :
    ∃ later, next.calls[place]? = some later ∧
      (later = call ∨ call.Narrows later) := by
  cases step_calls taken with
  | stay calls => exact ⟨call, by rw [calls, found], Or.inl rfl⟩
  | start started starts idle calls =>
      rw [idle] at own
      cases own
  | replace index replaced after own' known narrows calls =>
      cases Option.some.inj (own'.symm.trans own)
      cases Option.some.inj (known.symm.trans found)
      obtain ⟨inside, -⟩ := List.getElem?_eq_some_iff.mp known
      cases after with
      | none =>
          have length := replaceCall_length_none inside
          rw [← calls] at length
          omega
      | some later =>
          refine ⟨later, ?_, Or.inr (narrows later rfl)⟩
          rw [calls, replaceCall, List.getElem?_set_self inside]

end World

/-! ## The rows of an order -/

/-- The order of a task. -/
def Task.orderId : Task → Nat
  | .approving orderId _ => orderId
  | .inquiring orderId => orderId
  | .settling stage => stage.orderId
  | .canceling cancellation _ => cancellation.order.id

/-- The rows that carry the id of the order are the same. -/
structure Db.KeepsOrder (db after : Db) (orderId : Nat) : Prop where
  orders :
    after.orders.filter (·.id == orderId) = db.orders.filter (·.id == orderId)
  payments :
    after.payments.filter (·.orderId == orderId) =
      db.payments.filter (·.orderId == orderId)
  orderItems : after.itemsOf orderId = db.itemsOf orderId
  outbox :
    after.outbox.filter (·.payload.orderId == orderId) =
      db.outbox.filter (·.payload.orderId == orderId)

section Rows

variable {db middle after : Db} {orderId other : Nat}

theorem Db.KeepsOrder.refl : db.KeepsOrder db orderId :=
  ⟨rfl, rfl, rfl, rfl⟩

theorem Db.KeepsOrder.trans (first : db.KeepsOrder middle orderId)
    (second : middle.KeepsOrder after orderId) :
    db.KeepsOrder after orderId :=
  ⟨second.orders.trans first.orders, second.payments.trans first.payments,
    second.orderItems.trans first.orderItems, second.outbox.trans first.outbox⟩

/-- A change of seats changes no row of an order. -/
theorem Db.KeepsOrder.updateSeats
    {condition : ScheduleSeat → Bool} {change : ScheduleSeat → ScheduleSeat} :
    db.KeepsOrder (db.updateSeats condition change) orderId :=
  ⟨rfl, rfl, rfl, rfl⟩

theorem keepsOrder_markOrder {status expect : OrderStatus}
    (apart : other ≠ orderId) :
    db.KeepsOrder (markOrder other status expect db).2 orderId where
  orders := by
    apply filter_updateWhere_of_apart
    intro row touched
    simp only [Bool.and_eq_true, beq_iff_eq] at touched
    simp [touched.1, apart]
  payments := rfl
  orderItems := rfl
  outbox := rfl

theorem keepsOrder_failPendingPayments (apart : other ≠ orderId) :
    db.KeepsOrder (failPendingPayments other db) orderId where
  orders := rfl
  payments := by
    apply filter_updateWhere_of_apart
    intro row touched
    simp only [isRequested, Bool.and_eq_true, beq_iff_eq] at touched
    simp [touched.1, apart]
  orderItems := rfl
  outbox := rfl

theorem keepsOrder_insertPayment
    {status : PayStatus} {amount : Int} {pgTid : Option String}
    {fees : Option FeeSnapshot}
    (ok : insertPayment other status amount pgTid fees db = .ok after)
    (apart : other ≠ orderId) :
    db.KeepsOrder after orderId := by
  obtain ⟨-, rfl⟩ := insertPayment_ok.mp ok
  refine ⟨rfl, ?_, rfl, rfl⟩
  apply filter_append_of_apart
  intro row member
  rw [List.mem_singleton.mp member]
  simpa using apart

theorem keepsOrder_closeUnpaid {status : OrderStatus}
    (ok : closeUnpaid other status db = .ok after) (apart : other ≠ orderId) :
    db.KeepsOrder after orderId := by
  rcases closeUnpaid_ok ok with rfl | ⟨owner, -, -, -, rfl⟩
  · exact .refl
  · exact
      ((keepsOrder_markOrder apart).trans
        (keepsOrder_failPendingPayments apart)).trans .updateSeats

theorem keepsOrder_recordRefund {order : Order} {total : Int}
    {attempt : PayAttempt}
    (ok : recordRefund order total attempt db = .ok after)
    (apart : order.id ≠ orderId) :
    db.KeepsOrder after orderId := by
  obtain ⟨middle, inserted, rfl⟩ := recordRefund_ok ok
  have failed :=
    (keepsOrder_insertPayment inserted apart).trans
      (keepsOrder_failPendingPayments apart)
  split
  · exact (failed.trans (keepsOrder_markOrder apart)).trans .updateSeats
  · exact failed

theorem keepsOrder_closeCanceled
    {cancellation : Cancellation} {attempt : PayAttempt}
    (ok : closeCanceled cancellation attempt db = .ok after)
    (apart : cancellation.order.id ≠ orderId) :
    db.KeepsOrder after orderId := by
  rcases closeCanceled_ok ok with ⟨rfl, -⟩ | ⟨-, refunded, inserted, rfl⟩
  · exact .refl
  · have recorded :=
      (keepsOrder_markOrder apart).trans (keepsOrder_insertPayment inserted apart)
    refine ⟨recorded.orders, recorded.payments, recorded.orderItems, ?_⟩
    rw [← recorded.outbox]
    apply filter_append_of_apart
    intro row member
    rw [List.mem_singleton.mp member]
    simpa [Payload.orderId] using apart

theorem Confirmed.keepsOrder {order : Order} {pgTid : String} {now : Time}
    (confirmed : Confirmed order pgTid now db after) (sound : db.Sound)
    (apart : order.id ≠ orderId) :
    db.KeepsOrder after orderId where
  orders := by
    rw [confirmed.orders sound.orderIdUnique]
    apply filter_updateWhere_of_apart
    intro row touched
    rw [beq_iff_eq] at touched
    simp [touched, apart]
  payments := by
    rcases confirmed.promoted with ⟨-, equal⟩ | ⟨-, equal⟩
    · rw [equal]
      apply filter_updateWhere_of_apart
      intro row touched
      simp only [isRequested, Bool.and_eq_true, beq_iff_eq] at touched
      simp [touched.1, apart]
    · rw [equal]
      apply filter_append_of_apart
      intro row member
      rw [List.mem_singleton.mp member]
      simpa using apart
  orderItems := by
    rw [Db.itemsOf, confirmed.orderItems]
    apply filter_append_of_apart
    intro item member
    obtain ⟨row, -, -, rfl⟩ := Confirmed.mem_claims.mp member
    simpa [Order.item] using apart
  outbox := by
    rw [confirmed.after_eq]
    apply filter_append_of_apart
    intro row member
    rw [List.mem_singleton.mp member]
    simpa [Payload.orderId] using apart

/-- A call changes the rows of its own order only. -/
theorem Turn.keepsOrder
    {world : World} {action : Action} {task : Task} {after : Option Task}
    {books : Books}
    (consistent : world.Consistent)
    (turn : Turn world action (some task) after books)
    (apart : task.orderId ≠ orderId) :
    world.db.KeepsOrder books.db orderId := by
  cases turn with
  | confirmed confirms source confirmed quiet =>
      rcases source with ⟨amount, own⟩ | ⟨idle, -⟩
      · cases own
        exact confirmed.keepsOrder consistent.sound apart
      · cases idle
  | recorded recorded => exact keepsOrder_recordRefund recorded apart
  | closed closed => exact keepsOrder_closeUnpaid closed apart
  | cancelFailed recorded => exact keepsOrder_insertPayment recorded apart
  | cancelClosed closed => exact keepsOrder_closeCanceled closed apart
  | _ => exact .refl

end Rows

/-! ## A call that hears nothing -/

/-- A conclusive answer about the order has been given. -/
def World.Concluded (world : World) (orderId : Nat) : Prop :=
  world.Answered orderId .approved ∨ world.Answered orderId .declined ∨
    ∃ amount attempt, attempt.approved = true ∧
      .refundAnswered orderId amount attempt ∈ world.log

/--
The action is about another order, which names the seat that its user holds
and has its own answer.
-/
def World.SettlesOther (world : World) (action : Action) (orderId : Nat)
    (row : ScheduleSeat) : Prop :=
  ∃ other ∈ world.db.orders, other.id ≠ orderId ∧
    (world.taskOf action).map Task.orderId = some other.id ∧
      row.scheduleId = other.scheduleId ∧ row.seatId ∈ other.seatIds ∧
        row.heldBy = some other.userId ∧ world.Concluded other.id

/--
The rows of the order are the same, and the action changes a stock row only
where it settles another order.
-/
structure World.LeavesAlone (world : World) (action : Action) (next : World)
    (orderId : Nat) : Prop where
  rows : world.db.KeepsOrder next.db orderId
  seats :
    ∀ row ∈ world.db.scheduleSeats,
      row ∈ next.db.scheduleSeats ∨ world.SettlesOther action orderId row

/-- Every reconciler looks at different orders. -/
def World.Distinct (world : World) : Prop :=
  ∀ call ∈ world.calls, ∀ orders, call.candidates = some orders → orders.Nodup

/-- The call at the place is a reconciler that does not look at the order any more. -/
def World.Spares (orderId : Nat) (followed : World × Nat) : Prop :=
  ∃ call orders, followed.1.calls[followed.2]? = some call ∧
    call.candidates = some orders ∧ orderId ∉ orders

theorem unresolvedOrders_nodup
    {olderThanSec : Int} {batch : Nat} {now : Time} {db : Db}
    (unique : Unique Order.id db.orders) :
    (unresolvedOrders olderThanSec batch now db).Nodup := by
  refine List.Nodup.sublist ((List.take_sublist _ _).map _) ?_
  refine ((List.perm_insertionSort _ _).map Order.id).nodup_iff.mpr ?_
  exact List.Nodup.sublist (List.filter_sublist.map _) unique

/-- The task of a call is about the first of its candidates. -/
theorem Call.task_of_candidates {call : Call} {orders : List Nat}
    (listed : call.candidates = some orders) :
    ∃ task, call.task? = some task ∧ task.orderId ∈ orders := by
  cases call with
  | reconciling rest confirmed stage =>
      cases listed
      cases stage <;> exact ⟨_, rfl, List.mem_cons_self⟩
  | acquiring | releasing | placing | canceling => cases listed

namespace World

variable {world next : World} {action : Action} {place : Nat}

theorem taskOf_call (own : action.call? = some place) {call : Call}
    (found : world.calls[place]? = some call) :
    world.taskOf action = call.task? := by
  cases action with
  | advance | execute | answer | gate =>
      cases own
      simp [taskOf, found]
  | _ => cases own

theorem Distinct.step (distinct : world.Distinct) (consistent : world.Consistent)
    (taken : world.step action = some next) :
    next.Distinct := by
  intro call member orders listed
  cases step_calls taken with
  | stay calls =>
      rw [calls] at member
      exact distinct call member orders listed
  | replace index replaced after own found narrows calls =>
      rw [calls] at member
      rcases mem_replaceCall member with old | new
      · exact distinct call old orders listed
      · cases narrows call new with
        | aside before aside =>
            rw [aside] at listed
            cases listed
        | shorter before shorter suffix =>
            cases Option.some.inj (shorter.symm.trans listed)
            have earlier :=
              distinct replaced (List.mem_of_getElem? found) _ before
            exact earlier.sublist suffix.sublist
  | start started starts own calls =>
      rw [calls] at member
      rcases List.mem_append.mp member with old | new
      · exact distinct call old orders listed
      · rw [List.mem_singleton.mp new] at listed
        cases action with
        | startReconcile olderThanSec batch =>
            -- The list of a reconciler comes from its scan.
            cases taken
            have scanned :
                (unresolvedOrders olderThanSec batch world.clock world.db).Nodup :=
              unresolvedOrders_nodup consistent.sound.orderIdUnique
            have listing := List.append_cancel_left calls
            cases found : unresolvedOrders olderThanSec batch world.clock world.db with
            | nil =>
                rw [found] at listing
                cases listing
            | cons orderId rest =>
                rw [found] at listing scanned
                cases listing
                cases listed
                exact scanned
        | startAcquire | startPlace =>
            cases starts
            cases listed
        | startRelease =>
            obtain ⟨released, rfl⟩ := starts
            cases listed
        | startCancel =>
            obtain ⟨cancellation, rfl⟩ := starts
            cases listed
        | _ => cases starts

theorem Distinct.initial
    (inventory : Inventory) (startsAt : Nat → Policy.Datetime) (clock : Time) :
    (World.initial inventory startsAt clock).Distinct := by
  simp [Distinct, World.initial]

/-- A reconciler that spares an order goes on sparing it. -/
theorem Spares.step {orderId : Nat} {followed later : World × Nat}
    (spares : World.Spares orderId followed)
    (taken : World.follow followed action = some later) :
    World.Spares orderId later := by
  obtain ⟨world, place⟩ := followed
  obtain ⟨call, orders, found, listed, absent⟩ := spares
  obtain ⟨next, stepped, placed⟩ := Option.bind_eq_some_iff.mp taken
  split at placed
  · rename_i own
    split at placed
    · rename_i ongoing
      cases placed
      obtain ⟨after, at_, rfl | narrows⟩ := own_call stepped own ongoing found
      · exact ⟨_, orders, at_, listed, absent⟩
      · cases narrows with
        | aside before =>
            rw [before] at listed
            cases listed
        | shorter before shorter suffix =>
            cases Option.some.inj (before.symm.trans listed)
            exact ⟨after, _, at_, shorter, fun inRest => absent (suffix.subset inRest)⟩
    · cases placed
  · rename_i other
    cases placed
    exact ⟨call, orders, moved_call stepped other found, listed, absent⟩

/-- A reconciler that hears nothing about an order spares it from then on. -/
theorem spares_of_unknown (distinct : world.Distinct)
    {index orderId : Nat} {attempt : PayAttempt} {later : World × Nat}
    (asks :
      (world.taskOf (.answer index attempt)).bind Task.asks = some orderId)
    (unknown : attempt.result = .unknown)
    (taken : World.follow (world, index) (.answer index attempt) = some later) :
    World.Spares orderId later := by
  obtain ⟨next, stepped, placed⟩ := Option.bind_eq_some_iff.mp taken
  have own : (Action.answer index attempt).call? = some index := rfl
  dsimp only at placed stepped
  rw [if_pos own] at placed
  split at placed
  · rename_i ongoing
    cases placed
    obtain ⟨call, found, callTaken⟩ := Option.bind_eq_some_iff.mp stepped
    obtain ⟨progress, receives, final⟩ := Option.bind_eq_some_iff.mp callTaken
    cases final
    obtain ⟨inside, -⟩ := List.getElem?_eq_some_iff.mp found
    have goesOn : ∃ after, progress.next = some after := by
      cases ended : progress.next with
      | some after => exact ⟨after, rfl⟩
      | none =>
          have length := replaceCall_length_none inside
          simp only [World.progress, ended] at ongoing
          omega
    obtain ⟨after, goesOn⟩ := goesOn
    have placedAfter :
        (world.progress index progress).calls[index]? = some after := by
      simp only [World.progress, goesOn, replaceCall]
      exact List.getElem?_set_self inside
    rw [taskOf_call rfl found] at asks
    have nodup := distinct call (List.mem_of_getElem? found)
    cases call with
    | acquiring | releasing => cases asks
    | canceling => cases asks
    | placing request stage =>
        cases stage with
        | opening | lookingUp | polling => cases asks
        | settling => cases asks
        | approving =>
            simp only [receive, unknown] at receives
            cases receives
            cases goesOn
    | reconciling rest confirmed stage =>
        cases stage with
        | settling => cases asks
        | inquiring asked =>
            cases asks
            simp only [receive, unknown] at receives
            cases receives
            have absent := (List.nodup_cons.mp (nodup _ rfl)).1
            cases rest with
            | nil => cases goesOn
            | cons first rest =>
                cases goesOn
                exact ⟨_, _, placedAfter, rfl, absent⟩
  · cases placed

/-- A step of a sparing call leaves the order alone. -/
theorem leavesAlone_of_spares (hears : world.Hears) {orderId : Nat}
    (spares : World.Spares orderId (world, place))
    (own : action.call? = some place)
    (taken : world.step action = some next) :
    world.LeavesAlone action next orderId := by
  obtain ⟨call, orders, found, listed, absent⟩ := spares
  obtain ⟨task, isTask, inOrders⟩ := Call.task_of_candidates listed
  have apart : task.orderId ≠ orderId := by
    rintro rfl
    exact absent inOrders
  obtain ⟨after, exchange, turn⟩ := step_turn taken
  have current : world.taskOf action = some task := by
    rw [taskOf_call own found, isTask]
  have about : (world.taskOf action).map Task.orderId = some task.orderId :=
    congrArg (Option.map Task.orderId) current
  rw [current] at exchange turn
  have heard := hears.heard task (exchange.mem_before _ rfl)
  refine
    { rows := turn.keepsOrder hears.consistent apart
      seats := ?_ }
  obtain ⟨turned, equal, becomes⟩ := turn.seats hears.consistent
  intro row member
  rw [equal]
  have same (unchanged : turned row = row) :
      row ∈ world.db.scheduleSeats.map turned ∨
        world.SettlesOther action orderId row := by
    left
    rw [← unchanged]
    exact List.mem_map_of_mem member
  generalize isTurned : turned row = made at same
  have made' := becomes row member
  rw [isTurned] at made'
  cases made' with
  | same => exact same rfl
  | held userId expiresAt idle => cases idle
  | dropped idle => cases idle
  | restored cancellation attempt source =>
      cases source
      cases call with
      | reconciling rest confirmed stage => cases stage <;> cases isTask
      | acquiring | releasing | placing | canceling => cases listed
  | booked other pgTid confirms known claim =>
      right
      simp only [isClaim, heldLive, Bool.and_eq_true, beq_iff_eq,
        List.contains_iff_mem] at claim
      obtain rfl | ⟨amount, confirming⟩ := confirms_source confirms
      · cases own
      · cases current.symm.trans confirming
        exact
          ⟨other, known, apart, about, claim.1.1, claim.1.2, claim.2.1.2,
            Or.inl heard⟩
  | released other stage source closes ownOrder read held =>
      right
      cases source
      simp only [isHoldOf, Bool.and_eq_true, beq_iff_eq, List.contains_iff_mem]
        at held
      cases stage with
      | confirming | compensating | refunding => cases closes
      | closing closedId status =>
          rcases read with known | ⟨total, why, attempt, impossible⟩
          · rw [Settling.orderId] at ownOrder
            subst ownOrder
            exact
              ⟨other, known, apart, about, held.1.1.1, held.1.1.2, held.2,
                Or.inr (Or.inl heard)⟩
          · cases impossible
      | recording refunded total why attempt =>
          obtain ⟨⟨known, knownMember, head⟩, answered⟩ := heard
          have concluded : world.Concluded refunded.id :=
            Or.inr (Or.inr ⟨total, attempt, closes, answered⟩)
          rcases read with otherMember | ⟨_, _, _, isRead⟩
          · rw [Settling.orderId] at ownOrder
            rw [← ownOrder] at concluded
            have different : other.id ≠ orderId := by
              rw [ownOrder]
              exact apart
            exact
              ⟨other, otherMember, different,
                about.trans (congrArg _ ownOrder.symm), held.1.1.1, held.1.1.2,
                held.2, concluded⟩
          · -- The call has read the row that is still there, apart from its state.
            cases isRead
            have userId := Order.userId_of_head head
            have scheduleId : known.scheduleId = other.scheduleId := by
              show known.head.scheduleId = other.head.scheduleId
              rw [head]
            have seatIds : known.seatIds = other.seatIds := by
              show known.head.seatIds = other.head.seatIds
              rw [head]
            rw [← Order.id_of_head head] at concluded
            refine ⟨known, knownMember, ?_, ?_, ?_, ?_, ?_, concluded⟩
            · rw [Order.id_of_head head]
              exact apart
            · rw [Order.id_of_head head]
              exact about
            · rw [scheduleId]
              exact held.1.1.1
            · rw [seatIds]
              exact held.1.1.2
            · rw [userId]
              exact held.2

end World

/-! ## Leaving the pending state -/

/-- What a step makes of a pending order follows from an answer about it. -/
def World.Concludes (world : World) (action : Action) (next : World) : Prop :=
  ∀ old ∈ world.db.orders, old.status = .pending →
    ∀ order ∈ next.db.orders, order.id = old.id →
      order.status = .pending ∨
        (order.status = .paid ∧
          (world.Answered old.id .approved ∨
            ∃ pgTid, action = .webhook old.id pgTid)) ∨
        ((order.status = .canceled ∨ order.status = .failed) ∧
          (world.Answered old.id .declined ∨
            ∃ amount attempt, attempt.approved = true ∧
              .refundAnswered old.id amount attempt ∈ world.log))

namespace World

variable {world next : World} {action : Action} {place : Nat}

theorem Hears.concludes (hears : world.Hears)
    (taken : world.step action = some next) :
    world.Concludes action next := by
  have sound := hears.consistent.sound
  obtain ⟨after, exchange, turn⟩ := step_turn taken
  have heard : ∀ task ∈ world.taskOf action, world.Heard task := by
    intro task member
    exact hears.heard task (exchange.mem_before task member)
  have known := exchange.mem_before
  intro old oldMember pending order member equal
  rcases turn.order_becomes hears.consistent known order member with
    ⟨source, sourceMember, becomes⟩ | ⟨-, request, opened⟩
  · have same : source = old :=
      sound.order_eq sourceMember oldMember
        ((Order.id_of_head becomes.head).symm.trans equal)
    subst same
    cases becomes with
    | same => exact Or.inl pending
    | paid snapshot pgTid _ confirms =>
        refine Or.inr (Or.inl ⟨rfl, ?_⟩)
        obtain rfl | ⟨amount, current⟩ := confirms_source confirms
        · exact Or.inr ⟨pgTid, rfl⟩
        · exact Or.inl (heard _ current)
    | unpaid status _ final current =>
        exact Or.inr (Or.inr ⟨final.symm, Or.inl (heard _ current)⟩)
    | refunded refunded total why attempt _ current own approved =>
        have answered := (heard _ current).2
        rw [own] at answered
        exact
          Or.inr (Or.inr ⟨Or.inr rfl, Or.inr ⟨total, attempt, approved, answered⟩⟩)
    | canceled cancellation attempt paid =>
        rw [pending] at paid
        cases paid
  · left
    rw [opened.order_eq]

/-! ## Every run -/

theorem distinct_of_reachable
    {inventory : Inventory} {startsAt : Nat → Policy.Datetime} {clock : Time}
    (reachable :
      TransitionSystem.Reachable World.step
        (World.initial inventory startsAt clock) world) :
    world.Distinct := by
  have both : world.Consistent ∧ world.Distinct := by
    apply reachable.invariant
    · exact
        ⟨initial_consistent inventory startsAt clock,
          Distinct.initial inventory startsAt clock⟩
    · intro state action after both _ taken
      exact ⟨both.1.step taken, both.2.step both.1 taken⟩
  exact both.2

/-- The history of a followed call is a run. -/
theorem reachable_of_follow {started followed : World × Nat}
    (run : TransitionSystem.Reachable World.follow started followed) :
    TransitionSystem.Reachable World.step started.1 followed.1 := by
  induction run with
  | refl => exact .refl
  | tail _ _ taken induction =>
      obtain ⟨next, stepped, placed⟩ := Option.bind_eq_some_iff.mp taken
      split at placed
      · split at placed <;> cases placed
        exact induction.tail trivial stepped
      · cases placed
        exact induction.tail trivial stepped

/-- Silence changes no table, and it ends a placing call. -/
theorem unheard_step {index : Nat} {attempt : PayAttempt}
    (unknown : attempt.result = .unknown)
    (taken : world.step (.answer index attempt) = some next) :
    next.db = world.db ∧
      ∀ amount, world.taskOf (.answer index attempt) =
          some (.approving orderId amount) →
        next.calls = world.calls.eraseIdx index := by
  obtain ⟨call, found, callTaken⟩ := Option.bind_eq_some_iff.mp taken
  obtain ⟨progress, receives, final⟩ := Option.bind_eq_some_iff.mp callTaken
  cases final
  refine ⟨receive_db receives, ?_⟩
  intro amount asking
  rw [taskOf_call rfl found] at asking
  cases call with
  | placing request stage =>
      cases stage with
      | approving =>
          simp only [receive, unknown] at receives
          cases receives
          rfl
      | opening | lookingUp | settling | polling => cases asking
  | reconciling rest confirmed stage => cases stage <;> cases asking
  | acquiring | releasing | canceling => cases asking

/--
In every run an order leaves the pending state after a conclusive answer about
it.  A call that is told nothing changes nothing then; a placing call ends, and
whatever the call does later it leaves the order alone.
-/
theorem silence_concludes_nothing
    {inventory : Inventory} {startsAt : Nat → Policy.Datetime} {clock : Time}
    (reachable :
      TransitionSystem.Reachable World.step
        (World.initial inventory startsAt clock) world) :
    (∀ action next, world.step action = some next →
      world.Concludes action next) ∧
    ∀ index attempt orderId,
      (world.taskOf (.answer index attempt)).bind Task.asks = some orderId →
        attempt.result = .unknown →
          (∀ next, world.step (.answer index attempt) = some next →
            next.db = world.db ∧
              ∀ amount, world.taskOf (.answer index attempt) =
                  some (.approving orderId amount) →
                next.calls = world.calls.eraseIdx index) ∧
          ∀ started later place action next,
            World.follow (world, index) (.answer index attempt) = some started →
              TransitionSystem.Reachable World.follow started (later, place) →
                action.call? = some place → later.step action = some next →
                  later.LeavesAlone action next orderId := by
  have hears := hears_of_reachable reachable
  have distinct := distinct_of_reachable reachable
  refine ⟨fun action next taken => hears.concludes taken, ?_⟩
  intro index attempt orderId asks unknown
  refine ⟨fun next taken => unheard_step unknown taken, ?_⟩
  intro started later place action next unheard followed own taken
  have spares : World.Spares orderId (later, place) :=
    followed.invariant (spares_of_unknown distinct asks unknown unheard)
      fun _ _ _ spares _ taken => spares.step taken
  have run : TransitionSystem.Reachable World.step world later :=
    reachable_of_follow (.head trivial unheard followed)
  exact
    leavesAlone_of_spares (hears_of_reachable (reachable.trans run)) spares own
      taken

/-! ### Two orders for one seat -/

/--
A user orders the seat twice.  Both approvals are lost, the second one is
executed, and the reconciler has scanned both orders.
-/
def overlappingOrders : List Action :=
  Action.order 7 "first" ++
    [placeOneSeat 7 "second",
     .advance 1,
     .execute 1 "tid-2",
     .answer 0 { result := .unknown },
     .answer 0 { result := .unknown },
     .tick 300001,
     .startReconcile 300 100]

/-- The reconciler hears nothing about the first order. -/
def silence : Action :=
  .answer 0 { result := .unknown }

/-- It hears that the second order is approved. -/
def secondApproved : List Action :=
  [.answer 0 { result := .approved, pgTid := some "tid-2" }]

/-- Some seat of the first order changes with the next step of the reconciler. -/
def booksSharedSeat (later next : World) : Bool :=
  later.db.orders.any fun order =>
    order.id == 1 && later.db.scheduleSeats.any fun row =>
      order.wants row.stock && !next.db.scheduleSeats.contains row

/-- The reconciler books the seat of the first order for the second one. -/
theorem overlappingOrders_books :
    ∃ world started later next : World, ∃ place : Nat,
      TransitionSystem.RunWhere World.step
          (fun world action => world.truthful action = true) World.oneSeat world ∧
        (world.taskOf silence).bind Task.asks = some 1 ∧
        World.follow (world, 0) silence = some (started, place) ∧
        TransitionSystem.Reachable World.follow (started, place) (later, 0) ∧
        later.step (.advance 0) = some next ∧
        booksSharedSeat later next = true := by
  obtain ⟨world, run, seen⟩ :=
    TransitionSystem.RunWhere.exists_of_checkedRun World.step
      (fun world action => world.truthful action = true)
      World.oneSeat overlappingOrders
      (fun world : World =>
        (world.taskOf silence).bind Task.asks == some 1 &&
          (World.follow (world, 0) silence).any fun started =>
            (TransitionSystem.checkedRun World.follow (fun _ _ => True) started
                secondApproved).any fun followed =>
              followed.2 == 0 &&
                (followed.1.step (.advance 0)).any
                  (booksSharedSeat followed.1))
      (by decide)
  rw [Bool.and_eq_true, beq_iff_eq] at seen
  obtain ⟨⟨started, place⟩, unheard, rest⟩ := (Option.any_eq_true _ _).mp seen.2
  obtain ⟨⟨later, last⟩, followed, ends⟩ := (Option.any_eq_true _ _).mp rest
  rw [Bool.and_eq_true, beq_iff_eq] at ends
  obtain ⟨next, taken, books⟩ := (Option.any_eq_true _ _).mp ends.2
  have reached := TransitionSystem.RunWhere.of_checkedRun secondApproved followed
  rw [show last = 0 from ends.1] at reached
  exact
    ⟨world, started, later, next, place, run, seen.1, unheard, reached, taken,
      books⟩

/-- Silence about an order does not keep its seats as they are. -/
theorem silence_concludes_nothing_fails :
    ¬ ∀ world : World,
      TransitionSystem.RunWhere World.step
          (fun world action => world.truthful action = true) World.oneSeat world →
        ∀ index attempt orderId,
          (world.taskOf (.answer index attempt)).bind Task.asks = some orderId →
            attempt.result = .unknown →
              ∀ started later place action next,
                World.follow (world, index) (.answer index attempt) =
                    some started →
                  TransitionSystem.Reachable World.follow started (later, place) →
                    action.call? = some place → later.step action = some next →
                      later.db.KeepsOrder next.db orderId ∧
                        ∀ order ∈ later.db.orders, order.id = orderId →
                          ∀ row ∈ later.db.scheduleSeats,
                            order.wants row.stock = true →
                              row ∈ next.db.scheduleSeats := by
  intro claim
  obtain ⟨world, started, later, next, place, run, asks, unheard, followed,
    taken, books⟩ := overlappingOrders_books
  obtain ⟨-, kept⟩ :=
    claim world run 0 _ 1 asks rfl _ later 0 (.advance 0) next unheard followed
      rfl taken
  obtain ⟨order, member, found⟩ := List.any_eq_true.mp books
  rw [Bool.and_eq_true, beq_iff_eq] at found
  obtain ⟨row, rowMember, changed⟩ := List.any_eq_true.mp found.2
  simp only [Bool.and_eq_true, Bool.not_eq_true', ← Bool.not_eq_true,
    List.contains_iff_mem] at changed
  exact changed.2 (kept order member found.1 row rowMember changed.1)

/-- Throughout the same run the order itself is left alone. -/
theorem silence_concludes_nothing_overlapping :
    ∃ later next : World,
      booksSharedSeat later next = true ∧
        later.LeavesAlone (.advance 0) next 1 := by
  obtain ⟨world, started, later, next, place, run, asks, unheard, followed,
    taken, books⟩ := overlappingOrders_books
  have reachable := run.mono fun _ _ _ => trivial
  obtain ⟨-, silent⟩ := silence_concludes_nothing reachable
  obtain ⟨-, leaves⟩ := silent 0 _ 1 asks rfl
  exact
    ⟨later, next, books,
      leaves _ later 0 (.advance 0) next unheard followed rfl taken⟩

end World

end Curtain
