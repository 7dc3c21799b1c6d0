import Curtain.Keys
import Curtain.Silence

/-!
# What the gateway is asked to approve

A placing call asks for an approval in the step that commits its order.  The
order and its requested payment come out of one statement, so the amount, the
seats and the holds of the order are those the statement read.  A call that
finds a seat not held never asks and never writes.
-/

namespace Curtain

open Queries Table HoldService OrderService

/-! ## Opening an order -/

/-- The seat has a row that the user holds, with more than the margin left. -/
def PlaceRequest.Holds (request : PlaceRequest) (now : Time) (db : Db)
    (seatId : Nat) : Prop :=
  ∃ row ∈ db.scheduleSeats,
    row.scheduleId = request.scheduleId ∧ row.seatId = seatId ∧
      row.status = .held ∧ row.heldBy = some request.userId ∧
      ∃ expiresAt, row.holdExpiresAt = some expiresAt ∧
        now + seconds request.minHoldRemainingSec < expiresAt

/--
The order and its payment were committed together from a state in which the
request could be paid.
-/
structure Payable (request : PlaceRequest) (now : Time) (read after : Db)
    (order : Order) : Prop where
  ordered : after.orders = read.orders ++ [order]
  requested :
    ∃ payment : Payment, after.payments = read.payments ++ [payment] ∧
      payment.orderId = order.id ∧ payment.status = .requested ∧
      payment.amount = order.totalAmount
  pending : order.status = .pending
  owner : order.userId = request.userId
  schedule : order.scheduleId = request.scheduleId
  sorted : order.seatIds.Pairwise (· < ·)
  wanted : ∀ seatId, seatId ∈ order.seatIds ↔ seatId ∈ request.seatIds
  rows :
    ((read.scheduleSeats.filter fun row => order.wants row.stock).map
      (·.seatId)).Perm order.seatIds
  total :
    order.totalAmount =
      ((read.scheduleSeats.filter fun row => order.wants row.stock).map
        (·.price)).sum
  held : ∀ seatId ∈ order.seatIds, PlaceRequest.Holds request now read seatId

section Opening

variable {db after : Db} {now : Time} {request : PlaceRequest} {order : Order}

theorem mem_wanted {seatId : Nat} :
    seatId ∈ request.wanted ↔ seatId ∈ request.seatIds := by
  rw [PlaceRequest.wanted, List.mem_insertionSort, List.mem_dedup]

theorem wanted_sorted (request : PlaceRequest) :
    request.wanted.Pairwise (· < ·) := by
  have nodup : request.wanted.Nodup :=
    (List.perm_insertionSort _ _).nodup_iff.mpr request.seatIds.nodup_dedup
  have sorted : request.wanted.Pairwise (· ≤ ·) :=
    List.pairwise_insertionSort _ _
  exact (sorted.and nodup).imp fun both => lt_of_le_of_ne both.1 both.2

theorem isOrderable_iff {row : ScheduleSeat} :
    isOrderable request.scheduleId request.userId request.wanted
        request.minHoldRemainingSec now row = true ↔
      (row.scheduleId = request.scheduleId ∧ row.seatId ∈ request.seatIds) ∧
        row.status = .held ∧ row.heldBy = some request.userId ∧
        ∃ expiresAt, row.holdExpiresAt = some expiresAt ∧
          now + seconds request.minHoldRemainingSec < expiresAt := by
  simp [isOrderable, heldLive, Option.any_eq_true, mem_wanted, and_assoc]

/-- The statement that opens an order saw every seat of it held. -/
theorem Opened.payable (sound : db.Sound)
    (opened : Opened request now db order after) :
    Payable request now db after order := by
  have seats : order.seatIds = request.wanted := by rw [opened.order_eq]
  have complete :
      (db.scheduleSeats.filter
        (isOrderable request.scheduleId request.userId request.wanted
          request.minHoldRemainingSec now)).length = order.seatIds.length := by
    rw [opened.held, seats]
  have same := opened.orderable_eq sound.seatUnique
  rw [same] at complete
  have rows := Db.filter_seats sound.seatUnique Order.wants_narrower complete.ge
  constructor
  case ordered => rw [opened.after_eq]
  case requested => exact ⟨_, by rw [opened.after_eq], rfl, rfl, rfl⟩
  case pending => exact opened.pending
  case owner => rw [opened.order_eq]
  case schedule => rw [opened.order_eq]
  case sorted =>
    rw [seats]
    exact wanted_sorted request
  case wanted =>
    intro seatId
    rw [seats]
    exact mem_wanted
  case rows => exact rows
  case total =>
    rw [← same, opened.order_eq]
  case held =>
    intro seatId member
    obtain ⟨row, rowMember, rfl⟩ := List.mem_map.mp (rows.mem_iff.mpr member)
    rw [← same] at rowMember
    obtain ⟨stored, orderable⟩ := List.mem_filter.mp rowMember
    obtain ⟨⟨inSchedule, -⟩, held⟩ := isOrderable_iff.mp orderable
    exact ⟨row, stored, inSchedule, rfl, held⟩

/-- Without a hold on every seat the statement inserts no row. -/
theorem openPending_of_unheld (sound : db.Sound)
    {seatId : Nat} (member : seatId ∈ request.seatIds)
    (unheld : ¬ PlaceRequest.Holds request now db seatId) :
    openPending request now db = .ok (none, db) := by
  have incomplete :
      (db.scheduleSeats.filter
        (isOrderable request.scheduleId request.userId request.wanted
          request.minHoldRemainingSec now)).length ≠ request.wanted.length := by
    intro complete
    have narrower :
        ∀ row,
          isOrderable request.scheduleId request.userId request.wanted
            request.minHoldRemainingSec now row = true →
          row.scheduleId = request.scheduleId ∧ row.seatId ∈ request.wanted := by
      intro row orderable
      obtain ⟨narrow, -⟩ := isOrderable_iff.mp orderable
      exact ⟨narrow.1, mem_wanted.mpr narrow.2⟩
    have rows := Db.filter_seats sound.seatUnique narrower complete.ge
    obtain ⟨row, rowMember, rfl⟩ :=
      List.mem_map.mp (rows.mem_iff.mpr (mem_wanted.mpr member))
    obtain ⟨stored, orderable⟩ := List.mem_filter.mp rowMember
    obtain ⟨⟨inSchedule, -⟩, held⟩ := isOrderable_iff.mp orderable
    exact unheld ⟨row, stored, inSchedule, rfl, held⟩
  simp only [openPending, openOrder, if_pos incomplete, bind, Except.bind,
    pure, Except.pure]

end Opening

/-! ## Which step asks -/

section Asks

variable {now : Time} {db : Db} {call : Call} {progress : Progress}
variable {orderId : Nat} {amount : Int}

theorem not_asked_of_aside {events : List Event}
    (aside : ∀ event ∈ events, event.aside = true) :
    .approveRequested orderId amount ∉ events := by
  intro member
  cases aside _ member

/-- Only the transaction that opens an order asks for an approval. -/
theorem advance_asks
    (advances : advance now db call = some progress)
    (asked : .approveRequested orderId amount ∈ progress.events) :
    ∃ request order, call = .placing request .opening ∧
      Opened request now db order progress.db ∧
      progress.next = some (.placing request (.approving orderId amount)) ∧
      order.id = orderId ∧ order.totalAmount = amount := by
  cases call with
  | releasing => cases advances
  | acquiring request stage =>
      cases stage with
      | gating | ungating => cases advances
      | holding gated =>
          simp only [advance, advanceAcquire] at advances
          split at advances
          · cases advances
            simp at asked
          · split at advances <;> cases advances <;> simp at asked
  | canceling cancellation stage =>
      cases stage with
      | refunding => cases advances
      | failing | closing =>
          simp only [advance, advanceCancel] at advances
          split at advances <;> cases advances <;> simp [cancelEnds] at asked
  | reconciling rest confirmed stage =>
      cases stage with
      | inquiring => cases advances
      | settling stage =>
          simp only [advance, advanceReconcile, Option.map_eq_some_iff]
            at advances
          obtain ⟨⟨after, events, settled⟩, settles, rfl⟩ := advances
          obtain ⟨-, -, aside⟩ := settle_order settles
          have quiet : Event.approveRequested orderId amount ∉ events :=
            not_asked_of_aside aside
          cases settled with
          | settling next => exact absurd asked quiet
          | confirmed | closed | compensated =>
              cases rest <;> simp [nextCandidate, quiet] at asked
          | raised error => simp [quiet] at asked
  | placing request stage =>
      cases stage with
      | approving => cases advances
      | opening =>
          simp only [advance, advancePlace] at advances
          split at advances
          · cases advances
            simp [placeEnds] at asked
          · rename_i order after opens
            cases advances
            cases List.mem_singleton.mp asked
            exact ⟨request, order, rfl, openPending_some opens, rfl, rfl, rfl⟩
          · cases advances
            cases asked
      | lookingUp startedAt =>
          simp only [advance, advancePlace] at advances
          split at advances <;> cases advances <;> simp [placeEnds] at asked
      | settling stage =>
          simp only [advance, advancePlace, Option.map_eq_some_iff] at advances
          obtain ⟨⟨after, events, settled⟩, settles, rfl⟩ := advances
          obtain ⟨-, -, aside⟩ := settle_order settles
          have quiet : Event.approveRequested orderId amount ∉ events :=
            not_asked_of_aside aside
          cases settled with
          | settling next => exact absurd asked quiet
          | confirmed => exact absurd asked quiet
          | closed | compensated | raised => simp [placeEnds] at asked
      | polling orderId attempts replayed =>
          simp only [advance, advancePlace] at advances
          split at advances
          · cases advances
            simp [placeEnds] at asked
          · cases advances
            simp [placeEnds] at asked
          · split at advances <;> cases advances <;> simp [placeEnds] at asked

/-- An answer of the gateway makes no call ask for an approval. -/
theorem receive_asks {attempt : PayAttempt}
    (receives : receive db attempt call = some progress) :
    .approveRequested orderId amount ∉ progress.events := by
  intro asked
  have requested : orderId ∈ progress.events.filterMap Event.requested? :=
    List.mem_filterMap.mpr ⟨_, asked, rfl⟩
  have places : progress.Places 0 db call := receive_places receives
  rcases places.requests with none | ⟨request, order, opened, -⟩
  · rw [none] at requested
    cases requested
  · have grown := opened.after_eq
    rw [receive_db receives] at grown
    have lengths := congrArg (fun db : Db => db.orders.length) grown
    simp at lengths

end Asks

/-! ## A call that was refused -/

/-- The stages of a placing call that did not open an order. -/
inductive PlaceStage.Refused : PlaceStage → Prop where
  | lookingUp (startedAt : Time) : Refused (.lookingUp startedAt)
  | polling (orderId attempts : Nat) : Refused (.polling orderId attempts true)

section Refused

variable {now : Time} {db : Db} {request : PlaceRequest} {stage : PlaceStage}
variable {progress : Progress}

/-- A refused call goes on to its next transaction, which writes nothing. -/
theorem PlaceStage.Refused.advances (refused : stage.Refused)
    (now : Time) (db : Db) (request : PlaceRequest) :
    ∃ progress, advancePlace now db request stage = some progress ∧
      progress.db = db ∧
      ∀ later, progress.next = some later →
        ∃ next, later = .placing request next ∧ next.Refused := by
  cases refused with
  | lookingUp startedAt =>
      simp only [advancePlace]
      split
      · refine ⟨_, rfl, rfl, ?_⟩
        rintro later ⟨⟩
        exact ⟨_, rfl, .polling _ _⟩
      · refine ⟨_, rfl, rfl, ?_⟩
        rintro later ⟨⟩
  | polling orderId attempts =>
      simp only [advancePlace]
      split
      · refine ⟨_, rfl, rfl, ?_⟩
        rintro later ⟨⟩
      · refine ⟨_, rfl, rfl, ?_⟩
        rintro later ⟨⟩
      · split
        · refine ⟨_, rfl, rfl, ?_⟩
          rintro later ⟨⟩
        · refine ⟨_, rfl, rfl, ?_⟩
          rintro later ⟨⟩
          exact ⟨_, rfl, .polling _ _⟩

theorem PlaceStage.Refused.task (refused : stage.Refused)
    (request : PlaceRequest) :
    (Call.placing request stage).task? = none := by
  cases refused <;> rfl

/-- A placing call without a payment under way only takes its next transaction. -/
theorem advance_of_placing
    (idle : (Call.placing request stage).task? = none)
    {world next : World} {action : Action} {place : Nat}
    (found : world.calls[place]? = some (.placing request stage))
    (own : action.call? = some place)
    (taken : world.step action = some next) :
    ∃ progress, action = .advance place ∧
      advancePlace world.clock world.db request stage = some progress ∧
      next = world.progress place progress := by
  cases action with
  | advance index =>
      cases own
      obtain ⟨call, known, rest⟩ := Option.bind_eq_some_iff.mp taken
      obtain ⟨progress, advances, final⟩ := Option.bind_eq_some_iff.mp rest
      cases Option.some.inj (known.symm.trans found)
      cases final
      exact ⟨progress, rfl, advances, rfl⟩
  | answer index attempt =>
      cases own
      obtain ⟨call, known, rest⟩ := Option.bind_eq_some_iff.mp taken
      obtain ⟨progress, receives, -⟩ := Option.bind_eq_some_iff.mp rest
      cases Option.some.inj (known.symm.trans found)
      cases stage with
      | approving | settling => cases idle
      | opening | lookingUp | polling => cases receives
  | execute index number =>
      cases own
      obtain ⟨call, known, executes⟩ := Option.bind_eq_some_iff.mp taken
      cases Option.some.inj (known.symm.trans found)
      cases executes_of_executeRequest executes with
      | approval => cases idle
      | refund _ inFlight =>
          cases refunds_of_refund inFlight
          cases idle
  | gate index io =>
      cases own
      obtain ⟨call, known, rest⟩ := Option.bind_eq_some_iff.mp taken
      obtain ⟨trip, travels, -⟩ := Option.bind_eq_some_iff.mp rest
      cases Option.some.inj (known.symm.trans found)
      cases travels
  | _ => cases own

end Refused

namespace World

variable {world next : World} {action : Action} {request : PlaceRequest}

/-- The call at the place did not open an order for the request. -/
def Refused (request : PlaceRequest) (followed : World × Nat) : Prop :=
  ∃ stage : PlaceStage, stage.Refused ∧
    followed.1.calls[followed.2]? = some (.placing request stage)

/--
A step of a refused call writes nothing and asks for nothing, and it raises
unless the key has been used.
-/
structure Refuses (world next : World) (request : PlaceRequest) (place : Nat) :
    Prop where
  db : next.db = world.db
  unasked :
    ∃ events, next.log = world.log ++ events ∧
      ∀ orderId amount, .approveRequested orderId amount ∉ events
  raises :
    (∀ order ∈ world.db.orders,
      order.idempotencyKey ≠ request.idempotencyKey) →
    next.calls = world.calls.eraseIdx place ∧
      ∃ message, next.log =
        world.log ++
          [.placeEnded request (.error (rejected .holdExpired message none))]

/-- A followed call is refused for good. -/
theorem Refused.step {followed later : World × Nat}
    (refused : Refused request followed)
    (taken : World.follow followed action = some later) :
    Refused request later := by
  obtain ⟨world, place⟩ := followed
  obtain ⟨stage, refusedStage, found⟩ := refused
  dsimp only at found
  obtain ⟨next, stepped, placed⟩ := Option.bind_eq_some_iff.mp taken
  split at placed
  · rename_i own
    split at placed
    · rename_i ongoing
      cases placed
      obtain ⟨progress, -, advances, rfl⟩ :=
        advance_of_placing (refusedStage.task request) found own stepped
      obtain ⟨other, again, -, goesOn⟩ :=
        refusedStage.advances world.clock world.db request
      cases Option.some.inj (advances.symm.trans again)
      obtain ⟨inside, -⟩ := List.getElem?_eq_some_iff.mp found
      cases following : progress.next with
      | none =>
          have shorter := replaceCall_length_none inside
          rw [← following] at shorter
          have length :
              (replaceCall world.calls place progress.next).length =
                world.calls.length := ongoing
          omega
      | some call =>
          obtain ⟨stage, rfl, stillRefused⟩ := goesOn call following
          refine ⟨stage, stillRefused, ?_⟩
          show (replaceCall world.calls place progress.next)[place]? = _
          rw [following, replaceCall, List.getElem?_set_self inside]
    · cases placed
  · rename_i other
    cases placed
    exact ⟨stage, refusedStage, moved_call stepped other found⟩

/-- What a refused call does, when the answers fit their keys. -/
theorem Refused.refuses {place : Nat}
    (refused : Refused request (world, place))
    (answers : world.Answers HasKey)
    (own : action.call? = some place)
    (taken : world.step action = some next) :
    world.Refuses next request place := by
  obtain ⟨stage, refusedStage, found⟩ := refused
  obtain ⟨progress, -, advances, rfl⟩ :=
    advance_of_placing (refusedStage.task request) found own taken
  obtain ⟨other, again, same, -⟩ :=
    refusedStage.advances world.clock world.db request
  cases Option.some.inj (advances.symm.trans again)
  constructor
  case db => exact same
  case unasked =>
    refine ⟨progress.events, rfl, ?_⟩
    intro orderId amount asked
    have advanced :
        advance world.clock world.db (.placing request stage) = some progress :=
      advances
    obtain ⟨_, _, opening, -⟩ := advance_asks advanced asked
    cases opening
    cases refusedStage
  case raises =>
    intro unused
    cases refusedStage with
    | polling orderId attempts =>
        obtain ⟨order, member, -, hasKey⟩ :=
          answers.bound request _ orderId (List.mem_of_getElem? found) rfl
        exact absurd hasKey (unused order member)
    | lookingUp startedAt =>
        have absent : existingOrderId request.idempotencyKey world.db = none := by
          rw [existingOrderId, Option.map_eq_none_iff]
          exact lookup_eq_none.mpr unused
        simp only [advancePlace, absent] at advances
        cases advances
        exact ⟨rfl, _, rfl⟩

/-- The step asks for an approval of an order that it opens. -/
theorem step_asks (sound : world.db.Sound)
    (taken : world.step action = some next) :
    ∃ events, next.log = world.log ++ events ∧
      ∀ orderId amount, .approveRequested orderId amount ∈ events →
        ∃ index request order, action = .advance index ∧
          world.calls[index]? = some (.placing request .opening) ∧
          next.calls[index]? =
            some (.placing request (.approving orderId amount)) ∧
          order.id = orderId ∧ order.totalAmount = amount ∧
          Payable request world.clock world.db next.db order := by
  cases step_moves taken with
  | stays calls log aside =>
      exact
        ⟨_, log, fun _ _ asked => absurd asked (not_asked_of_aside aside)⟩
  | starts starts calls log aside =>
      exact
        ⟨_, log, fun _ _ asked => absurd asked (not_asked_of_aside aside)⟩
  | answers found receives =>
      exact ⟨_, rfl, fun _ _ asked => absurd asked (receive_asks receives)⟩
  | executes found refunds calls log =>
      exact ⟨[], by rw [log, List.append_nil], by simp⟩
  | travels found travels calls log =>
      obtain ⟨-, aside⟩ := gateTrip_aside travels
      exact
        ⟨_, log, fun _ _ asked => absurd asked (not_asked_of_aside aside)⟩
  | advances found advances =>
      rename_i index call progress
      refine ⟨progress.events, rfl, ?_⟩
      intro orderId amount asked
      obtain ⟨request, order, rfl, opened, goesOn, sameId, sameTotal⟩ :=
        advance_asks advances asked
      obtain ⟨inside, -⟩ := List.getElem?_eq_some_iff.mp found
      refine
        ⟨index, request, order, rfl, found, ?_, sameId, sameTotal,
          opened.payable sound⟩
      show (replaceCall world.calls index progress.next)[index]? = _
      rw [goesOn, replaceCall, List.getElem?_set_self inside]

/-- A step of the call at the place, when its next transaction is known. -/
theorem step_advance {call : Call} {place : Nat} {progress : Progress}
    (found : world.calls[place]? = some call)
    (advances : advance world.clock world.db call = some progress) :
    world.step (.advance place) = some (world.progress place progress) := by
  simp only [World.step, found, advances, Option.bind_eq_bind,
    Option.bind_some]
  rfl

theorem Refused.enabled {place : Nat}
    (refused : Refused request (world, place)) :
    ∃ next, world.step (.advance place) = some next := by
  obtain ⟨stage, refusedStage, found⟩ := refused
  obtain ⟨progress, advances, -⟩ :=
    refusedStage.advances world.clock world.db request
  exact ⟨_, step_advance found advances⟩

/-- The opening transaction of a call that lacks a hold leaves everything as it is. -/
theorem opening_of_unheld (sound : world.db.Sound) {place seatId : Nat}
    (found : world.calls[place]? = some (.placing request .opening))
    (member : seatId ∈ request.seatIds)
    (unheld : ¬ PlaceRequest.Holds request world.clock world.db seatId) :
    ∃ started : World, World.follow (world, place) (.advance place) =
        some (started, place) ∧
      started.db = world.db ∧ started.log = world.log ∧
      Refused request (started, place) ∧
      ∀ action next, action.call? = some place →
        world.step action = some next → next = started := by
  have opens := openPending_of_unheld sound member unheld
  let refusal : Progress :=
    { db := world.db
      next := some (.placing request (.lookingUp world.clock))
      events := [] }
  have advances :
      advancePlace world.clock world.db request .opening = some refusal := by
    simp only [advancePlace, opens, refusal]
  have stepped := step_advance found advances
  obtain ⟨inside, -⟩ := List.getElem?_eq_some_iff.mp found
  refine
    ⟨world.progress place refusal, ?_, rfl, List.append_nil _,
      ⟨_, .lookingUp world.clock, ?_⟩, ?_⟩
  · have length :=
      replaceCall_length_some world.calls place
        (.placing request (.lookingUp world.clock))
    simp only [World.follow, stepped, Option.bind_some, Action.call?, if_true]
    exact if_pos length
  · exact List.getElem?_set_self inside
  · intro action next own taken
    obtain ⟨progress, rfl, again, rfl⟩ := advance_of_placing rfl found own taken
    cases Option.some.inj (advances.symm.trans again)
    rfl

/-! ## Every run -/

/--
In every run an approval is asked for in the step that opens the order, from a
state in which every seat of it was held for long enough.  A call that lacks a
hold writes nothing and asks for nothing, and it raises as long as its key is
unused.
-/
theorem asks_only_for_payable
    {inventory : Inventory} {startsAt : Nat → Policy.Datetime} {clock : Time}
    (reachable :
      TransitionSystem.Reachable World.step
        (World.initial inventory startsAt clock) world) :
    (∀ action next, world.step action = some next →
      ∃ events, next.log = world.log ++ events ∧
        ∀ orderId amount, .approveRequested orderId amount ∈ events →
          ∃ index request order, action = .advance index ∧
            world.calls[index]? = some (.placing request .opening) ∧
            next.calls[index]? =
              some (.placing request (.approving orderId amount)) ∧
            order.id = orderId ∧ order.totalAmount = amount ∧
            Payable request world.clock world.db next.db order) ∧
    ∀ index request,
      world.calls[index]? = some (.placing request .opening) →
        (∃ seatId ∈ request.seatIds,
          ¬ PlaceRequest.Holds request world.clock world.db seatId) →
        ∃ started : World, started.db = world.db ∧ started.log = world.log ∧
          World.follow (world, index) (.advance index) =
            some (started, index) ∧
          (∀ action next, action.call? = some index →
            world.step action = some next → next = started) ∧
          ∀ later place,
            TransitionSystem.Reachable World.follow (started, index)
                (later, place) →
              (∃ next, later.step (.advance place) = some next) ∧
              ∀ action next, action.call? = some place →
                later.step action = some next →
                  later.Refuses next request place := by
  have sound := (consistent_of_reachable reachable).sound
  refine ⟨fun action next taken => step_asks sound taken, ?_⟩
  intro index request found lacking
  obtain ⟨seatId, member, unheld⟩ := lacking
  obtain ⟨started, followed, sameDb, sameLog, refused, only⟩ :=
    opening_of_unheld sound found member unheld
  refine ⟨started, sameDb, sameLog, followed, only, ?_⟩
  intro later place run
  have stillRefused : Refused request (later, place) :=
    run.invariant refused fun _ _ _ refused _ taken => refused.step taken
  have whole : TransitionSystem.Reachable World.follow (world, index)
      (later, place) :=
    .head trivial followed run
  have reached := reachable.trans (reachable_of_follow whole)
  have keyed : later.Keyed :=
    reached.invariant (.initial inventory startsAt clock)
      fun _ _ _ keyed _ taken => keyed.step taken
  refine ⟨stillRefused.enabled, ?_⟩
  intro action next own taken
  exact stillRefused.refuses keyed.answers own taken

/-! ### A user without the hold -/

/-- Two users ask for the seat that one of them holds. -/
def foreignHold : List Action :=
  [.startAcquire { scheduleId := 1, userId := 7, seatIds := [1] },
   .gate 0 .answered,
   .advance 0,
   placeOneSeat 7 "own",
   placeOneSeat 8 "foreign"]

/-- The second call is about to open an order of a seat that another user holds. -/
def lacksHold (world : World) : Bool :=
  match (world.calls[1]? : Option Call) with
  | some (.placing request .opening) =>
      request.userId == 8 && request.seatIds == [1] &&
        world.db.scheduleSeats.all (·.heldBy == some 7)
  | _ => false

/-- The next transaction of the first call asks for an approval. -/
def asksNext (world : World) : Bool :=
  (world.step (.advance 0)).any fun next =>
    (next.log.drop world.log.length).any fun event =>
      event.requested? == some 1

/-- The holder's order is asked for, and the other call raises. -/
theorem asks_only_for_payable_foreign :
    ∃ world : World,
      (∃ next request order, world.step (.advance 0) = some next ∧
        Payable request world.clock world.db next.db order) ∧
      ∃ (request : PlaceRequest) (started : World), request.userId = 8 ∧
        started.db = world.db ∧
          ∀ next, started.step (.advance 1) = some next →
            started.Refuses next request 1 := by
  obtain ⟨world, run, seen⟩ :=
    TransitionSystem.RunWhere.exists_of_checkedRun World.step
      (fun _ _ => True) World.oneSeat foreignHold
      (fun world : World => world.asksNext && world.lacksHold) (by decide)
  rw [Bool.and_eq_true] at seen
  obtain ⟨asks, refuses⟩ := asks_only_for_payable run
  refine ⟨world, ?_, ?_⟩
  · obtain ⟨next, taken, asked⟩ := (Option.any_eq_true _ _).mp seen.1
    obtain ⟨events, log, payable⟩ := asks (.advance 0) next taken
    rw [log, List.drop_left] at asked
    obtain ⟨event, member, requested⟩ := List.any_eq_true.mp asked
    cases event with
    | approveRequested orderId amount =>
        obtain ⟨_, request, order, -, -, -, -, -, holds⟩ :=
          payable orderId amount member
        exact ⟨next, request, order, taken, holds⟩
    | _ => cases requested
  · have lacks := seen.2
    rw [lacksHold] at lacks
    split at lacks
    · rename_i request found
      simp only [Bool.and_eq_true, beq_iff_eq, List.all_eq_true] at lacks
      obtain ⟨⟨user, seats⟩, foreign⟩ := lacks
      have lacking :
          ∃ seatId ∈ request.seatIds,
            ¬ PlaceRequest.Holds request world.clock world.db seatId := by
        refine ⟨1, by simp [seats], ?_⟩
        rintro ⟨row, member, -, -, -, heldBy, -⟩
        rw [foreign row member, user] at heldBy
        cases heldBy
      obtain ⟨started, sameDb, -, -, -, later⟩ :=
        refuses 1 request found lacking
      obtain ⟨-, refused⟩ := later started 1 .refl
      exact
        ⟨request, started, user, sameDb, fun next => refused _ next rfl⟩
    · cases lacks

end World

end Curtain
