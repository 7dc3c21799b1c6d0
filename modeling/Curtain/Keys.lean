import Curtain.Records

/-!
# Idempotency keys

A placing call is bound to an order when it opens the order, or when it finds
its key used.  The key of the order, its owner and its stored answer never
change afterwards, so that all the answers to one key agree.
-/

namespace Curtain

open Queries Table HoldService OrderService

/-! ## The order of a placing call -/

/-- The order that a placing call is bound to. -/
def PlaceStage.order? : PlaceStage → Option Nat
  | .opening => none
  | .lookingUp _ => none
  | .approving orderId _ => some orderId
  | .settling stage => some stage.orderId
  | .polling orderId _ _ => some orderId

/-- The order for which the gateway is asked to approve. -/
def Event.requested? : Event → Option Nat
  | .approveRequested orderId _ => some orderId
  | _ => none

/-- How a call comes to be bound to an order by one transaction. -/
inductive Call.Binds (now : Time) (db after : Db) (request : PlaceRequest) :
    Call → Nat → Prop where
  | goesOn {stage : PlaceStage} {orderId : Nat}
      (bound : stage.order? = some orderId) :
      Binds now db after request (.placing request stage) orderId
  | opened {order : Order}
      (opened : Opened request now db order after) :
      Binds now db after request (.placing request .opening) order.id
  | found {startedAt : Time} {orderId : Nat}
      (found : existingOrderId request.idempotencyKey db = some orderId) :
      Binds now db after request (.placing request (.lookingUp startedAt)) orderId

/-- What a transaction of a call means for the placing calls and their answers. -/
structure Progress.Places (now : Time) (db : Db) (call : Call)
    (progress : Progress) : Prop where
  binds :
    ∀ request stage orderId, progress.next = some (.placing request stage) →
      stage.order? = some orderId →
        call.Binds now db progress.db request orderId
  answers :
    ∀ request placed, .placeEnded request (.ok placed) ∈ progress.events →
      progress.db = db ∧ ∃ attempts replayed,
        call = .placing request (.polling placed.orderId attempts replayed) ∧
          pollPlaced placed.orderId replayed db = .ok (some placed)
  requests :
    progress.events.filterMap Event.requested? = [] ∨
      ∃ request order, Opened request now db order progress.db ∧
        progress.events.filterMap Event.requested? = [order.id]

namespace Progress

variable {now : Time} {db : Db} {call : Call} {progress : Progress}

/-- A transaction without events of the placing calls. -/
theorem Places.of_aside
    (binds :
      ∀ request stage orderId, progress.next = some (.placing request stage) →
        stage.order? = some orderId →
          call.Binds now db progress.db request orderId)
    (aside : ∀ event ∈ progress.events, event.aside = true) :
    progress.Places now db call where
  binds := binds
  answers := by
    intro request placed member
    cases aside _ member
  requests := by
    left
    rw [List.filterMap_eq_nil_iff]
    intro event member
    have beside := aside event member
    cases event with
    | approveRequested => cases beside
    | _ => rfl

/-- A transaction of another call. -/
theorem Places.of_other
    (other : ∀ request stage, progress.next ≠ some (.placing request stage))
    (aside : ∀ event ∈ progress.events, event.aside = true) :
    progress.Places now db call :=
  .of_aside (fun request stage _ equal => absurd equal (other request stage)) aside

end Progress

/-! ## What one step does -/

section Steps

variable {now : Time} {db : Db} {request : PlaceRequest}

/-- A settling step stays with its order, and only ever asks for a refund. -/
theorem settle_order
    {stage : Settling} {after : Db} {events : List Event} {settled : Settled}
    (settles : settle now db stage = some (after, events, settled)) :
    (∀ next, settled = .settling next → next.orderId = stage.orderId) ∧
      (∀ orderId byThisCall, settled = .confirmed orderId byThisCall →
        orderId = stage.orderId) ∧
      ∀ event ∈ events, event.aside = true := by
  cases stage with
  | refunding => cases settles
  | confirming orderId pgTid amount =>
      simp only [settle] at settles
      split at settles
      · cases settles
        simp [Settling.orderId]
      · split at settles
        · cases settles
          simp [Settling.orderId]
        · cases settles
          simp
  | closing orderId status =>
      simp only [settle] at settles
      split at settles <;> cases settles <;> simp
  | compensating orderId pgTid amount why =>
      simp only [settle] at settles
      split at settles
      · rename_i order loaded
        obtain ⟨-, rfl⟩ := loadOrder_ok loaded
        cases settles
        simp [Settling.orderId, Event.aside]
      · cases settles
        simp
  | recording order total why attempt =>
      simp only [settle] at settles
      split at settles <;> cases settles <;> simp

theorem pollPlaced_ok
    {orderId : Nat} {replayed : Bool} {placed : PlacedOrder}
    (polled : pollPlaced orderId replayed db = .ok (some placed)) :
    placed.orderId = orderId ∧
      ∃ order ∈ db.orders, order.id = orderId ∧
        order.responseSnapshot = some placed.snapshot := by
  obtain ⟨order, loaded, rest⟩ := bind_eq_ok.mp polled
  obtain ⟨member, rfl⟩ := loadOrder_ok loaded
  split at rest
  · rename_i snapshot stored
    cases rest
    exact ⟨rfl, order, member, rfl, stored⟩
  · split at rest <;> cases rest

theorem advancePlace_places
    {stage : PlaceStage} {progress : Progress}
    (advances : advancePlace now db request stage = some progress) :
    progress.Places now db (.placing request stage) := by
  cases stage with
  | approving orderId amount => cases advances
  | opening =>
      simp only [advancePlace] at advances
      split at advances
      · cases advances
        exact .of_other (by simp [placeEnds]) (by simp [placeEnds, Event.aside])
      · rename_i order after opens
        cases advances
        have opened := openPending_some opens
        exact
          { binds := by
              rintro _ _ _ ⟨⟩ ⟨⟩
              exact .opened opened
            answers := by simp
            requests := Or.inr ⟨request, order, opened, rfl⟩ }
      · cases advances
        refine .of_aside ?_ (by simp)
        rintro _ _ _ ⟨⟩ ⟨⟩
  | lookingUp startedAt =>
      simp only [advancePlace] at advances
      split at advances
      · rename_i orderId found
        cases advances
        refine .of_aside ?_ (by simp)
        rintro _ _ _ ⟨⟩ ⟨⟩
        exact .found found
      · cases advances
        exact .of_other (by simp [placeEnds]) (by simp [placeEnds, Event.aside])
  | settling stage =>
      simp only [advancePlace, Option.map_eq_some_iff] at advances
      obtain ⟨⟨after, events, settled⟩, settles, rfl⟩ := advances
      obtain ⟨goesOn, confirmed, aside⟩ := settle_order settles
      cases settled with
      | settling next =>
          refine .of_aside ?_ aside
          rintro _ _ _ ⟨⟩ ⟨⟩
          exact .goesOn (congrArg some (goesOn next rfl).symm)
      | confirmed orderId byThisCall =>
          refine .of_aside ?_ aside
          rintro _ _ _ ⟨⟩ ⟨⟩
          exact .goesOn (congrArg some (confirmed orderId byThisCall rfl).symm)
      | closed | compensated | raised =>
          exact .of_other (by simp [placeEnds]) (by simp [placeEnds, Event.aside])
  | polling orderId attempts replayed =>
      simp only [advancePlace] at advances
      split at advances
      · cases advances
        exact .of_other (by simp [placeEnds]) (by simp [placeEnds, Event.aside])
      · rename_i placed polled
        cases advances
        obtain ⟨rfl, -⟩ := pollPlaced_ok polled
        exact
          { binds := by simp [placeEnds]
            answers := by
              intro asked answer member
              simp only [placeEnds, List.mem_singleton, Event.placeEnded.injEq,
                Except.ok.injEq] at member
              obtain ⟨rfl, rfl⟩ := member
              exact ⟨rfl, attempts, replayed, rfl, polled⟩
            requests := Or.inl rfl }
      · split at advances
        · cases advances
          exact .of_other (by simp [placeEnds]) (by simp [placeEnds, Event.aside])
        · cases advances
          refine .of_aside ?_ (by simp)
          rintro _ _ _ ⟨⟩ ⟨⟩
          exact .goesOn rfl

theorem nextCandidate_places
    (after : Db) (call : Call) {events : List Event} (confirmed rest : List Nat)
    (aside : ∀ event ∈ events, event.aside = true) :
    (nextCandidate after events confirmed rest).Places now db call := by
  cases rest with
  | nil =>
      refine .of_other (by simp [nextCandidate]) ?_
      intro event member
      rcases List.mem_append.mp member with old | new
      · exact aside event old
      · rw [List.mem_singleton.mp new]
        rfl
  | cons orderId rest => exact .of_other (by simp [nextCandidate]) aside

theorem advance_places
    {call : Call} {progress : Progress}
    (advances : advance now db call = some progress) :
    progress.Places now db call := by
  cases call with
  | releasing => cases advances
  | placing request stage => exact advancePlace_places advances
  | acquiring request stage =>
      cases stage with
      | gating | ungating => cases advances
      | holding gated =>
          simp only [advance, advanceAcquire] at advances
          split at advances
          · cases advances
            exact .of_other (by simp) (by simp [Event.aside])
          · split at advances <;> cases advances <;>
              exact .of_other (by simp) (by simp [Event.aside])
  | canceling cancellation stage =>
      cases stage with
      | refunding => cases advances
      | failing | closing =>
          simp only [advance, advanceCancel] at advances
          split at advances <;> cases advances <;>
            exact .of_other (by simp [cancelEnds]) (by simp [cancelEnds, Event.aside])
  | reconciling rest confirmed stage =>
      cases stage with
      | inquiring => cases advances
      | settling stage =>
          simp only [advance, advanceReconcile, Option.map_eq_some_iff]
            at advances
          obtain ⟨⟨after, events, settled⟩, settles, rfl⟩ := advances
          obtain ⟨-, -, aside⟩ := settle_order settles
          cases settled with
          | settling next => exact .of_other (by simp) aside
          | confirmed | closed | compensated =>
              exact nextCandidate_places _ _ _ _ aside
          | raised error =>
              refine .of_other (by simp) ?_
              intro event member
              rcases List.mem_append.mp member with old | new
              · exact aside event old
              · rw [List.mem_singleton.mp new]
                rfl

theorem receive_places
    {call : Call} {attempt : PayAttempt} {progress : Progress}
    (receives : receive db attempt call = some progress) :
    progress.Places now db call := by
  cases receives_of_receive receives with
  | placeDeclined | placeApproved | placeRefunded =>
      refine .of_aside ?_ (by simp [Event.aside])
      rintro _ _ _ ⟨⟩ ⟨⟩
      exact .goesOn rfl
  | inquiryUnknown =>
      exact nextCandidate_places _ _ _ _ (by simp [Event.aside])
  | placeUnanswered | inquiryBroken | inquiryApproved | inquiryDeclined
  | reconcileRefunded | cancelRefunded =>
      exact .of_other (by simp) (by simp [Event.aside])

/-- What a step means for the placing calls, their answers and the approvals. -/
structure World.Places (world : World) (action : Action) (next : World) :
    Prop where
  binds :
    ∀ request stage orderId, .placing request stage ∈ next.calls →
      stage.order? = some orderId →
        (∃ earlier, .placing request earlier ∈ world.calls ∧
          earlier.order? = some orderId) ∨
        (∃ order, Opened request world.clock world.db order next.db ∧
          order.id = orderId) ∨
        ∃ index startedAt, action = .advance index ∧
          world.calls[index]? = some (.placing request (.lookingUp startedAt)) ∧
          existingOrderId request.idempotencyKey world.db = some orderId
  answers :
    ∀ request placed, .placeEnded request (.ok placed) ∈ next.log →
      .placeEnded request (.ok placed) ∈ world.log ∨
        (next.db = world.db ∧ ∃ attempts replayed,
          .placing request (.polling placed.orderId attempts replayed) ∈
              world.calls ∧
            pollPlaced placed.orderId replayed world.db = .ok (some placed))
  requests :
    next.log.filterMap Event.requested? = world.log.filterMap Event.requested? ∨
      ∃ request order, Opened request world.clock world.db order next.db ∧
        next.log.filterMap Event.requested? =
          world.log.filterMap Event.requested? ++ [order.id]

/-- A step that adds no placing call that is bound, and no event of one. -/
theorem World.Places.of_aside
    {world next : World} {action : Action} {events : List Event}
    (calls :
      ∀ request stage orderId, .placing request stage ∈ next.calls →
        stage.order? = some orderId →
          ∃ earlier, .placing request earlier ∈ world.calls ∧
            earlier.order? = some orderId)
    (log : next.log = world.log ++ events)
    (aside : ∀ event ∈ events, event.aside = true) :
    world.Places action next where
  binds request stage orderId member bound :=
    Or.inl (calls request stage orderId member bound)
  answers := by
    intro request placed member
    rw [log] at member
    rcases List.mem_append.mp member with old | new
    · exact Or.inl old
    · cases aside _ new
  requests := by
    left
    rw [log, List.filterMap_append, List.append_right_eq_self,
      List.filterMap_eq_nil_iff]
    intro event member
    have beside := aside event member
    cases event with
    | approveRequested => cases beside
    | _ => rfl

/-- A transaction or an answer of a call in progress. -/
theorem World.Places.of_progress
    {world : World} {action : Action} {index : Nat} {call : Call}
    {progress : Progress}
    (found : world.calls[index]? = some call)
    (looks :
      ∀ request startedAt, call = .placing request (.lookingUp startedAt) →
        action = .advance index)
    (places : progress.Places world.clock world.db call) :
    world.Places action (world.progress index progress) where
  binds := by
    intro request stage orderId member bound
    rcases mem_replaceCall member with old | new
    · exact Or.inl ⟨stage, old, bound⟩
    · cases places.binds request stage orderId new bound with
      | goesOn earlier => exact Or.inl ⟨_, List.mem_of_getElem? found, earlier⟩
      | opened opened => exact Or.inr (Or.inl ⟨_, opened, rfl⟩)
      | found existing =>
          exact Or.inr (Or.inr ⟨index, _, looks _ _ rfl, found, existing⟩)
  answers := by
    intro request placed member
    rcases List.mem_append.mp member with old | new
    · exact Or.inl old
    · obtain ⟨same, attempts, replayed, rfl, polled⟩ :=
        places.answers request placed new
      exact
        Or.inr
          ⟨same, attempts, replayed, List.mem_of_getElem? found, polled⟩
  requests := by
    have appended :
        (world.progress index progress).log.filterMap Event.requested? =
          world.log.filterMap Event.requested? ++
            progress.events.filterMap Event.requested? :=
      List.filterMap_append
    rw [appended]
    rcases places.requests with nothing | ⟨request, order, opened, single⟩
    · left
      rw [nothing, List.append_nil]
    · right
      exact ⟨request, order, opened, by rw [single]⟩

/-- The execution of a refund leaves the saga with its order. -/
theorem executed_order
    {call : Call} {pgTid number : String} {amount : Int}
    {executed : String → Call} {stage : PlaceStage} {orderId : Nat}
    (inFlight : call.refund? = some (pgTid, amount, executed))
    (equal : executed number = .placing request stage)
    (bound : stage.order? = some orderId) :
    ∃ earlier, call = .placing request earlier ∧
      earlier.order? = some orderId := by
  cases refunds_of_refund inFlight with
  | placing =>
      cases equal
      exact ⟨_, rfl, bound⟩
  | reconciling | canceling => cases equal

/-- The gate knows nothing of the placing calls. -/
theorem gateTrip_aside
    {gate : KeyStore.Store Gate.Key Gate.Token} {io : GateIo} {call : Call}
    {trip : GateProgress}
    (made : gateTrip now gate io call = some trip) :
    (∀ request stage, trip.next ≠ some (.placing request stage)) ∧
      ∀ event ∈ trip.events, event.aside = true := by
  cases travels_of_gateTrip made <;> simp [Event.aside]

/-- What every step means for the placing calls. -/
theorem step_places
    {world next : World} {action : Action}
    (taken : world.step action = some next) :
    world.Places action next := by
  cases step_moves taken with
  | stays calls log aside =>
      refine .of_aside ?_ log aside
      intro request stage orderId member bound
      rw [calls] at member
      exact ⟨stage, member, bound⟩
  | starts starts calls log aside =>
      refine .of_aside ?_ log aside
      intro request stage orderId member bound
      rw [calls] at member
      rcases List.mem_append.mp member with old | new
      · exact ⟨stage, old, bound⟩
      · rw [← List.mem_singleton.mp new] at starts
        cases action with
        | startPlace asked =>
            cases starts
            cases bound
        | startAcquire => cases starts
        | startRelease => obtain ⟨_, ⟨⟩⟩ := starts
        | startReconcile => obtain ⟨_, _, ⟨⟩⟩ := starts
        | startCancel => obtain ⟨_, ⟨⟩⟩ := starts
        | _ => cases starts
  | advances found advances =>
      exact .of_progress found (fun _ _ _ => rfl) (advance_places advances)
  | answers found receives =>
      refine .of_progress found ?_ (receive_places receives)
      rintro _ _ rfl
      cases receives
  | executes found refunds calls log =>
      refine .of_aside ?_ (log.trans (List.append_nil _).symm) (by simp)
      intro request stage orderId member bound
      rw [calls] at member
      rcases mem_replaceCall member with old | new
      · exact ⟨stage, old, bound⟩
      · obtain ⟨earlier, rfl, earlierBound⟩ :=
          executed_order refunds (Option.some_injective _ new) bound
        exact ⟨earlier, List.mem_of_getElem? found, earlierBound⟩
  | travels found travels calls log =>
      obtain ⟨other, aside⟩ := gateTrip_aside travels
      refine .of_aside ?_ log aside
      intro request stage orderId member bound
      rw [calls] at member
      rcases mem_replaceCall member with old | new
      · exact ⟨stage, old, bound⟩
      · exact absurd new (other request stage)

end Steps

/-! ## What an order keeps -/

/-- Every order stays, with its stored answer. -/
def Db.Keeps (db after : Db) : Prop :=
  ∀ old ∈ db.orders, ∃ order ∈ after.orders, order.head = old.head ∧
    ∀ snapshot, old.responseSnapshot = some snapshot →
      order.responseSnapshot = some snapshot

theorem Db.Keeps.of_subset {db after : Db}
    (included : db.orders ⊆ after.orders) :
    db.Keeps after :=
  fun old member => ⟨old, included member, rfl, fun _ stored => stored⟩

theorem Db.Keeps.of_markOrder
    {db middle after : Db} {orderId : Nat} {status expect : OrderStatus}
    (same : middle.orders = db.orders)
    (equal : after.orders = (markOrder orderId status expect middle).2.orders) :
    db.Keeps after := by
  intro old member
  rw [← same] at member
  obtain ⟨order, found, either⟩ :
      ∃ order ∈ after.orders,
        order = { old with status } ∨ order = old := by
    rw [equal]
    by_cases touched :
        (old.id == orderId && old.status == expect) = true
    · exact
        ⟨_, mem_updateWhere.mpr ⟨old, member, Or.inl ⟨touched, rfl⟩⟩, Or.inl rfl⟩
    · exact
        ⟨_, mem_updateWhere.mpr ⟨old, member, Or.inr ⟨by simpa using touched, rfl⟩⟩,
          Or.inr rfl⟩
  refine ⟨order, found, ?_⟩
  rcases either with rfl | rfl
  · exact ⟨rfl, fun _ stored => stored⟩
  · exact ⟨rfl, fun _ stored => stored⟩

theorem Turn.keeps
    {world : World} {action : Action} {before after : Option Task}
    {books : Books}
    (consistent : world.Consistent)
    (turn : Turn world action before after books) :
    world.db.Keeps books.db := by
  have sound := consistent.sound
  cases turn with
  | acquired ok =>
      obtain ⟨-, rfl⟩ := acquireSeats_ok sound.rowUnique ok
      exact .of_subset (List.Subset.refl _)
  | opened opened =>
      apply Db.Keeps.of_subset
      rw [opened.after_eq]
      exact List.subset_append_left _ _
  | confirmed confirms source confirmed quiet =>
      rename_i paid pgTid db
      intro old member
      by_cases own : old.id = paid.id
      · have equal := sound.order_eq member confirmed.member own
        refine ⟨_, (confirmed.mem_orders sound).mpr (Or.inl rfl), ?_, ?_⟩
        · rw [equal]
          rfl
        · intro snapshot stored
          have unanswered := confirmed.unanswered sound
          rw [Order.confirmed, ← equal, stored] at unanswered
          cases unanswered
      · exact
          ⟨old, (confirmed.mem_orders sound).mpr (Or.inr ⟨member, own⟩), rfl,
            fun _ stored => stored⟩
  | recorded recorded =>
      obtain ⟨middle, inserted, equal⟩ := recordRefund_ok recorded
      have same := insertPayment_orders inserted
      split at equal
      · exact .of_markOrder same (by rw [equal]; rfl)
      · apply Db.Keeps.of_subset
        rw [equal, ← same]
        exact List.Subset.refl _
  | closed closed =>
      rcases closeUnpaid_ok closed with rfl | ⟨owner, -, -, -, rfl⟩
      · exact .of_subset (List.Subset.refl _)
      · exact .of_markOrder rfl rfl
  | cancelFailed recorded =>
      apply Db.Keeps.of_subset
      dsimp only
      rw [insertPayment_orders recorded]
      exact List.Subset.refl _
  | cancelClosed closed =>
      rcases closeCanceled_ok closed with ⟨rfl, -⟩ | ⟨-, refunded, inserted, rfl⟩
      · exact .of_subset (List.Subset.refl _)
      · have same := insertPayment_orders inserted
        exact .of_markOrder rfl same
  | _ => exact .of_subset (List.Subset.refl _)

/-! ## What the answers fit -/

/-- The request asks for what the order is about. -/
structure Fitting (fits : PlaceRequest → Order → Prop) : Prop where
  head :
    ∀ request left right, Order.head left = Order.head right →
      fits request left → fits request right
  opened :
    ∀ request now db order after, Opened request now db order after →
      fits request order

/--
Every placing call that is bound to an order fits the order, and so does every
call that was answered, with the answer the order stores.
-/
structure World.Answers (fits : PlaceRequest → Order → Prop) (world : World) :
    Prop where
  consistent : world.Consistent
  bound :
    ∀ request stage orderId, .placing request stage ∈ world.calls →
      stage.order? = some orderId →
        ∃ order ∈ world.db.orders, order.id = orderId ∧ fits request order
  answered :
    ∀ request placed, .placeEnded request (.ok placed) ∈ world.log →
      ∃ order ∈ world.db.orders, order.id = placed.orderId ∧
        fits request order ∧ order.responseSnapshot = some placed.snapshot

/-- A placing call that finds its key used finds an order that fits. -/
def World.FindsFitting (fits : PlaceRequest → Order → Prop) (world : World)
    (action : Action) : Prop :=
  ∀ index request startedAt, action = .advance index →
    world.calls[index]? = some (.placing request (.lookingUp startedAt)) →
      ∀ order, orderByIdempotencyKey request.idempotencyKey world.db = some order →
        fits request order

namespace World

variable {fits : PlaceRequest → Order → Prop}
variable {world next : World} {action : Action}

theorem Answers.initial
    (inventory : Inventory) (startsAt : Nat → Policy.Datetime) (clock : Time) :
    (World.initial inventory startsAt clock).Answers fits where
  consistent := initial_consistent inventory startsAt clock
  bound := by simp [World.initial]
  answered := by simp [World.initial]

theorem Answers.step (answers : world.Answers fits)
    (fitting : Fitting fits)
    (finds : world.FindsFitting fits action)
    (taken : world.step action = some next) :
    next.Answers fits := by
  have consistent := answers.consistent
  obtain ⟨after, exchange, turn⟩ := step_turn taken
  have keeps : world.db.Keeps next.db := turn.keeps consistent
  have places := step_places taken
  constructor
  case consistent => exact consistent.step taken
  case bound =>
    intro request stage orderId member bound
    rcases places.binds request stage orderId member bound with
      ⟨earlier, earlierMember, earlierBound⟩ | ⟨order, opened, rfl⟩ |
        ⟨index, startedAt, asked, found, existing⟩
    · obtain ⟨old, oldMember, rfl, oldFits⟩ :=
        answers.bound request earlier orderId earlierMember earlierBound
      obtain ⟨order, orderMember, head, -⟩ := keeps old oldMember
      exact
        ⟨order, orderMember, Order.id_of_head head,
          fitting.head request old order head.symm oldFits⟩
    · exact
        ⟨order, opened.mem_orders, rfl, fitting.opened request _ _ order _ opened⟩
    · obtain ⟨old, looked, rfl⟩ := Option.map_eq_some_iff.mp existing
      have oldFits := finds index request startedAt asked found old looked
      obtain ⟨oldMember, -⟩ := (lookup_eq_some consistent.sound.keyUnique).mp looked
      obtain ⟨order, orderMember, head, -⟩ := keeps old oldMember
      exact
        ⟨order, orderMember, Order.id_of_head head,
          fitting.head request old order head.symm oldFits⟩
  case answered =>
    intro request placed member
    rcases places.answers request placed member with
      old | ⟨same, attempts, replayed, polling, polled⟩
    · obtain ⟨old, oldMember, oldId, oldFits, stored⟩ :=
        answers.answered request placed old
      obtain ⟨order, orderMember, head, kept⟩ := keeps old oldMember
      exact
        ⟨order, orderMember, (Order.id_of_head head).trans oldId,
          fitting.head request old order head.symm oldFits, kept _ stored⟩
    · obtain ⟨order, orderMember, orderId, orderFits⟩ :=
        answers.bound request _ placed.orderId polling rfl
      obtain ⟨-, row, rowMember, rowId, stored⟩ := pollPlaced_ok polled
      have equal : row = order :=
        consistent.sound.order_eq rowMember orderMember (rowId.trans orderId.symm)
      rw [same]
      exact ⟨order, orderMember, orderId, orderFits, equal ▸ stored⟩

/-! ## One order for each key -/

/-- The order was opened with the request's key. -/
def HasKey (request : PlaceRequest) (order : Order) : Prop :=
  order.idempotencyKey = request.idempotencyKey

theorem fitting_hasKey : Fitting HasKey where
  head := by
    intro request left right equal own
    exact (Order.key_of_head equal).symm.trans own
  opened := by
    intro request now db order after opened
    rw [HasKey, opened.order_eq]

theorem findsFitting_hasKey (consistent : world.Consistent) (action : Action) :
    world.FindsFitting HasKey action := by
  intro index request startedAt _ _ order looked
  exact ((lookup_eq_some consistent.sound.keyUnique).mp looked).2

/-- The orders the gateway was asked to approve. -/
def asked (world : World) : List Nat :=
  world.log.filterMap Event.requested?

/-- The gateway is asked once for an order, which exists. -/
structure AsksOnce (world : World) : Prop where
  once : world.asked.Nodup
  ordered : ∀ orderId ∈ world.asked, ∃ order ∈ world.db.orders, order.id = orderId

theorem AsksOnce.step (asks : world.AsksOnce)
    (consistent : world.Consistent)
    (taken : world.step action = some next) :
    next.AsksOnce := by
  obtain ⟨after, exchange, turn⟩ := step_turn taken
  have keeps : world.db.Keeps next.db := turn.keeps consistent
  have ordered :
      ∀ orderId ∈ world.asked, ∃ order ∈ next.db.orders, order.id = orderId := by
    intro orderId member
    obtain ⟨old, oldMember, rfl⟩ := asks.ordered orderId member
    obtain ⟨order, orderMember, head, -⟩ := keeps old oldMember
    exact ⟨order, orderMember, Order.id_of_head head⟩
  rcases (step_places taken).requests with same | ⟨request, order, opened, added⟩
  · constructor
    · rw [asked, same]
      exact asks.once
    · rw [asked, same]
      exact ordered
  · have fresh : order.id ∉ world.asked := by
      intro member
      obtain ⟨old, oldMember, equal⟩ := asks.ordered order.id member
      exact (opened.older consistent.sound.orderIdBound oldMember).ne equal
    constructor
    · rw [asked, added]
      exact List.nodup_append_comm.mp (List.nodup_cons.mpr ⟨fresh, asks.once⟩)
    · intro orderId member
      rw [asked, added] at member
      rcases List.mem_append.mp member with old | new
      · exact ordered orderId old
      · exact ⟨order, opened.mem_orders, (List.mem_singleton.mp new).symm⟩

/-- The approvals that were asked for orders with the key. -/
def approvalsAsked (world : World) (key : String) : List Nat :=
  world.asked.filter fun orderId =>
    world.db.orders.any fun order =>
      order.id == orderId && order.idempotencyKey == key

/-- The answers to the placing calls with the key. -/
def answersTo (world : World) (key : String) : List PlacedOrder :=
  world.log.filterMap fun event =>
    match event with
    | .placeEnded request (.ok placed) =>
        if request.idempotencyKey = key then some placed else none
    | _ => none

/-- The key makes an order happen once. -/
structure OncePerKey (world : World) (key : String) : Prop where
  order : (world.db.orders.filter (·.idempotencyKey == key)).length ≤ 1
  approval : (world.approvalsAsked key).length ≤ 1
  answer :
    ∀ first ∈ world.answersTo key, ∀ second ∈ world.answersTo key,
      first.orderId = second.orderId ∧ first.snapshot = second.snapshot

/-- What holds throughout every run for the keys. -/
structure Keyed (world : World) : Prop where
  answers : world.Answers HasKey
  asks : world.AsksOnce

theorem Keyed.initial
    (inventory : Inventory) (startsAt : Nat → Policy.Datetime) (clock : Time) :
    (World.initial inventory startsAt clock).Keyed where
  answers := .initial inventory startsAt clock
  asks :=
    { once := List.nodup_nil
      ordered := by simp [asked, World.initial] }

theorem Keyed.step (keyed : world.Keyed)
    (taken : world.step action = some next) :
    next.Keyed where
  answers :=
    keyed.answers.step fitting_hasKey
      (findsFitting_hasKey keyed.answers.consistent action) taken
  asks := keyed.asks.step keyed.answers.consistent taken

theorem Keyed.oncePerKey (keyed : world.Keyed) (key : String) :
    world.OncePerKey key := by
  have sound := keyed.answers.consistent.sound
  have single : (world.db.orders.filter (·.idempotencyKey == key)).length ≤ 1 :=
    sound.keyUnique.filter_length_le key
  constructor
  case order => exact single
  case approval =>
    have nodup : (world.approvalsAsked key).Nodup := keyed.asks.once.filter _
    have included :
        world.approvalsAsked key ⊆
          (world.db.orders.filter (·.idempotencyKey == key)).map (·.id) := by
      intro orderId member
      obtain ⟨order, orderMember, both⟩ :=
        List.any_eq_true.mp (List.mem_filter.mp member).2
      simp only [Bool.and_eq_true, beq_iff_eq] at both
      rw [← both.1]
      refine List.mem_map_of_mem (List.mem_filter.mpr ⟨orderMember, ?_⟩)
      exact beq_iff_eq.mpr both.2
    calc
      (world.approvalsAsked key).length ≤
          ((world.db.orders.filter (·.idempotencyKey == key)).map (·.id)).length :=
        nodup.length_le_of_subset included
      _ ≤ 1 := by
        rw [List.length_map]
        exact single
  case answer =>
    have stored :
        ∀ placed ∈ world.answersTo key,
          ∃ order ∈ world.db.orders, order.id = placed.orderId ∧
            order.idempotencyKey = key ∧
            order.responseSnapshot = some placed.snapshot := by
      intro placed member
      obtain ⟨event, logged, found⟩ := List.mem_filterMap.mp member
      split at found
      · split at found
        · rename_i request answer own
          cases found
          obtain ⟨order, orderMember, orderId, hasKey, snapshot⟩ :=
            keyed.answers.answered request _ logged
          exact ⟨order, orderMember, orderId, hasKey.trans own, snapshot⟩
        · cases found
      · cases found
    intro first firstMember second secondMember
    obtain ⟨left, leftMember, leftId, leftKey, leftStored⟩ :=
      stored first firstMember
    obtain ⟨right, rightMember, rightId, rightKey, rightStored⟩ :=
      stored second secondMember
    have equal : left = right :=
      sound.keyUnique.eq leftMember rightMember (leftKey.trans rightKey.symm)
    rw [equal] at leftId leftStored
    exact
      ⟨leftId.symm.trans rightId,
        Option.some_injective _ (leftStored.symm.trans rightStored)⟩

/--
In every run, a key makes an order happen once, and the order of a key at any
moment is its order from then on.
-/
theorem idempotency_key
    {inventory : Inventory} {startsAt : Nat → Policy.Datetime} {clock : Time}
    {earlier world : World}
    (first :
      TransitionSystem.Reachable World.step
        (World.initial inventory startsAt clock) earlier)
    (later : TransitionSystem.Reachable World.step earlier world)
    (key : String) :
    world.OncePerKey key ∧
      ∀ order ∈ earlier.db.orders, order.idempotencyKey = key →
        ∃ kept ∈ world.db.orders, kept.id = order.id ∧
          kept.idempotencyKey = key := by
  have keyed : earlier.Keyed :=
    first.invariant (.initial inventory startsAt clock)
      fun _ _ _ keyed _ taken => keyed.step taken
  have keyedLater : world.Keyed :=
    later.invariant keyed fun _ _ _ keyed _ taken => keyed.step taken
  have continues : earlier.Continues world :=
    .of_reachable keyed.answers.consistent later
  refine ⟨keyedLater.oncePerKey key, ?_⟩
  intro order member own
  obtain ⟨kept, keptMember, head⟩ := continues.order member
  exact
    ⟨kept, keptMember, Order.id_of_head head, (Order.key_of_head head).trans own⟩

/-- The place request of the only seat. -/
def placeOneSeat (userId : Nat) (idempotencyKey : String) : Action :=
  .startPlace { scheduleId := 1, userId, seatIds := [1], idempotencyKey }

/--
A duplicate while the approval is in flight, a late one once the order is paid,
and another one once it is canceled.
-/
def duplicates : List Action :=
  Action.order 7 "key" ++
    [placeOneSeat 7 "key", .advance 1, .advance 1, .advance 1] ++
    Action.pay "tid-1" ++
    [.advance 0,
     placeOneSeat 7 "key", .advance 0, .advance 0, .advance 0,
     .startCancel 1 none,
     .execute 0 "refund-1",
     .answer 0 { result := .approved, pgTid := some "refund-1" },
     .advance 0,
     placeOneSeat 7 "key", .advance 0, .advance 0, .advance 0]

/-- Four calls with one key get the same answer. -/
theorem idempotency_key_duplicates :
    ∃ world : World,
      ((world.answersTo "key").length == 4 && world.asked == [1] &&
          world.db.orders.map (·.status) == [.canceled]) = true ∧
        world.OncePerKey "key" := by
  obtain ⟨world, run, seen⟩ :=
    TransitionSystem.RunWhere.exists_of_checkedRun World.step
      (fun _ _ => True) World.oneSeat duplicates
      (fun world : World =>
        (world.answersTo "key").length == 4 && world.asked == [1] &&
          world.db.orders.map (·.status) == [.canceled])
      (by decide)
  exact ⟨world, seen, (idempotency_key .refl run "key").1⟩

/-! ## Whose order an answer names -/

/-- The order is the user's own, of the schedule and the seats of the request. -/
def asksFor (request : PlaceRequest) (order : Order) : Bool :=
  order.userId == request.userId && order.scheduleId == request.scheduleId &&
    order.seatIds == request.wanted

theorem fitting_asksFor :
    Fitting fun request order => asksFor request order = true where
  head := by
    intro request left right equal own
    have same : asksFor request left.head = asksFor request right.head := by
      rw [equal]
    exact same.symm.trans own
  opened := by
    intro request now db order after opened
    rw [opened.order_eq]
    simp [asksFor]

/--
A call that finds its key used finds it used by the same user, for the same
schedule and seats.
-/
def findsOwn (world : World) (action : Action) : Bool :=
  match action with
  | .advance index =>
      match world.calls[index]? with
      | some (.placing request (.lookingUp _)) =>
          (orderByIdempotencyKey request.idempotencyKey world.db).all
            (asksFor request)
      | _ => true
  | _ => true

theorem findsFitting_asksFor
    (own : world.findsOwn action = true) :
    world.FindsFitting (fun request order => asksFor request order = true)
      action := by
  rintro index request startedAt rfl found order looked
  simpa [findsOwn, found, looked] using own

/-- Every answer names an order of the asking user, schedule and seats. -/
def AnswersOwn (world : World) : Prop :=
  ∀ request placed, .placeEnded request (.ok placed) ∈ world.log →
    ∃ order ∈ world.db.orders, order.id = placed.orderId ∧
      asksFor request order = true

/--
In every run in which no call finds its key used for something else, every
answer names an order of the asking user, schedule and seats.
-/
theorem answers_own
    {inventory : Inventory} {startsAt : Nat → Policy.Datetime} {clock : Time}
    {world : World}
    (run :
      TransitionSystem.RunWhere World.step
        (fun before action => before.findsOwn action = true)
        (World.initial inventory startsAt clock) world) :
    world.AnswersOwn := by
  have answers :
      world.Answers fun request order => asksFor request order = true :=
    run.invariant (.initial inventory startsAt clock)
      fun _ _ _ answers own taken =>
        answers.step fitting_asksFor (findsFitting_asksFor own) taken
  intro request placed member
  obtain ⟨order, orderMember, orderId, own, -⟩ :=
    answers.answered request placed member
  exact ⟨order, orderMember, orderId, own⟩

/-- Replays of one user's own request. -/
theorem answers_own_duplicates :
    ∃ world : World,
      ((world.answersTo "key").length == 4) = true ∧ world.AnswersOwn := by
  obtain ⟨world, run, seen⟩ :=
    TransitionSystem.RunWhere.exists_of_checkedRun World.step
      (fun before action => before.findsOwn action = true) World.oneSeat
      duplicates (fun world : World => (world.answersTo "key").length == 4)
      (by decide)
  exact ⟨world, seen, answers_own run⟩

/-- Without the condition a user is answered with the order of another one. -/
theorem answers_own_fails :
    ¬ ∀ world : World,
      TransitionSystem.Reachable World.step World.oneSeat world →
        world.AnswersOwn := by
  intro claim
  obtain ⟨world, run, seen⟩ :=
    TransitionSystem.RunWhere.exists_of_checkedRun World.step
      (fun _ _ => True) World.oneSeat
      (Action.order 7 "key" ++ Action.pay "tid-1" ++
        [placeOneSeat 8 "key", .advance 0, .advance 0, .advance 0])
      (fun world : World =>
        (world.log.any fun event =>
          match event with
          | .placeEnded request (.ok placed) =>
              request.userId == 8 && placed.orderId == 1
          | _ => false) &&
        world.db.orders.all fun order => order.userId == 7)
      (by decide)
  rw [Bool.and_eq_true] at seen
  obtain ⟨event, logged, foreign⟩ := List.any_eq_true.mp seen.1
  split at foreign
  · rename_i request placed
    obtain ⟨order, member, -, own⟩ := claim world run request placed logged
    have owner := List.all_eq_true.mp seen.2 order member
    simp only [asksFor, Bool.and_eq_true, beq_iff_eq] at own owner foreign
    omega
  · cases foreign

end World

end Curtain
