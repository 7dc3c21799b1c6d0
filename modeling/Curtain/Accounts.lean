import Curtain.Census

/-!
# The till

A cancellation is told three times: by the row of the order, by the refunded
payment with its fee, and by a notice in the outbox.  The three agree in every
run, and with them what was taken in and not paid back is the price of the
booked seats and the fees that were kept.
-/

namespace Curtain

open Queries Table HoldService OrderService TransitionSystem

/-! ## What a cancellation leaves -/

/-- A cancellation: its order, the fee and the refund. -/
structure Canceled where
  orderId : Nat
  fee : Int
  refund : Int
deriving DecidableEq, Repr

/-- The cancellation that a notice tells of. -/
def Outbox.canceled? (row : Outbox) : Option Canceled :=
  match row.payload with
  | .canceled orderId fee refund => some { orderId, fee, refund }
  | .paid _ _ => none

theorem Outbox.canceled?_orderId (row : Outbox) {canceled : Canceled}
    (tells : row.canceled? = some canceled) :
    canceled.orderId = row.payload.orderId := by
  rw [canceled?] at tells
  split at tells
  · rename_i told
    cases tells
    rw [told]
    rfl
  · cases tells

/-- The cancellation for which a payment went back. -/
def Payment.canceled? (payment : Payment) : Option Canceled :=
  if payment.status = .refunded then
    payment.feeSnapshot.map fun fees =>
      { orderId := payment.orderId
        fee := fees.fee
        refund := payment.amount }
  else none

namespace Db

/-- The cancellations that the outbox tells of, in their order. -/
def cancellations (db : Db) : List Canceled :=
  db.outbox.filterMap Outbox.canceled?

/-- The cancellations that the payments tell of, in their order. -/
def repayments (db : Db) : List Canceled :=
  db.payments.filterMap Payment.canceled?

/-- What was taken in for the orders that were confirmed. -/
def taken (db : Db) : Int :=
  ((db.payments.filter (·.status == .approved)).map (·.amount)).sum

end Db

/-- The cancellations agree with the orders, and their notices carry the topic. -/
structure Db.Told (db : Db) : Prop where
  same : db.repayments = db.cancellations
  topics :
    ∀ row ∈ db.outbox,
      row.topic = "order.canceled" ↔ row.canceled?.isSome = true
  shares :
    ∀ canceled ∈ db.cancellations, ∃ order ∈ db.orders,
      order.id = canceled.orderId ∧
        canceled.fee + canceled.refund = order.totalAmount

/-- A cancellation in progress knows the sum of its order. -/
def Task.Prices (db : Db) : Task → Prop
  | .canceling cancellation _ =>
      ∃ order ∈ db.orders, order.id = cancellation.order.id ∧
        order.totalAmount = cancellation.order.totalAmount
  | _ => True

/-- What holds in every run. -/
structure World.Told (world : World) : Prop where
  bookkept : world.Bookkept
  told : world.db.Told
  prices : ∀ task ∈ world.tasks, task.Prices world.db

section Writes

variable {db after : Db}

theorem filterMap_updateWhere {Row Value : Type} {condition : Row → Bool}
    {change : Row → Row} {read : Row → Option Value} {rows : List Row}
    (kept :
      ∀ row ∈ rows, condition row = true → read (change row) = read row) :
    (updateWhere condition change rows).filterMap read = rows.filterMap read := by
  rw [updateWhere, List.filterMap_map]
  refine List.filterMap_congr fun row member => ?_
  by_cases touched : condition row = true
  · simp [touched, kept row member touched]
  · simp [touched]

/-- A payment other than a refund with its fee tells of no cancellation. -/
theorem repayments_insertPayment
    {orderId : Nat} {status : PayStatus} {amount : Int}
    {pgTid : Option String} {fees : Option FeeSnapshot}
    (ok : insertPayment orderId status amount pgTid fees db = .ok after) :
    after.repayments =
      db.repayments ++
        (if status = .refunded then
          fees.map fun fees => ({ orderId, fee := fees.fee, refund := amount } : Canceled)
        else none).toList := by
  obtain ⟨-, rfl⟩ := insertPayment_ok.mp ok
  rw [Db.repayments, List.filterMap_append, List.filterMap_cons,
    List.filterMap_nil, Payment.canceled?]
  by_cases back : status = .refunded
  · cases fees <;> simp [back, Db.repayments]
  · simp [back, Db.repayments]

/-- A requested payment tells of no cancellation, and neither does it later. -/
theorem repayments_requested {orderId : Nat} {change : Payment → Payment}
    (stays : ∀ payment, (change payment).status ≠ .refunded)
    (payments : List Payment) :
    (updateWhere (isRequested orderId) change payments).filterMap
        Payment.canceled? =
      payments.filterMap Payment.canceled? := by
  refine filterMap_updateWhere fun payment _ requested => ?_
  have status : payment.status = .requested := by
    rw [isRequested, Bool.and_eq_true, beq_iff_eq, beq_iff_eq] at requested
    exact requested.2
  simp [Payment.canceled?, status, stays payment]

/-- The orders that the cancellations name keep their sums. -/
theorem Db.Keeps.shares (keeps : db.Keeps after) {canceled : Canceled}
    (shares :
      ∃ order ∈ db.orders, order.id = canceled.orderId ∧
        canceled.fee + canceled.refund = order.totalAmount) :
    ∃ order ∈ after.orders, order.id = canceled.orderId ∧
      canceled.fee + canceled.refund = order.totalAmount := by
  obtain ⟨old, oldMember, oldId, sum⟩ := shares
  obtain ⟨order, member, head, -⟩ := keeps old oldMember
  exact
    ⟨order, member, (Order.id_of_head head).trans oldId,
      sum.trans (congrArg Order.totalAmount head).symm⟩

/-- A transaction that tells of no cancellation. -/
theorem Db.Told.keep (told : db.Told) (keeps : db.Keeps after)
    (repayments : after.repayments = db.repayments)
    (cancellations : after.cancellations = db.cancellations)
    (topics :
      ∀ row ∈ after.outbox,
        row ∈ db.outbox ∨ (row.topic = "order.paid" ∧ row.canceled? = none)) :
    after.Told where
  same := by rw [repayments, cancellations, told.same]
  topics := by
    intro row member
    rcases topics row member with old | ⟨topic, none⟩
    · exact told.topics row old
    · simp [topic, none]
  shares := by
    rw [cancellations]
    exact fun canceled listed => keeps.shares (told.shares canceled listed)

namespace Db.Told

/-- A transaction that writes neither payments nor notices. -/
theorem unwritten (told : db.Told) (keeps : db.Keeps after)
    (payments : after.payments = db.payments)
    (outbox : after.outbox = db.outbox) :
    after.Told := by
  refine told.keep keeps ?_ ?_ fun row member => Or.inl (outbox ▸ member)
  · rw [Db.repayments, payments, Db.repayments]
  · rw [Db.cancellations, outbox, Db.cancellations]

theorem opened (told : db.Told) (keeps : db.Keeps after)
    {request : PlaceRequest} {now : Time} {order : Order}
    (opened : Opened request now db order after) :
    after.Told := by
  rw [opened.after_eq] at keeps ⊢
  refine told.keep keeps ?_ rfl fun row member => Or.inl member
  simp [Db.repayments, Payment.canceled?]

theorem confirmed (told : db.Told) (keeps : db.Keeps after)
    {order : Order} {pgTid : String} {now : Time}
    (confirmed : Confirmed order pgTid now db after) :
    after.Told := by
  have outbox :
      after.outbox =
        db.outbox ++
          [{ topic := "order.paid"
             payload := .paid order.id order.seatIds }] :=
    congrArg Db.outbox confirmed.after_eq
  refine told.keep keeps ?_ ?_ fun row member => ?_
  · rw [Db.repayments, Db.repayments]
    rcases confirmed.promoted with ⟨-, equal⟩ | ⟨-, equal⟩
    · rw [equal]
      exact repayments_requested (by simp) _
    · rw [equal]
      simp [Payment.canceled?]
  · rw [Db.cancellations, Db.cancellations, outbox]
    simp [Outbox.canceled?]
  · rw [outbox] at member
    rcases List.mem_append.mp member with old | new
    · exact Or.inl old
    · rw [List.mem_singleton.mp new]
      exact Or.inr ⟨rfl, rfl⟩

/-- The refund of an order that was not confirmed is no cancellation. -/
theorem recordRefund (told : db.Told) (keeps : db.Keeps after)
    {order : Order} {total : Int} {attempt : PayAttempt}
    (ok : recordRefund order total attempt db = .ok after) :
    after.Told := by
  obtain ⟨middle, inserted, equal⟩ := recordRefund_ok ok
  have outbox := World.Bookkept.insertPayment_outbox inserted
  have repaid := repayments_insertPayment inserted
  rw [Option.map_none, ite_self, Option.toList_none, List.append_nil] at repaid
  refine told.keep keeps ?_ ?_ fun row member => Or.inl ?_
  · rw [equal, ← repaid]
    split <;> exact repayments_requested (by simp) _
  · rw [Db.cancellations, Db.cancellations, ← outbox, equal]
    split <;> rfl
  · rw [← outbox]
    rw [equal] at member
    split at member <;> exact member

theorem closeUnpaid (told : db.Told) (keeps : db.Keeps after)
    {orderId : Nat} {status : OrderStatus}
    (ok : closeUnpaid orderId status db = .ok after) :
    after.Told := by
  rcases closeUnpaid_ok ok with rfl | ⟨owner, -, -, -, rfl⟩
  · exact told
  · refine told.keep keeps ?_ rfl fun row member => Or.inl member
    exact repayments_requested (by simp) _

theorem recordFailedCancel (told : db.Told) (keeps : db.Keeps after)
    {cancellation : Cancellation}
    (ok : recordFailedCancel cancellation db = .ok after) :
    after.Told := by
  have outbox := World.Bookkept.insertPayment_outbox ok
  have repaid := repayments_insertPayment ok
  refine told.keep keeps ?_ ?_ fun row member => Or.inl (outbox ▸ member)
  · simpa using repaid
  · rw [Db.cancellations, Db.cancellations, ← outbox]

/-- A cancellation is told of twice, with the shares of its order. -/
theorem closeCanceled (told : db.Told) (keeps : db.Keeps after)
    {cancellation : Cancellation} {attempt : PayAttempt}
    (priced :
      ∃ order ∈ db.orders, order.id = cancellation.order.id ∧
        order.totalAmount = cancellation.order.totalAmount)
    (ok : closeCanceled cancellation attempt db = .ok after) :
    after.Told := by
  rcases closeCanceled_ok ok with ⟨rfl, -⟩ | ⟨-, refunded, inserted, equal⟩
  · exact told
  have repayments :
      after.repayments =
        db.repayments ++
          [{ orderId := cancellation.order.id
             fee := cancellation.fee
             refund := cancellation.refundAmount }] := by
    rw [equal]
    exact repayments_insertPayment inserted
  have outbox :
      after.outbox =
        db.outbox ++
          [{ topic := "order.canceled"
             payload :=
               .canceled cancellation.order.id cancellation.fee
                 cancellation.refundAmount }] := by
    have same := World.Bookkept.insertPayment_outbox inserted
    rw [equal]
    exact congrArg (· ++ _) same
  have cancellations :
      after.cancellations =
        db.cancellations ++
          [{ orderId := cancellation.order.id
             fee := cancellation.fee
             refund := cancellation.refundAmount }] := by
    rw [Db.cancellations, outbox, List.filterMap_append]
    rfl
  constructor
  · rw [repayments, cancellations, told.same]
  · intro notice listed
    rw [outbox] at listed
    rcases List.mem_append.mp listed with old | new
    · exact told.topics notice old
    · rw [List.mem_singleton.mp new]
      simp [Outbox.canceled?]
  · intro canceled listed
    rw [cancellations] at listed
    rcases List.mem_append.mp listed with old | new
    · exact keeps.shares (told.shares canceled old)
    · obtain ⟨order, member, own, total⟩ := priced
      rw [List.mem_singleton.mp new]
      refine keeps.shares ⟨order, member, own, ?_⟩
      rw [Cancellation.refundAmount, total]
      exact add_sub_cancel _ _

end Db.Told

end Writes

/-! ## Every run -/

namespace World.Told

variable {world next : World} {action : Action} {before after : Option Task}
variable {books : Books}

/-- Every turn keeps the three accounts of the cancellations together. -/
theorem told_after (holds : world.Told)
    (known : ∀ task ∈ before, task ∈ world.tasks)
    (turn : Turn world action before after books) :
    books.db.Told := by
  have told := holds.told
  have consistent := holds.bookkept.recorded.consistent
  have keeps := turn.keeps consistent
  cases turn with
  | acquired ok =>
      obtain ⟨-, rfl⟩ := acquireSeats_ok consistent.sound.rowUnique ok
      exact told.unwritten keeps rfl rfl
  | released => exact told.unwritten keeps rfl rfl
  | swept => exact told.unwritten keeps rfl rfl
  | opened opened => exact told.opened keeps opened
  | confirmed confirms source confirmed quiet => exact told.confirmed keeps confirmed
  | recorded recorded => exact told.recordRefund keeps recorded
  | closed closed => exact told.closeUnpaid keeps closed
  | cancelFailed recorded => exact told.recordFailedCancel keeps recorded
  | cancelClosed closed =>
      exact told.closeCanceled keeps (holds.prices _ (known _ rfl)) closed
  | _ => exact told

theorem prices_keeps {db after : Db} (keeps : db.Keeps after) {task : Task}
    (prices : task.Prices db) : task.Prices after := by
  cases task with
  | canceling cancellation stage =>
      obtain ⟨old, oldMember, own, total⟩ := prices
      obtain ⟨order, member, head, -⟩ := keeps old oldMember
      exact
        ⟨order, member, (Order.id_of_head head).trans own,
          (congrArg Order.totalAmount head).trans total⟩
  | approving | inquiring | settling => trivial

/-- The cancellation that a turn begins or continues knows the sum of its order. -/
theorem prices_after (holds : world.Told)
    (known : ∀ task ∈ before, task ∈ world.tasks)
    (turn : Turn world action before after books) :
    ∀ task ∈ after, task.Prices world.db := by
  have quietTask (quiet : Quiet after) : ∀ task ∈ after, task.Prices world.db := by
    intro task member
    obtain ⟨orderId, rfl⟩ := quiet task member
    trivial
  cases turn with
  | idle passing quiet => exact quietTask quiet
  | confirmed confirms source confirmed quiet => exact quietTask quiet
  | recorded recorded quiet => exact quietTask quiet
  | unrecorded failed quiet => exact quietTask quiet
  | closed closed quiet => exact quietTask quiet
  | cancelStarted prepared =>
      rintro _ ⟨⟩
      obtain ⟨order, member, payment, -, -, -, -, equal, -⟩ :=
        prepareCancel_ok prepared
      exact ⟨order, member, by rw [equal], by rw [equal]⟩
  | cancelExecuted | cancelAnswered =>
      rintro _ ⟨⟩
      have kept := holds.prices _ (known _ rfl)
      exact kept
  | opened | approvalExecuted | approved | declined | expired | compensating
  | refundExecuted | refundAnswered =>
      rintro _ ⟨⟩
      trivial
  | _ =>
      rintro _ ⟨⟩

theorem initial
    (inventory : Inventory) (startsAt : Nat → Policy.Datetime) (clock : Time) :
    (World.initial inventory startsAt clock).Told where
  bookkept := .initial inventory startsAt clock
  told :=
    { same := rfl
      topics := by simp [World.initial]
      shares := by simp [World.initial, Db.cancellations] }
  prices := by simp [World.initial, World.tasks]

theorem step (holds : world.Told) (taken : world.step action = some next) :
    next.Told := by
  obtain ⟨after, exchange, turn⟩ := step_turn taken
  generalize current : world.taskOf action = before at turn exchange
  have known := exchange.mem_before
  have keeps : world.db.Keeps next.db :=
    turn.keeps holds.bookkept.recorded.consistent
  refine
    { bookkept := holds.bookkept.step taken
      told := holds.told_after known turn
      prices := ?_ }
  intro task member
  refine prices_keeps keeps ?_
  rcases exchange.mem member with old | rfl
  · exact holds.prices task old
  · exact holds.prices_after known turn task rfl

end World.Told

/-! ## The balance of the till -/

/-- What an order is due once it is confirmed. -/
def Order.due (order : Order) : Int :=
  if order.confirmed then order.totalAmount else 0

/-- The order was confirmed and is canceled. -/
def Order.undone (order : Order) : Bool :=
  order.confirmed && order.status == .canceled

/-- The cancellations of an order are those that its notices tell of. -/
theorem Db.Told.filter_cancellations {db : Db} (told : db.Told) (orderId : Nat) :
    db.cancellations.filter (fun canceled => canceled.orderId == orderId) =
      (db.notices orderId "order.canceled").filterMap Outbox.canceled? := by
  rw [Db.cancellations, Db.notices, List.filter_filterMap, List.filterMap_filter]
  refine List.filterMap_congr fun row member => ?_
  have topic := told.topics row member
  cases payload : row.payload with
  | paid => simp [Outbox.canceled?, payload]
  | canceled other fee refund =>
      have known : row.topic = "order.canceled" := by
        simp [topic, Outbox.canceled?, payload]
      simp [Outbox.canceled?, payload, known, Payload.orderId, Option.filter]

namespace Db.Sound

variable {db : Db}

/-- An order with a number is the only one. -/
theorem filter_orders (sound : db.Sound) {orderId : Nat}
    (known : db.HasOrder orderId) :
    (db.orders.filter fun order => orderId == order.id).length = 1 := by
  obtain ⟨order, member, rfl⟩ := known
  have single := sound.orderIdUnique.filter_eq_singleton member
  have same :
      (db.orders.filter fun other => order.id == other.id) = [order] := by
    rw [← single]
    exact List.filter_congr fun other _ => BEq.comm
  rw [same]
  rfl

/-- What was taken in is due for the confirmed orders. -/
theorem taken_eq (sound : db.Sound) (balanced : db.Balanced)
    (referenced : ∀ payment ∈ db.payments, db.HasOrder payment.orderId) :
    db.taken = (db.orders.map Order.due).sum := by
  rw [Db.taken]
  have owned :=
    @sum_filter_eq_sum_owned Payment Order Int _
      (fun order payment =>
        payment.orderId == order.id && payment.status == .approved)
      (·.status == .approved) db.orders db.payments (·.amount)
      (by
        intro payment member
        cases approved : payment.status == .approved with
        | false => simp
        | true => simpa using sound.filter_orders (referenced payment member))
  rw [owned]
  refine congrArg List.sum (List.map_congr_left fun order member => ?_)
  have approved := (balanced order member).approved
  change ((db.paymentsOf order.id .approved).map (·.amount)).sum = _
  rw [show (db.paymentsOf order.id .approved).map (·.amount) = _ from approved,
    Order.due]
  split <;> simp

/-- The cancellations name the orders that were confirmed and are canceled. -/
theorem shares_eq (sound : db.Sound) (balanced : db.Balanced) (told : db.Told) :
    (db.cancellations.map fun canceled => canceled.fee + canceled.refund).sum =
      ((db.orders.filter Order.undone).map (·.totalAmount)).sum := by
  have owned :=
    @sum_filter_eq_sum_owned Canceled Order Int _
      (fun order canceled => canceled.orderId == order.id)
      (fun _ => true) db.orders db.cancellations
      (fun canceled => canceled.fee + canceled.refund)
      (by
        intro canceled listed
        obtain ⟨order, member, own, -⟩ := told.shares canceled listed
        simpa using sound.filter_orders ⟨order, member, own⟩)
  rw [List.filter_true] at owned
  rw [owned, sum_filter]
  refine congrArg List.sum (List.map_congr_left fun order member => ?_)
  have count := (balanced order member).canceled
  change (db.notices order.id "order.canceled").length = _ at count
  rw [told.filter_cancellations]
  have undone :
      order.undone = true ↔
        order.confirmed = true ∧ order.status = .canceled := by
    rw [Order.undone, Bool.and_eq_true, beq_iff_eq]
  by_cases back : order.undone = true
  · rw [if_pos (undone.mp back)] at count
    rw [if_pos back]
    obtain ⟨row, single⟩ := List.length_eq_one_iff.mp count
    have listed : row ∈ db.notices order.id "order.canceled" := by simp [single]
    obtain ⟨inOutbox, named⟩ := List.mem_filter.mp listed
    rw [Bool.and_eq_true, beq_iff_eq, beq_iff_eq] at named
    obtain ⟨canceled, tells⟩ :=
      Option.isSome_iff_exists.mp ((told.topics row inOutbox).mp named.2)
    have among : canceled ∈ db.cancellations :=
      List.mem_filterMap.mpr ⟨row, inOutbox, tells⟩
    obtain ⟨other, otherMember, otherId, total⟩ := told.shares canceled among
    have own : canceled.orderId = order.id :=
      (row.canceled?_orderId tells).trans named.1
    have same : other = order :=
      sound.order_eq otherMember member (otherId.trans own)
    rw [single, List.filterMap_cons, tells, ← same, ← total]
    exact List.sum_singleton
  · rw [if_neg fun both => back (undone.mpr both), List.length_eq_zero_iff]
      at count
    rw [count, if_neg back]
    rfl

/-- What is due for the orders is of the paid ones and of the undone ones. -/
theorem due_eq (sound : db.Sound) :
    (db.orders.map Order.due).sum =
      ((db.paidOrders fun _ => true).map (·.totalAmount)).sum +
        ((db.orders.filter Order.undone).map (·.totalAmount)).sum := by
  rw [Db.paidOrders, sum_filter, sum_filter, ← List.sum_map_add]
  refine congrArg List.sum (List.map_congr_left fun order member => ?_)
  have fillable := sound.fillable order member
  have paid := fillable.answered
  have unanswered := fillable.unanswered
  cases status : order.status with
  | paid => simp [Order.due, Order.undone, status, paid status]
  | canceled => simp [Order.due, Order.undone, status]
  | pending =>
      simp [Order.due, Order.undone, Order.confirmed, status,
        unanswered (Or.inl status)]
  | failed =>
      simp [Order.due, Order.undone, Order.confirmed, status,
        unanswered (Or.inr status)]

end Db.Sound

/-- The till: what was taken in, what was paid back and what is kept. -/
structure Db.TillBalances (db : Db) : Prop where
  told : db.repayments = db.cancellations
  balance :
    db.taken - (db.repayments.map (·.refund)).sum =
      ((db.bookedSeats fun _ => true).map (·.price)).sum +
        (db.cancellations.map (·.fee)).sum

/--
In every run, whatever the gateway answers, the payments and the outbox tell of
the same cancellations, and what was taken in and not paid back is the price of
the booked seats together with the fees.
-/
theorem World.till_balances
    {inventory : Inventory} {startsAt : Nat → Policy.Datetime} {clock : Time}
    {world : World}
    (run :
      TransitionSystem.Reachable World.step
        (World.initial inventory startsAt clock) world) :
    world.db.TillBalances := by
  have holds : world.Told :=
    run.invariant (.initial inventory startsAt clock)
      fun _ _ _ holds _ taken => holds.step taken
  have recorded := holds.bookkept.recorded
  have sound := recorded.consistent.sound
  have taken := sound.taken_eq holds.bookkept.balanced recorded.referenced
  have shares :
      (world.db.cancellations.map (·.fee)).sum +
          (world.db.cancellations.map (·.refund)).sum =
        ((world.db.orders.filter Order.undone).map (·.totalAmount)).sum :=
    List.sum_map_add.symm.trans
      (sound.shares_eq holds.bookkept.balanced holds.told)
  refine ⟨holds.told.same, ?_⟩
  rw [taken, sound.due_eq, ← shares, sound.prices_bookedSeats, holds.told.same]
  omega

/-- A seat is sold, and given back two days before the show. -/
theorem World.till_balances_canceled :
    ∃ world : World,
      (world.db.taken == 150000 &&
          world.db.cancellations ==
            [{ orderId := 1, fee := 30000, refund := 120000 }] &&
          world.db.orders.map (·.status) == [.canceled]) = true ∧
        world.db.TillBalances := by
  obtain ⟨world, run, seen⟩ :=
    TransitionSystem.RunWhere.exists_of_checkedRun World.step
      (fun _ _ => True) World.oneSeat
      (Action.order 7 "key" ++ Action.pay "tid-1" ++
        [.startCancel 1 (some { instant := seconds (98 * 86400), offset := 0 }),
         .execute 0 "refund-1",
         .answer 0 { result := .approved, pgTid := some "refund-1" },
         .advance 0])
      (fun world =>
        world.db.taken == 150000 &&
          world.db.cancellations ==
            [{ orderId := 1, fee := 30000, refund := 120000 }] &&
          world.db.orders.map (·.status) == [.canceled])
      (by decide)
  exact ⟨world, seen, till_balances run⟩

end Curtain
