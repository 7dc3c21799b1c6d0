import Curtain.Records
import Mathlib.Logic.Relation

/-!
# What the transactions write

The transactions of the services change the stock, the orders and their items
by six kinds of writes.  What each of these preserves, every run preserves.
-/

namespace Curtain

open Queries Table HoldService OrderService

/-- One write to the stock, the orders and their items. -/
inductive Db.Write (now : Time) (db : Db) : Db → Prop where
  | seats {condition : ScheduleSeat → Bool}
      {change : ScheduleSeat → ScheduleSeat}
      (kept : ∀ row, (change row).stock = row.stock)
      (unbooked :
        ∀ row ∈ db.scheduleSeats, condition row = true → row.status ≠ .booked)
      (unbooks : ∀ row, (change row).status ≠ .booked) :
      Db.Write now db (db.updateSeats condition change)
  | opened {request : PlaceRequest} {order : Order} {after : Db}
      (opened : Opened request now db order after) :
      Db.Write now db after
  | confirmed {order : Order} {pgTid : String} {after : Db}
      (confirmed : Confirmed order pgTid now db after) :
      Db.Write now db after
  | closed (orderId : Nat) {status : OrderStatus}
      (final : status = .failed ∨ status = .canceled) :
      Db.Write now db (markOrder orderId status .pending db).2
  | canceled (orderId : Nat) : Db.Write now db (db.cancelOrder orderId)
  | elsewhere {after : Db}
      (seats : after.scheduleSeats = db.scheduleSeats)
      (orders : after.orders = db.orders)
      (items : after.orderItems = db.orderItems) :
      Db.Write now db after

/-- The writes of one transaction, one after the other. -/
abbrev Db.Writes (now : Time) : Db → Db → Prop :=
  Relation.ReflTransGen (Db.Write now)

section Writes

variable {db after : Db} {now : Time}

theorem Db.Write.held {request : AcquireRequest} :
    db.Write now
      (db.updateSeats (isTarget request.scheduleId request.seatIds now)
        (hold request.userId (now + seconds request.ttlSec))) :=
  .seats (hold_stock _ _) (fun _ _ target => isTarget_unbooked target)
    fun row => by simp [hold]

theorem Db.Write.freed (scheduleId userId : Nat) (seatIds : List Nat) :
    db.Write now (db.updateSeats (isHoldOf scheduleId userId seatIds) free) :=
  .seats free_stock (fun _ _ held => isHoldOf_unbooked held)
    fun row => by simp [free]

theorem insertPayment_write
    {orderId : Nat} {status : PayStatus} {amount : Int}
    {pgTid : Option String} {fees : Option FeeSnapshot}
    (ok : insertPayment orderId status amount pgTid fees db = .ok after) :
    db.Write now after := by
  obtain ⟨-, rfl⟩ := insertPayment_ok.mp ok
  exact .elsewhere rfl rfl rfl

theorem sweepExpired_write
    (unique : Unique ScheduleSeat.id db.scheduleSeats)
    (batch : Nat) (locked : Nat → Bool) :
    db.Write now (sweepExpired batch locked now db).2 := by
  obtain ⟨condition, expired, equal⟩ :=
    sweepExpired_snd unique now batch locked
  rw [equal]
  exact
    .seats free_stock
      (fun row member taken =>
        isExpiredHold_unbooked (expired row member taken))
      fun row => by simp [free]

theorem closeUnpaid_writes {orderId : Nat} {status : OrderStatus}
    (final : status = .failed ∨ status = .canceled)
    (ok : closeUnpaid orderId status db = .ok after) :
    Db.Writes now db after := by
  rcases closeUnpaid_ok ok with rfl | ⟨order, -, -, -, rfl⟩
  · exact .refl
  · have closed :
        Db.Writes now db
          (failPendingPayments orderId
            (markOrder orderId status .pending db).2) :=
      .tail (.single (.closed orderId final)) (.elsewhere rfl rfl rfl)
    exact .tail closed (.freed _ _ _)

theorem recordRefund_writes
    {order : Order} {total : Int} {attempt : PayAttempt}
    (ok : recordRefund order total attempt db = .ok after) :
    Db.Writes now db after := by
  obtain ⟨middle, inserted, rfl⟩ := recordRefund_ok ok
  have failed : Db.Writes now db (failPendingPayments order.id middle) :=
    .tail (.single (insertPayment_write inserted)) (.elsewhere rfl rfl rfl)
  split
  · exact .tail (.tail failed (.closed order.id (Or.inl rfl))) (.freed _ _ _)
  · exact failed

theorem closeCanceled_writes
    {cancellation : Cancellation} {attempt : PayAttempt}
    (ok : closeCanceled cancellation attempt db = .ok after) :
    Db.Writes now db after := by
  rcases closeCanceled_ok ok with ⟨rfl, -⟩ | ⟨-, refunded, inserted, rfl⟩
  · exact .refl
  · obtain ⟨-, rfl⟩ := insertPayment_ok.mp inserted
    exact
      .tail (.single (.canceled cancellation.order.id)) (.elsewhere rfl rfl rfl)

/-- What a turn does to the database it does by such writes. -/
theorem Turn.writes
    {world : World} {action : Action} {before after : Option Task}
    {books : Books}
    (unique : Unique ScheduleSeat.id world.db.scheduleSeats)
    (closing : ∀ task ∈ before, task.ClosesFinally)
    (turn : Turn world action before after books) :
    Db.Writes world.clock world.db books.db := by
  cases turn with
  | acquired ok =>
      obtain ⟨-, rfl⟩ := acquireSeats_ok unique ok
      exact .single .held
  | released => exact .single (.freed _ _ _)
  | swept => exact .single (sweepExpired_write unique _ _)
  | opened opened => exact .single (.opened opened)
  | confirmed confirms source confirmed quiet =>
      exact .single (.confirmed confirmed)
  | recorded recorded => exact recordRefund_writes recorded
  | closed closed => exact closeUnpaid_writes (closing _ rfl) closed
  | cancelFailed recorded => exact .single (insertPayment_write recorded)
  | cancelClosed closed => exact closeCanceled_writes closed
  | _ => exact .refl

/-- After a turn an order is only ever closed as `FAILED` or `CANCELED`. -/
theorem Turn.closesFinally
    {world : World} {action : Action} {before after : Option Task}
    {books : Books}
    (turn : Turn world action before after books) :
    ∀ task ∈ after, task.ClosesFinally := by
  have quietly : Quiet after → ∀ task ∈ after, task.ClosesFinally := by
    intro quiet task member
    obtain ⟨orderId, rfl⟩ := quiet task member
    trivial
  cases turn with
  | idle passing quiet => exact quietly quiet
  | confirmed confirms source confirmed quiet => exact quietly quiet
  | recorded recorded quiet => exact quietly quiet
  | unrecorded failed quiet => exact quietly quiet
  | closed closed quiet => exact quietly quiet
  | declined asked result final => simpa [Task.ClosesFinally] using final
  | _ => simp [Task.ClosesFinally]

/-- Every write keeps the tables in agreement. -/
theorem Db.Sound.write (sound : db.Sound) (write : db.Write now after) :
    after.Sound := by
  cases write with
  | seats kept unbooked unbooks => exact sound.updateSeats kept unbooked unbooks
  | opened opened => exact sound.opened opened
  | confirmed confirmed => exact confirmed.sound_after sound
  | closed orderId final => exact sound.closeOrder orderId final
  | canceled orderId => exact sound.cancelOrder orderId
  | elsewhere seats orders items => exact sound.congr seats orders items

theorem Order.seatIds_of_head {left right : Order}
    (equal : left.head = right.head) :
    left.seatIds = right.seatIds := by
  show left.head.seatIds = right.head.seatIds
  rw [equal]

/-- A write opens an order or leaves the heads of the orders alone. -/
theorem Db.Write.heads (write : db.Write now after) :
    after.orders.map Order.head = db.orders.map Order.head ∨
      ∃ request order, Opened request now db order after := by
  cases write with
  | seats => exact Or.inl rfl
  | opened opened => exact Or.inr ⟨_, _, opened⟩
  | confirmed confirmed => exact Or.inl confirmed.map_head
  | closed orderId final => exact Or.inl (markOrder_map_head _ _ _ db)
  | canceled orderId => exact Or.inl (markOrder_map_head _ _ _ db)
  | elsewhere seats orders items => exact Or.inl (congrArg _ orders)

end Writes

end Curtain
