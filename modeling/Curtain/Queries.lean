import Curtain.Lib.Table
import Curtain.Models
import Mathlib.Algebra.Ring.Int.Defs
import Mathlib.Data.List.Sort

/-!
# The statements

One definition for each SQL statement.  `now` is the start of the transaction
that runs the statement.  A statement returns its `RETURNING` rows and the
database after it; one that breaks a `UNIQUE` constraint or overflows an
`integer` column raises instead, and the transaction around it rolls back.

No statement deletes a row of `orders` or `payments`, so the number of rows
serves as their sequence.
-/

namespace Curtain.Queries

open Table

/-! ## Holding seats -/

/-- The seats one may take now: free ones and expired holds. -/
def claimable (now : Time) (row : ScheduleSeat) : Truth :=
  Truth.or (some (row.status == .available))
    (Truth.and (some (row.status == .held))
      (whenPresent row.holdExpiresAt (· < now)))

/-- An unexpired hold of the user. -/
def heldLive (userId : Nat) (now : Time) (row : ScheduleSeat) : Bool :=
  row.status == .held && row.heldBy == some userId &&
    row.holdExpiresAt.any (now < ·)

/-- The lines the `owned` clause counts. -/
def ownedLines (scheduleId userId : Nat) (now : Time) (db : Db) :
    List ((ScheduleSeat × Option OrderItem) × Option Order) :=
  let withItem :=
    leftJoin db.scheduleSeats db.orderItems fun row item =>
      item.scheduleSeatId == row.id
  let withOrder :=
    leftJoin withItem db.orders fun line order =>
      line.2.any (fun item => order.id == item.orderId) &&
        order.status == .paid
  withOrder.filter fun line =>
    line.1.1.scheduleId == scheduleId &&
      (heldLive userId now line.1.1 ||
        (line.1.1.status == .booked &&
          line.2.any (·.userId == userId)))

/-- Seats of the schedule that count against the user's purchase limit. -/
def owned (scheduleId userId : Nat) (now : Time) (db : Db) : Nat :=
  (ownedLines scheduleId userId now db).length

/-- The `WHERE` clause of `target`. -/
def isTarget
    (scheduleId : Nat) (wanted : List Nat) (now : Time)
    (row : ScheduleSeat) : Bool :=
  row.scheduleId == scheduleId && wanted.contains row.seatId &&
    (claimable now row).holds

/-- The rows `hold_seats` locks, in the order in which it locks them. -/
def target
    (scheduleId : Nat) (wanted : List Nat) (now : Time) (db : Db) :
    List ScheduleSeat :=
  (db.scheduleSeats.filter (isTarget scheduleId wanted now)).insertionSort
    fun left right => left.seatId ≤ right.seatId

/-- All of the requested seats, and within the limit. -/
def guard (targetCount ownedCount requested maxSeats : Nat) : Bool :=
  targetCount == requested && decide (ownedCount + requested ≤ maxSeats)

/-- The `SET` clause of `hold_seats`. -/
def hold (userId : Nat) (expiresAt : Time) (row : ScheduleSeat) : ScheduleSeat :=
  { row with
    status := .held
    heldBy := some userId
    holdExpiresAt := some expiresAt }

/-- Hold all of the seats or none. -/
def holdSeats
    (scheduleId userId : Nat) (seatIds : List Nat)
    (maxSeats : Nat) (holdTtlSec : Int) (now : Time) (db : Db) :
    List ScheduleSeat × Db :=
  let targets := target scheduleId seatIds now db
  let ok :=
    guard targets.length (owned scheduleId userId now db)
      seatIds.length maxSeats
  let condition := fun row : ScheduleSeat =>
    (targets.map (·.id)).contains row.id && ok
  let change := hold userId (now + seconds holdTtlSec)
  (updatedRows condition change db.scheduleSeats,
    { db with scheduleSeats := updateWhere condition change db.scheduleSeats })

/-- The requested seats that cannot be taken now. -/
def findUnavailableSeats
    (scheduleId : Nat) (seatIds : List Nat) (now : Time) (db : Db) :
    List Nat :=
  (db.scheduleSeats.filter fun row =>
      row.scheduleId == scheduleId && seatIds.contains row.seatId &&
        (claimable now row).not.holds).map (·.seatId)

/-- The `SET` clause of a release and of the sweep. -/
def free (row : ScheduleSeat) : ScheduleSeat :=
  { row with status := .available, heldBy := none, holdExpiresAt := none }

/-- The `WHERE` clause of `release_hold`. -/
def isHoldOf
    (scheduleId userId : Nat) (seatIds : List Nat)
    (row : ScheduleSeat) : Bool :=
  row.scheduleId == scheduleId && seatIds.contains row.seatId &&
    row.status == .held && row.heldBy == some userId

/-- Release the user's own holds among the seats. -/
def releaseHold
    (scheduleId userId : Nat) (seatIds : List Nat) (db : Db) :
    List ScheduleSeat × Db :=
  let condition := isHoldOf scheduleId userId seatIds
  (updatedRows condition free db.scheduleSeats,
    { db with scheduleSeats := updateWhere condition free db.scheduleSeats })

/-- The `WHERE` clause of the sweep. -/
def isExpiredHold (now : Time) (row : ScheduleSeat) : Bool :=
  row.status == .held && row.holdExpiresAt.any (· < now)

/--
The expired holds in the order in which the sweep takes them, oldest first;
rows that another transaction has locked are skipped.
-/
def expiredHolds (locked : Nat → Bool) (now : Time) (db : Db) :
    List ScheduleSeat :=
  (db.scheduleSeats.filter fun row =>
      isExpiredHold now row && !locked row.id).insertionSort
    fun left right => left.holdExpiresAt.getD 0 ≤ right.holdExpiresAt.getD 0

/-- Reclaim at most `batch` expired holds. -/
def sweepExpiredHolds
    (batch : Nat) (locked : Nat → Bool) (now : Time) (db : Db) :
    List ScheduleSeat × Db :=
  let expired := ((expiredHolds locked now db).take batch).map (·.id)
  let condition := fun row : ScheduleSeat => expired.contains row.id
  (updatedRows condition free db.scheduleSeats,
    { db with scheduleSeats := updateWhere condition free db.scheduleSeats })

/-! ## Orders -/

/-- The hold rows an explanation looks at. -/
def heldSeatsForOrder
    (scheduleId userId : Nat) (seatIds : List Nat) (now : Time) (db : Db) :
    List ScheduleSeat :=
  (db.scheduleSeats.filter fun row =>
      row.scheduleId == scheduleId && seatIds.contains row.seatId &&
        heldLive userId now row).insertionSort
    fun left right => left.seatId ≤ right.seatId

/-- The `WHERE` clause of `open_order`. -/
def isOrderable
    (scheduleId userId : Nat) (wanted : List Nat)
    (minHoldRemainingSec : Int) (now : Time) (row : ScheduleSeat) : Bool :=
  row.scheduleId == scheduleId && wanted.contains row.seatId &&
    heldLive userId (now + seconds minHoldRemainingSec) row

/--
Insert a pending order.  No row comes back when a seat is not validly held or
when the idempotency key exists already.
-/
def openOrder
    (scheduleId userId : Nat) (seatIds : List Nat)
    (idempotencyKey : String) (minHoldRemainingSec : Int)
    (now : Time) (db : Db) :
    Except Raised (Option Order × Db) :=
  let source :=
    db.scheduleSeats.filter
      (isOrderable scheduleId userId seatIds minHoldRemainingSec now)
  let totalAmount := (source.map (·.price)).sum
  if source.length ≠ seatIds.length then
    .ok (none, db)
  else if !fitsInteger totalAmount then
    .error (.dataError "integer out of range")
  else if db.orders.any (·.idempotencyKey == idempotencyKey) then
    .ok (none, db)
  else
    let order : Order :=
      { id := db.orders.length + 1
        userId
        scheduleId
        status := .pending
        seatIds
        totalAmount
        idempotencyKey
        responseSnapshot := none
        createdAt := now }
    .ok (some order, { db with orders := db.orders ++ [order] })

/-- The order of an idempotency key. -/
def orderByIdempotencyKey (idempotencyKey : String) (db : Db) : Option Order :=
  lookup Order.idempotencyKey idempotencyKey db.orders

/-- The order, as the saga reads it; its schedule exists by the foreign key. -/
def orderForSaga (orderId : Nat) (db : Db) : Option Order :=
  lookup Order.id orderId db.orders

/-- The status of the order, if it exists. -/
def statusOf (orderId : Nat) (db : Db) : Option OrderStatus :=
  (orderForSaga orderId db).map (·.status)

/-- A conditional update of one order row. -/
def updateOrder
    (condition : Order → Bool) (change : Order → Order) (db : Db) :
    List Order × Db :=
  (updatedRows condition change db.orders,
    { db with orders := updateWhere condition change db.orders })

/-- `PENDING → PAID`; no row when another path settled the order. -/
def markOrderPaid (orderId : Nat) (db : Db) : List Order × Db :=
  updateOrder
    (fun order => order.id == orderId && order.status == .pending)
    (fun order => { order with status := .paid }) db

def setOrderSnapshot (orderId : Nat) (snapshot : Snapshot) (db : Db) :
    List Order × Db :=
  updateOrder (fun order => order.id == orderId)
    (fun order => { order with responseSnapshot := some snapshot }) db

/-- One conditional transition of an order. -/
def markOrder (orderId : Nat) (status expect : OrderStatus) (db : Db) :
    List Order × Db :=
  updateOrder
    (fun order => order.id == orderId && order.status == expect)
    (fun order => { order with status }) db

/-- The `WHERE` clause of `claim_order_items`. -/
def isClaim
    (scheduleId userId : Nat) (seatIds : List Nat) (now : Time)
    (row : ScheduleSeat) : Bool :=
  row.scheduleId == scheduleId && seatIds.contains row.seatId &&
    heldLive userId now row

/-- The items that `claim_order_items` inserts. -/
def claimedItems
    (orderId scheduleId userId : Nat) (seatIds : List Nat)
    (now : Time) (db : Db) : List OrderItem :=
  ((db.scheduleSeats.filter
      (isClaim scheduleId userId seatIds now)).insertionSort
    fun left right => left.seatId ≤ right.seatId).map fun row =>
      { orderId, scheduleSeatId := row.id, price := row.price }

/-- Attach the validly held seats to the order. -/
def claimOrderItems
    (orderId scheduleId userId : Nat) (seatIds : List Nat)
    (now : Time) (db : Db) :
    Except Raised (List OrderItem × Db) :=
  let items := claimedItems orderId scheduleId userId seatIds now db
  let orderItems := db.orderItems ++ items
  if Unique OrderItem.scheduleSeatId orderItems then
    .ok (items, { db with orderItems })
  else
    .error (.integrityError "uq_order_items_schedule_seat_id")

/-- The stock rows of the order's items. -/
def itemSeats (orderId : Nat) (db : Db) : List Nat :=
  (db.orderItems.filter (·.orderId == orderId)).map (·.scheduleSeatId)

/-- The `SET` clause of `book_order_seats`. -/
def book (row : ScheduleSeat) : ScheduleSeat :=
  { row with status := .booked, heldBy := none, holdExpiresAt := none }

/-- `HELD → BOOKED` for the rows of the order's items. -/
def bookOrderSeats (orderId : Nat) (db : Db) : List ScheduleSeat × Db :=
  let mine := itemSeats orderId db
  let condition := fun row : ScheduleSeat =>
    mine.contains row.id && row.status == .held
  (updatedRows condition book db.scheduleSeats,
    { db with scheduleSeats := updateWhere condition book db.scheduleSeats })

/-- The `SET` clause of `restore_order_seats`. -/
def restore (row : ScheduleSeat) : ScheduleSeat :=
  { row with status := .available }

/-- `BOOKED → AVAILABLE` for the rows of the order's items. -/
def restoreOrderSeats (orderId : Nat) (db : Db) : List ScheduleSeat × Db :=
  let mine := itemSeats orderId db
  let condition := fun row : ScheduleSeat =>
    mine.contains row.id && row.status == .booked
  (updatedRows condition restore db.scheduleSeats,
    { db with scheduleSeats := updateWhere condition restore db.scheduleSeats })

/-! ## Outbox and payments -/

def insertOutbox (topic : String) (payload : Payload) (db : Db) : Db :=
  { db with outbox := db.outbox ++ [{ topic, payload }] }

/-- Store the payments when `pg_tid` stays unique. -/
def storePayments (payments : List Payment) (db : Db) : Except Raised Db :=
  if UniqueNullable Payment.pgTid payments then
    .ok { db with payments }
  else
    .error (.integrityError "uq_payments_pg_tid")

/-- Record one payment attempt. -/
def insertPayment
    (orderId : Nat) (status : PayStatus) (amount : Int)
    (pgTid : Option String) (feeSnapshot : Option FeeSnapshot)
    (db : Db) : Except Raised Db :=
  let payment : Payment :=
    { id := db.payments.length + 1
      orderId, pgTid, status, amount, feeSnapshot }
  storePayments (db.payments ++ [payment]) db

/-- The latest approved payment of the order. -/
def approvedPayment (orderId : Nat) (db : Db) : Option Payment :=
  ((db.payments.filter fun payment =>
      payment.orderId == orderId && payment.status == .approved).insertionSort
    fun left right => right.id ≤ left.id).head?

/-- A requested payment of the order. -/
def isRequested (orderId : Nat) (payment : Payment) : Bool :=
  payment.orderId == orderId && payment.status == .requested

/-- `REQUESTED → APPROVED`. -/
def promotePaymentToApproved (orderId : Nat) (pgTid : String) (db : Db) :
    Except Raised (List Payment × Db) := do
  let change := fun payment : Payment =>
    { payment with status := .approved, pgTid := some pgTid }
  let stored ←
    storePayments
      (updateWhere (isRequested orderId) change db.payments) db
  return (updatedRows (isRequested orderId) change db.payments, stored)

/-- `REQUESTED → FAILED`. -/
def failPendingPayments (orderId : Nat) (db : Db) : Db :=
  { db with
    payments :=
      updateWhere (isRequested orderId)
        (fun payment => { payment with status := .failed }) db.payments }

/-- Pending orders older than the limit, oldest first. -/
def unresolvedOrders (olderThanSec : Int) (batch : Nat) (now : Time) (db : Db) :
    List Nat :=
  (((db.orders.filter fun order =>
        order.status == .pending &&
          decide (order.createdAt < now - seconds olderThanSec)).insertionSort
      fun left right => left.createdAt ≤ right.createdAt).take batch).map (·.id)

end Curtain.Queries
