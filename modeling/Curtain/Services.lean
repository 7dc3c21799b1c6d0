import Curtain.Queries

/-!
# The transactions of the services

One definition for each transaction that `hold_service` and `order_service`
commit, as a function of the database it starts from and of its start time.
An error result stands for the rolled-back transaction.  The calls that string
these transactions together, with their gate and gateway round trips, are in
`Curtain.World`.
-/

namespace Curtain

open Queries

/-- `tx`: a transaction commits when its block ends, and an error rolls it back. -/
def tx {Result : Type} (block : Db → Except Raised (Result × Db)) (db : Db) :
    Except Raised Result × Db :=
  match block db with
  | .ok (result, after) => (.ok result, after)
  | .error error => (.error error, db)

/-! ## Holds -/

namespace HoldService

/-- The arguments of `acquire`. -/
structure AcquireRequest where
  scheduleId : Nat
  userId : Nat
  seatIds : List Nat
  holdTtlSec : Option Int := none
  maxSeats : Nat := Policy.maxSeatsPerOrder
deriving DecidableEq, Repr

def AcquireRequest.ttlSec (request : AcquireRequest) : Int :=
  request.holdTtlSec.getD Policy.holdTtlSec

structure HeldSeat where
  seatId : Nat
  grade : String
  price : Int
deriving DecidableEq, Repr

/-- The result of `acquire`. -/
structure Hold where
  scheduleId : Nat
  userId : Nat
  seats : List HeldSeat
  expiresAt : Option Time
deriving DecidableEq, Repr

/-- The checks in front of the gate. -/
def checkAcquire (request : AcquireRequest) : Except Raised Unit :=
  if request.seatIds = [] then
    .error (.valueError "seat_ids 가 비어 있습니다")
  else if ¬ request.seatIds.Nodup then
    .error (.valueError s!"seat_ids 에 중복이 있습니다: {request.seatIds}")
  else if request.maxSeats < request.seatIds.length then
    .error (.quotaExceeded request.seatIds)
  else .ok ()

/-- The part of `acquire` behind the gate. -/
def acquireSeats (request : AcquireRequest) (now : Time) (db : Db) :
    Except Raised (Hold × Db) :=
  let (rows, held) :=
    holdSeats request.scheduleId request.userId request.seatIds
      request.maxSeats request.ttlSec now db
  match rows with
  | [] =>
      let unavailable :=
        findUnavailableSeats request.scheduleId request.seatIds now held
      if unavailable ≠ [] then
        .error (.holdRejected unavailable)
      else
        .error (.quotaExceeded [])
  | first :: _ =>
      if rows.length ≠ request.seatIds.length then
        .error (.assertionError
          s!"부분 선점 발생: 요청 {request.seatIds.length}석 중 {rows.length}석. hold_seats 의 guard 절 확인 필요")
      else
        .ok
          ({ scheduleId := request.scheduleId
             userId := request.userId
             seats :=
               rows.map fun row =>
                 { seatId := row.seatId, grade := row.grade, price := row.price }
             expiresAt := first.holdExpiresAt }, held)

/-- The database part of `release`: the seats that were released. -/
def releaseSeats (scheduleId userId : Nat) (seatIds : List Nat) (db : Db) :
    List Nat × Db :=
  let (rows, released) := releaseHold scheduleId userId seatIds db
  (rows.map (·.seatId), released)

/-- `sweep_expired`: the schedule and the seat of each reclaimed hold. -/
def sweepExpired (batch : Nat) (locked : Nat → Bool) (now : Time) (db : Db) :
    List (Nat × Nat) × Db :=
  let (rows, swept) := sweepExpiredHolds batch locked now db
  (rows.map fun row => (row.scheduleId, row.seatId), swept)

end HoldService

/-! ## Orders -/

namespace OrderService

def rejected (code : OrderCode) (message : String) (orderId : Option Nat) :
    Raised :=
  .orderRejected code message orderId

/-- `_load_order`. -/
def loadOrder (orderId : Nat) (db : Db) : Except Raised Order :=
  match orderForSaga orderId db with
  | some order => .ok order
  | none =>
      .error (rejected .orderRejected s!"주문 {orderId} 이 없습니다" (some orderId))

/-- `_snapshot`. -/
def snapshot (orderId : Nat) (status : OrderStatus) (items : List OrderItem) :
    Snapshot :=
  { orderId
    status
    scheduleSeatIds :=
      (items.map (·.scheduleSeatId)).insertionSort (· ≤ ·) }

/-- The claim of the seats, with its `except IntegrityError` clause. -/
def claimOrExpire (order : Order) (now : Time) (db : Db) :
    Except Raised (List OrderItem × Db) :=
  match
    claimOrderItems order.id order.scheduleId order.userId order.seatIds now db
  with
  | .ok claimed => .ok claimed
  | .error error =>
      .error (rejected .holdExpired
        ("좌석이 이미 다른 주문에 확정돼 있습니다: " ++ error.text) (some order.id))

/-- The statements of `confirm_paid` after the seats are booked. -/
def recordApproval
    (order : Order) (items : List OrderItem) (pgTid : String) (db : Db) :
    Except Raised Db := do
  let (promoted, db) ← promotePaymentToApproved order.id pgTid db
  let db ←
    if promoted = [] then
      insertPayment order.id .approved order.totalAmount (some pgTid) none db
    else .ok db
  let db := insertOutbox "order.paid" (.paid order.id order.seatIds) db
  return (setOrderSnapshot order.id (snapshot order.id .paid items) db).2

/--
The confirmation that the synchronous answer, the webhook and the reconciler
share.  The result says whether this call confirmed the order.
-/
def confirmPaid (orderId : Nat) (pgTid : String) (now : Time) (db : Db) :
    Except Raised (Bool × Db) := do
  let order ← loadOrder orderId db
  let (claimed, marked) := markOrderPaid orderId db
  if claimed = [] then
    return (false, db)
  else if order.seatIds = [] then
    .error (rejected .holdExpired "확정할 좌석이 없는 주문입니다" (some orderId))
  else
    let (items, withItems) ← claimOrExpire order now marked
    if items.length ≠ order.seatIds.length then
      .error (rejected .holdExpired
        s!"요청 {order.seatIds.length}석 중 {items.length}석만 유효합니다 (hold 만료 또는 소유자 불일치)"
        (some orderId))
    else
      let (booked, withSeats) := bookOrderSeats orderId withItems
      if booked.length ≠ order.seatIds.length then
        .error (rejected .holdExpired
          s!"{order.seatIds.length}석 중 {booked.length}석만 BOOKED 로 전이됐습니다"
          (some orderId))
      else
        let confirmed ← recordApproval order items pgTid withSeats
        return (true, confirmed)

/-- The arguments of `place`. -/
structure PlaceRequest where
  scheduleId : Nat
  userId : Nat
  seatIds : List Nat
  idempotencyKey : String
  minHoldRemainingSec : Int := Policy.minHoldRemainingForPaymentSec
deriving DecidableEq, Repr

/-- `sorted(set(seat_ids))`. -/
def PlaceRequest.wanted (request : PlaceRequest) : List Nat :=
  request.seatIds.dedup.insertionSort (· ≤ ·)

/-- The first statements of `place`: the pending order and its payment attempt. -/
def openPending (request : PlaceRequest) (now : Time) (db : Db) :
    Except Raised (Option Order × Db) := do
  let (opened, db) ←
    openOrder request.scheduleId request.userId request.wanted
      request.idempotencyKey request.minHoldRemainingSec now db
  match opened with
  | none => return (none, db)
  | some order =>
      let db ←
        insertPayment order.id .requested order.totalAmount none none db
      return (some order, db)

/-- `_existing_order_id`. -/
def existingOrderId (idempotencyKey : String) (db : Db) : Option Nat :=
  (orderByIdempotencyKey idempotencyKey db).map (·.id)

/-- `{span.total_seconds():.0f}`, which rounds halves to even. -/
def wholeSeconds (span : Time) : Int :=
  let whole := span / 1000
  let rest := span % 1000
  if 500 < rest ∨ (rest = 500 ∧ whole % 2 = 1) then whole + 1 else whole

/-- `_explain_hold`. -/
def explainHold (request : PlaceRequest) (now : Time) (db : Db) : String :=
  let held :=
    heldSeatsForOrder request.scheduleId request.userId request.seatIds now db
  let wanted := request.seatIds.dedup.length
  if held.length ≠ wanted then
    s!"요청 {wanted}석 중 유효한 hold 는 {held.length}석입니다"
  else
    let remaining :=
      (held.filterMap (·.holdExpiresAt)).foldr
        (fun expiresAt least => min (expiresAt - now) least)
        ((held.head?.bind (·.holdExpiresAt)).getD now - now)
    s!"hold 잔여가 {wholeSeconds remaining}초입니다. 승인 왕복 중에 만료될 수 있으므로 요청 자체를 거절합니다"

/-- `_close_unpaid`. -/
def closeUnpaid (orderId : Nat) (status : OrderStatus) (db : Db) :
    Except Raised Db := do
  let order ← loadOrder orderId db
  let (closed, marked) := markOrder orderId status .pending db
  if closed = [] then
    return db
  else
    let failed := failPendingPayments orderId marked
    if order.seatIds = [] then
      return failed
    else
      return (releaseHold order.scheduleId order.userId order.seatIds failed).2

/-- One attempt of the gateway; `pgTid` means something when it was approved. -/
structure PayAttempt where
  result : PayResult
  pgTid : Option String := none
deriving DecidableEq, Repr

def PayAttempt.approved (attempt : PayAttempt) : Bool :=
  attempt.result == .approved

/-- The second transaction of `_refund_and_fail`. -/
def recordRefund (order : Order) (total : Int) (attempt : PayAttempt) (db : Db) :
    Except Raised Db := do
  let db ←
    insertPayment order.id (if attempt.approved then .refunded else .failed)
      total attempt.pgTid none db
  let failed := failPendingPayments order.id db
  if attempt.approved then
    let (_, marked) := markOrder order.id .failed .pending failed
    if order.seatIds = [] then
      return marked
    else
      return (releaseHold order.scheduleId order.userId order.seatIds marked).2
  else
    return failed

/-- What `cancel` has worked out before it asks for the refund. -/
structure Cancellation where
  order : Order
  pgTid : String
  fee : Int
deriving DecidableEq, Repr

def Cancellation.refundAmount (cancellation : Cancellation) : Int :=
  cancellation.order.totalAmount - cancellation.fee

/-- The first read of `cancel`, up to the refund request. -/
def prepareCancel (orderId : Nat) (now : Policy.Datetime) (db : Db) :
    Except Raised Cancellation := do
  let order ← loadOrder orderId db
  if order.status ≠ .paid then
    .error (rejected .orderRejected
      s!"확정된 주문만 취소할 수 있습니다 (현재 {order.status.text})" (some orderId))
  else
    match approvedPayment orderId db with
    | none =>
        .error (rejected .orderRejected "승인된 결제가 없습니다" (some orderId))
    | some approved =>
        match
          Policy.cancelFee order.totalAmount now (db.startsAt order.scheduleId)
        with
        | .error message => .error (.cancelClosed message)
        | .ok fee =>
            -- `str(approved["pg_tid"])` spells a missing number `None`.
            return { order, pgTid := approved.pgTid.getD "None", fee }

/-- `_fee_snapshot`. -/
def feeSnapshot (cancellation : Cancellation) (startsAt : Policy.Datetime) :
    FeeSnapshot :=
  { ticketAmount := cancellation.order.totalAmount
    fee := cancellation.fee
    refund := cancellation.refundAmount
    startsAt }

/-- The transaction of `cancel` after a refund that was not approved. -/
def recordFailedCancel (cancellation : Cancellation) (db : Db) :
    Except Raised Db :=
  let order := cancellation.order
  insertPayment order.id .failed cancellation.refundAmount none
    (some (feeSnapshot cancellation (db.startsAt order.scheduleId))) db

/-- The transaction of `cancel` after an approved refund. -/
def closeCanceled (cancellation : Cancellation) (attempt : PayAttempt) (db : Db) :
    Except Raised Db := do
  let order := cancellation.order
  let (closed, marked) := markOrder order.id .canceled .paid db
  if closed = [] then
    return db
  else
    let refunded ←
      insertPayment order.id .refunded cancellation.refundAmount attempt.pgTid
        (some (feeSnapshot cancellation (db.startsAt order.scheduleId))) marked
    let restored := (restoreOrderSeats order.id refunded).2
    return insertOutbox "order.canceled"
      (.canceled order.id cancellation.fee cancellation.refundAmount) restored

/-- The result of `place`. -/
structure PlacedOrder where
  orderId : Nat
  status : OrderStatus
  snapshot : Snapshot
  replayed : Bool
deriving DecidableEq, Repr

/-- The result of `cancel`. -/
structure CanceledOrder where
  orderId : Nat
  fee : Int
  refunded : Bool
deriving DecidableEq, Repr

/-- `_REPLAY_ATTEMPTS`. -/
def replayAttempts : Nat := 40

/-- One round of `_placed`: an answer, an error, or another round. -/
def pollPlaced (orderId : Nat) (replayed : Bool) (db : Db) :
    Except Raised (Option PlacedOrder) := do
  let order ← loadOrder orderId db
  match order.responseSnapshot with
  | some snapshot =>
      return some { orderId, status := order.status, snapshot, replayed }
  | none =>
      if order.status ≠ .pending then
        .error (rejected .orderRejected
          s!"주문이 {order.status.text} 상태로 종료됐습니다" (some orderId))
      else
        return none

end OrderService

end Curtain
