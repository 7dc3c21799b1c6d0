import Curtain.Domain

/-!
# The schema

The rows of the tables and the database, together with the errors that the
statements and the services raise.  Timestamps that no statement reads
(`updated_at`, `paid_at`, `canceled_at`, …) and the surrogate keys of
`order_items` and `outbox` are left out.
-/

namespace Curtain

/-! ## Rows -/

/-- One row of `schedule_seats`: a seat of one schedule. -/
structure ScheduleSeat where
  id : Nat
  scheduleId : Nat
  seatId : Nat
  grade : String
  price : Int
  status : SeatStatus
  heldBy : Option Nat
  holdExpiresAt : Option Time
deriving DecidableEq, Repr

/-- `ck_schedule_seats_hold_shape`. -/
def ScheduleSeat.holdShape (row : ScheduleSeat) : Bool :=
  (row.status == .held && row.heldBy.isSome && row.holdExpiresAt.isSome) ||
    (row.status != .held && row.heldBy.isNone && row.holdExpiresAt.isNone)

/-- The stored answer of a confirmed order. -/
structure Snapshot where
  orderId : Nat
  status : OrderStatus
  scheduleSeatIds : List Nat
deriving DecidableEq, Repr

/-- One row of `orders`; `seatIds` is what the order wants to buy. -/
structure Order where
  id : Nat
  userId : Nat
  scheduleId : Nat
  status : OrderStatus
  seatIds : List Nat
  totalAmount : Int
  idempotencyKey : String
  responseSnapshot : Option Snapshot
  createdAt : Time
deriving DecidableEq, Repr

/-- One row of `order_items`; `scheduleSeatId` is `UNIQUE`. -/
structure OrderItem where
  orderId : Nat
  scheduleSeatId : Nat
  price : Int
deriving DecidableEq, Repr

/-- The stored grounds of a cancellation fee. -/
structure FeeSnapshot where
  ticketAmount : Int
  fee : Int
  refund : Int
  startsAt : Policy.Datetime
deriving DecidableEq, Repr

/-- One row of `payments`; `pgTid` is `UNIQUE` where it is not `NULL`. -/
structure Payment where
  id : Nat
  orderId : Nat
  pgTid : Option String
  status : PayStatus
  amount : Int
  feeSnapshot : Option FeeSnapshot
deriving DecidableEq, Repr

/-- The payloads of the two topics. -/
inductive Payload where
  | paid (orderId : Nat) (seatIds : List Nat)
  | canceled (orderId : Nat) (fee refund : Int)
deriving DecidableEq, Repr

/-- One row of `outbox`. -/
structure Outbox where
  topic : String
  payload : Payload
deriving DecidableEq, Repr

/-- The committed database; `startsAt` is the column of `schedules`. -/
structure Db where
  scheduleSeats : List ScheduleSeat
  orders : List Order
  orderItems : List OrderItem
  payments : List Payment
  outbox : List Outbox
  startsAt : Nat → Policy.Datetime

/-- The range of the `integer` columns. -/
def fitsInteger (value : Int) : Bool :=
  -2147483648 ≤ value && value ≤ 2147483647

/-! ## Errors -/

/-- The `code` of `OrderRejected` and its subclasses. -/
inductive OrderCode where
  | orderRejected
  | holdExpired
  | paymentDeclined
  | paymentUnknown
  | paymentInProgress
  | refundFailed
deriving DecidableEq, Repr

def OrderCode.text : OrderCode → String
  | .orderRejected => "ORDER_REJECTED"
  | .holdExpired => "HOLD_EXPIRED"
  | .paymentDeclined => "PAYMENT_DECLINED"
  | .paymentUnknown => "PAYMENT_UNKNOWN"
  | .paymentInProgress => "PAYMENT_IN_PROGRESS"
  | .refundFailed => "REFUND_FAILED"

/-- What a service call or one of its statements raises. -/
inductive Raised where
  | valueError (message : String)
  | assertionError (message : String)
  | holdRejected (unavailableSeatIds : List Nat)
  | quotaExceeded (unavailableSeatIds : List Nat)
  | orderRejected (code : OrderCode) (message : String) (orderId : Option Nat)
  | cancelClosed (message : String)
  | integrityError (constraint : String)
  | dataError (message : String)
deriving DecidableEq, Repr

/-- `str(exc)`. -/
def Raised.text : Raised → String
  | .valueError message => message
  | .assertionError message => message
  | .holdRejected seatIds => s!"SEAT_TAKEN: 좌석 {seatIds} 선점 실패"
  | .quotaExceeded seatIds => s!"QUOTA_EXCEEDED: 좌석 {seatIds} 선점 실패"
  | .orderRejected code message _ => code.text ++ ": " ++ message
  | .cancelClosed message => message
  | .integrityError constraint =>
      "duplicate key value violates unique constraint " ++ constraint
  | .dataError message => message

/-- Whether an `except HoldExpired` clause catches the error. -/
def Raised.isHoldExpired : Raised → Bool
  | .orderRejected .holdExpired _ _ => true
  | _ => false

end Curtain
