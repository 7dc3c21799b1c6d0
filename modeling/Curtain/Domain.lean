/-!
# The domain vocabulary

Seat, order and payment states, the three-valued result of a payment attempt,
and the policy constants with the cancellation fee.  Nothing here knows the
database, the gate or the payment gateway.
-/

namespace Curtain

/-- An instant, in milliseconds. -/
abbrev Time := Int

/-- Whole seconds as a span of time. -/
def seconds (count : Int) : Time :=
  count * 1000

/-! ## Seats, orders, payments -/

/-- The `seat_status` enumeration. -/
inductive SeatStatus where
  | available
  | held
  | booked
deriving DecidableEq, Repr

/-- The spelling of a seat status in the database and in a seat map. -/
def SeatStatus.text : SeatStatus → String
  | .available => "AVAILABLE"
  | .held => "HELD"
  | .booked => "BOOKED"

namespace SeatStatus

/-- `ALLOWED` of the seats. -/
def allowed : SeatStatus → List SeatStatus
  | available => [held]
  | held => [booked, available]
  | booked => [available]

def canTransition (source destination : SeatStatus) : Bool :=
  (allowed source).contains destination

def isClaimable (status : SeatStatus) (holdExpired : Bool) : Bool :=
  if status = available then true
  else status == held && holdExpired

end SeatStatus

/-- The `order_status` enumeration. -/
inductive OrderStatus where
  | pending
  | paid
  | canceled
  | failed
deriving DecidableEq, Repr

namespace OrderStatus

/-- `ALLOWED` of the orders. -/
def allowed : OrderStatus → List OrderStatus
  | pending => [paid, failed, canceled]
  | paid => [canceled]
  | canceled => []
  | failed => []

def canTransition (source destination : OrderStatus) : Bool :=
  (allowed source).contains destination

def isTerminal (status : OrderStatus) : Bool :=
  (allowed status).isEmpty

end OrderStatus

/-- The spelling of an order status in the database and in messages. -/
def OrderStatus.text : OrderStatus → String
  | .pending => "PENDING"
  | .paid => "PAID"
  | .canceled => "CANCELED"
  | .failed => "FAILED"

/-- The `pay_status` enumeration. -/
inductive PayStatus where
  | requested
  | approved
  | failed
  | refunded
deriving DecidableEq, Repr

/-- The result of an approval, an inquiry or a refund. -/
inductive PayResult where
  | approved
  | declined
  | unknown
deriving DecidableEq, Repr

/-- Whether this result alone may settle an order. -/
def PayResult.isConclusive (result : PayResult) : Bool :=
  result != .unknown

def PayResult.text : PayResult → String
  | .approved => "APPROVED"
  | .declined => "DECLINED"
  | .unknown => "UNKNOWN"

/-! ## Policy -/

namespace Policy

/-- Seconds a hold lasts. -/
def holdTtlSec : Int := 420

/-- Seconds a gate key lasts when the hold lasts `holdTtlSec`. -/
def seatGateTtlSec : Int := 410

def maxSeatsPerOrder : Nat := 4

/-- Seconds a seat map stays in the cache. -/
def seatmapCacheTtlSec : Int := 3

/-- Seconds after which the reconciler asks about a pending order. -/
def paymentPendingLimitSec : Int := 300

/-- Seconds a hold must still last for an approval to be requested. -/
def minHoldRemainingForPaymentSec : Int := 60

/-- A timezone-aware date-time: the instant and the offset it is written in. -/
structure Datetime where
  instant : Time
  offset : Time
deriving DecidableEq, Repr

/-- The local calendar date, counted in days. -/
def Datetime.date (moment : Datetime) : Int :=
  (moment.instant + moment.offset) / 86400000

/-- Days left until the show, counted by calendar dates. -/
def daysUntilShow (now startsAt : Datetime) : Int :=
  startsAt.date - now.date

/-- Lower bound of the days left, and the rate in hundredths. -/
def cancelFeeTiers : List (Int × Int) :=
  [(8, 0), (3, 10), (1, 20)]

/-- `{remaining:+d}`. -/
def signed (number : Int) : String :=
  if 0 ≤ number then "+" ++ toString number else toString number

/-- The cancellation fee, or the message of `CancelClosed`. -/
def cancelFee (ticketAmount : Int) (now startsAt : Datetime) :
    Except String Int :=
  let remaining := daysUntilShow now startsAt
  if remaining < 1 then
    .error ("관람일 당일 이후로는 취소할 수 없습니다 (D" ++ signed remaining ++ ")")
  else
    match cancelFeeTiers.find? fun tier => tier.1 ≤ remaining with
    | some (_, rate) => .ok ((ticketAmount * rate).tdiv 100)
    | none =>
        .error ("수수료 구간을 찾을 수 없습니다 (D" ++ signed remaining ++ ")")

end Policy

end Curtain
