import Curtain.Transactions
import Curtain.World
import Curtain.Lib.Locks

/-!
# Transactions statement by statement

`Curtain.World` commits a transaction in one step.  Here its statements are
steps of their own, as PostgreSQL runs them under `READ COMMITTED`.  `now()` is
the start of the transaction.  A statement reads the rows that are committed
when it starts.  `SELECT … FOR UPDATE` and `UPDATE` then lock the rows they
found one by one; they wait for a row that another transaction has locked and
check their `WHERE` clause again on its latest version.  The foreign-key check
of an `INSERT` waits as well, but then it only looks whether the row exists.
What a transaction has written is seen by others once it has committed, and its
locks go with its end.

No statement reads what the payments and the outbox hold on its way to a seat,
so the statements on these tables run together with the commit.
-/

namespace Curtain

open Queries HoldService OrderService

/-! ## Locks -/

/-- The strengths of row locks; locks that are not on rows are exclusive. -/
inductive LockMode where
  | forKeyShare
  | forNoKeyUpdate
  | forUpdate
deriving DecidableEq, Repr

def LockMode.conflicts : LockMode → LockMode → Bool
  | .forKeyShare, .forKeyShare => false
  | .forKeyShare, .forNoKeyUpdate => false
  | .forNoKeyUpdate, .forKeyShare => false
  | _, _ => true

theorem LockMode.conflicts_comm (left right : LockMode) :
    left.conflicts right = right.conflicts left := by
  cases left <;> cases right <;> rfl

/--
What transactions lock: an advisory lock, a row of `schedule_seats` or of
`orders`, and an entry in the unique index of `order_items`.
-/
inductive Resource where
  | quota (key : Int)
  | seat (id : Nat)
  | order (id : Nat)
  | item (scheduleSeatId : Nat)
deriving DecidableEq, Repr

/-- The locks that transactions in progress hold. -/
abbrev LockTable := List (Locks.Lock Nat Resource LockMode)

/-- `f"curtain.hold:{schedule_id}:{user_id}"`. -/
def quotaKey (scheduleId userId : Nat) : String :=
  s!"curtain.hold:{scheduleId}:{userId}"

/-! ## Statements that write seats -/

/-- The transaction in which `release_hold` runs. -/
inductive Releasing where
  | release
  | closeUnpaid (orderId : Nat) (status : OrderStatus)
  | recordRefund (order : Order) (total : Int) (attempt : PayAttempt)
deriving DecidableEq, Repr

/-- The statement, with what its transaction needs to end. -/
inductive SeatStatement where
  | holdSeats (request : AcquireRequest)
  | releaseHold (scheduleId userId : Nat) (seatIds : List Nat)
      (within : Releasing)
  | sweepExpiredHolds (batch : Nat)
  | bookOrderSeats (order : Order) (pgTid : String) (items : List OrderItem)
  | restoreOrderSeats (cancellation : Cancellation) (attempt : PayAttempt)
deriving DecidableEq, Repr

/--
A statement that is locking its rows: what its subqueries have read, the rows
of its snapshot that are still to be locked, and those that are locked and
still meet its `WHERE` clause.
-/
structure Scan where
  mine : List Nat
  owned : Nat
  rest : List Nat
  taken : List Nat
deriving DecidableEq, Repr

namespace SeatStatement

/-- The strength in which it locks its rows. -/
def mode : SeatStatement → LockMode
  | .holdSeats _ => .forUpdate
  | .sweepExpiredHolds _ => .forUpdate
  | _ => .forNoKeyUpdate

/-- `SKIP LOCKED`. -/
def skipsLocked : SeatStatement → Bool
  | .sweepExpiredHolds _ => true
  | _ => false

/-- The items its transaction has inserted before. -/
def items : SeatStatement → List OrderItem
  | .bookOrderSeats _ _ items => items
  | _ => []

/-- Its subquery on `order_items`. -/
def mine (db : Db) : SeatStatement → List Nat
  | .bookOrderSeats order _ items =>
      itemSeats order.id { db with orderItems := db.orderItems ++ items }
  | .restoreOrderSeats cancellation _ => itemSeats cancellation.order.id db
  | _ => []

/-- Its subquery `owned`. -/
def owned (now : Time) (db : Db) : SeatStatement → Nat
  | .holdSeats request =>
      Queries.owned request.scheduleId request.userId now db
  | _ => 0

/-- Its `WHERE` clause. -/
def condition (now : Time) (mine : List Nat) :
    SeatStatement → ScheduleSeat → Bool
  | .holdSeats request => isTarget request.scheduleId request.seatIds now
  | .releaseHold scheduleId userId seatIds _ =>
      isHoldOf scheduleId userId seatIds
  | .sweepExpiredHolds _ => isExpiredHold now
  | .bookOrderSeats .. => fun row =>
      mine.contains row.id && row.status == .held
  | .restoreOrderSeats .. => fun row =>
      mine.contains row.id && row.status == .booked

/-- Its `SET` clause. -/
def change (now : Time) : SeatStatement → ScheduleSeat → ScheduleSeat
  | .holdSeats request =>
      hold request.userId (now + seconds request.ttlSec)
  | .releaseHold .. => free
  | .sweepExpiredHolds _ => free
  | .bookOrderSeats .. => book
  | .restoreOrderSeats .. => restore

/-- The rows of its snapshot, in the order in which it locks them. -/
def candidates (now : Time) (mine : List Nat) (db : Db) :
    SeatStatement → List ScheduleSeat
  | .holdSeats request => target request.scheduleId request.seatIds now db
  | .sweepExpiredHolds _ => expiredHolds (fun _ => false) now db
  | statement => db.scheduleSeats.filter (statement.condition now mine)

/-- The snapshot has the rows that meet the `WHERE` clause. -/
theorem candidates_perm (now : Time) (mine : List Nat) (db : Db)
    (statement : SeatStatement) :
    (statement.candidates now mine db).Perm
      (db.scheduleSeats.filter (statement.condition now mine)) := by
  cases statement with
  | holdSeats request => exact List.perm_insertionSort _ _
  | sweepExpiredHolds batch =>
      simp only [candidates, expiredHolds, Bool.not_false, Bool.and_true]
      exact List.perm_insertionSort _ _
  | releaseHold | bookOrderSeats | restoreOrderSeats => exact .refl _

/-- The statement has read its snapshot and locked nothing yet. -/
def scan (now : Time) (db : Db) (statement : SeatStatement) : Scan :=
  let mine := statement.mine db
  { mine
    owned := statement.owned now db
    rest := (statement.candidates now mine db).map (·.id)
    taken := [] }

/-- `LIMIT`. -/
def full (scan : Scan) : SeatStatement → Bool
  | .sweepExpiredHolds batch => decide (batch ≤ scan.taken.length)
  | _ => false

/-- The latest version of the row meets the `WHERE` clause. -/
def rechecks (now : Time) (mine : List Nat) (db : Db) (id : Nat)
    (statement : SeatStatement) : Bool :=
  db.scheduleSeats.any fun row =>
    row.id == id && statement.condition now mine row

/-- The rows that are written, or none where the transaction raises. -/
def rows (scan : Scan) : SeatStatement → Option (List Nat)
  | .holdSeats request =>
      let rows :=
        if guard scan.taken.length scan.owned request.seatIds.length
            request.maxSeats then scan.taken
        else []
      if rows = [] ∨ rows.length ≠ request.seatIds.length then none
      else some rows
  | .bookOrderSeats order _ _ =>
      if scan.taken.length ≠ order.seatIds.length then none
      else some scan.taken
  | _ => some scan.taken

/-- The rows in their new versions. -/
def write (now : Time) (rows : List Nat) (db : Db)
    (statement : SeatStatement) : Db :=
  db.updateSeats (fun row => rows.contains row.id) (statement.change now)

/-- What the whole transaction has written when it commits, or its error. -/
def commit (now : Time) (rows : List Nat) (db : Db) :
    SeatStatement → Except Raised Db
  | .holdSeats request => .ok ((holdSeats request).write now rows db)
  | .sweepExpiredHolds batch =>
      .ok ((sweepExpiredHolds batch).write now rows db)
  | .releaseHold scheduleId userId seatIds .release =>
      .ok ((releaseHold scheduleId userId seatIds .release).write now rows db)
  | .releaseHold scheduleId userId seatIds (.closeUnpaid orderId status) =>
      .ok
        ((releaseHold scheduleId userId seatIds
            (.closeUnpaid orderId status)).write now rows
          (failPendingPayments orderId
            (markOrder orderId status .pending db).2))
  | .releaseHold scheduleId userId seatIds
      (.recordRefund order total attempt) => do
      let db ←
        insertPayment order.id (if attempt.approved then .refunded else .failed)
          total attempt.pgTid none db
      let failed := failPendingPayments order.id db
      -- Without an approved refund `rows` is empty.
      return (releaseHold scheduleId userId seatIds
          (.recordRefund order total attempt)).write now rows
        (if attempt.approved then (markOrder order.id .failed .pending failed).2
        else failed)
  | .bookOrderSeats order pgTid items =>
      recordApproval order items pgTid
        ((bookOrderSeats order pgTid items).write now rows
          { (markOrderPaid order.id db).2 with
            orderItems := db.orderItems ++ items })
  | .restoreOrderSeats cancellation attempt => do
      let order := cancellation.order
      let (_, marked) := markOrder order.id .canceled .paid db
      let refunded ←
        insertPayment order.id .refunded cancellation.refundAmount attempt.pgTid
          (some (feeSnapshot cancellation (db.startsAt order.scheduleId))) marked
      return insertOutbox "order.canceled"
        (.canceled order.id cancellation.fee cancellation.refundAmount)
        ((restoreOrderSeats cancellation attempt).write now rows refunded)

end SeatStatement

/-! ## Transactions in progress -/

/-- The transactions that write seats. -/
inductive Work where
  | acquire (request : AcquireRequest)
  | release (scheduleId userId : Nat) (seatIds : List Nat)
  | sweepExpired (batch : Nat)
  | confirmPaid (orderId : Nat) (pgTid : String)
  | closeUnpaid (orderId : Nat) (status : OrderStatus)
  | recordRefund (orderId : Nat) (total : Int) (attempt : PayAttempt)
  | closeCanceled (cancellation : Cancellation) (attempt : PayAttempt)
deriving DecidableEq, Repr

/--
Where a transaction stands.  The columns that `_load_order` reads for later
statements never change, so the read is one step with the conditional update of
the order that follows it.
-/
inductive Stage where
  | quota (request : AcquireRequest)
  | confirming (orderId : Nat) (pgTid : String)
  | claiming (order : Order) (pgTid : String)
  | inserting (order : Order) (pgTid : String) (items rest : List OrderItem)
  | referencing (order : Order) (pgTid : String) (items rest : List OrderItem)
  | closing (orderId : Nat) (status : OrderStatus)
  | refunding (orderId : Nat) (total : Int) (attempt : PayAttempt)
  | canceling (cancellation : Cancellation) (attempt : PayAttempt)
  | selecting (statement : SeatStatement)
  | locking (statement : SeatStatement) (scan : Scan)
  | writing (statement : SeatStatement) (rows : List Nat)
deriving DecidableEq, Repr

/-- `acquire` checks its arguments first; an unpaid order is only closed for good. -/
def Work.admissible : Work → Bool
  | .acquire request => (checkAcquire request).isOk
  | .closeUnpaid _ status => status == .failed || status == .canceled
  | _ => true

/-- The whole transaction in one step, as the services define it. -/
def Work.run (locked : Nat → Bool) (now : Time) (db : Db) :
    Work → Except Raised Db
  | .acquire request => (acquireSeats request now db).map Prod.snd
  | .release scheduleId userId seatIds =>
      .ok (releaseSeats scheduleId userId seatIds db).2
  | .sweepExpired batch =>
      .ok (HoldService.sweepExpired batch locked now db).2
  | .confirmPaid orderId pgTid =>
      (OrderService.confirmPaid orderId pgTid now db).map Prod.snd
  | .closeUnpaid orderId status => OrderService.closeUnpaid orderId status db
  | .recordRefund orderId total attempt => do
      let order ← loadOrder orderId db
      OrderService.recordRefund order total attempt db
  | .closeCanceled cancellation attempt =>
      OrderService.closeCanceled cancellation attempt db

/-- The first statement of the transaction. -/
def Work.first : Work → Stage
  | .acquire request => .quota request
  | .release scheduleId userId seatIds =>
      .selecting (.releaseHold scheduleId userId seatIds .release)
  | .sweepExpired batch => .selecting (.sweepExpiredHolds batch)
  | .confirmPaid orderId pgTid => .confirming orderId pgTid
  | .closeUnpaid orderId status => .closing orderId status
  | .recordRefund orderId total attempt => .refunding orderId total attempt
  | .closeCanceled cancellation attempt => .canceling cancellation attempt

/-- The next stage, a stage behind a lock, or the end without a write. -/
inductive Next where
  | stage (stage : Stage)
  | grant (resource : Resource) (mode : LockMode) (stage : Stage)
  | ended

namespace Stage

/-- `release_hold` for the seats of an order, if it names any. -/
def releasing (order : Order) (within : Releasing) : Stage :=
  let statement :=
    SeatStatement.releaseHold order.scheduleId order.userId order.seatIds within
  if order.seatIds = [] then .writing statement [] else .selecting statement

/-- The statement has locked its rows. -/
def concluded (statement : SeatStatement) (scan : Scan) : Next :=
  match statement.rows scan with
  | some rows => .stage (.writing statement rows)
  | none => .ended

/-- The next step of a transaction; none where only its commit is left. -/
def next
    (hashtext : String → Int) (available : Resource → LockMode → Bool)
    (now : Time) (db : Db) : Stage → Option Next
  | .quota request =>
      some (.grant
        (.quota (hashtext (quotaKey request.scheduleId request.userId)))
        .forUpdate (.selecting (.holdSeats request)))
  | .confirming orderId pgTid =>
      match loadOrder orderId db with
      | .error _ => some .ended
      | .ok order =>
          if order.status ≠ .pending ∨ order.seatIds = [] then some .ended
          else
            some (.grant (.order order.id) .forNoKeyUpdate
              (.claiming order pgTid))
  | .claiming order pgTid =>
      let items :=
        claimedItems order.id order.scheduleId order.userId order.seatIds now db
      some (.stage (.inserting order pgTid items items))
  | .inserting order pgTid items [] =>
      some (.stage (.referencing order pgTid items items))
  | .inserting order pgTid items (item :: rest) =>
      -- An entry of another transaction in progress is waited for.
      if db.orderItems.any (·.scheduleSeatId == item.scheduleSeatId) then
        some .ended
      else
        some (.grant (.item item.scheduleSeatId) .forUpdate
          (.inserting order pgTid items rest))
  | .referencing order pgTid items [] =>
      if items.length ≠ order.seatIds.length then some .ended
      else some (.stage (.selecting (.bookOrderSeats order pgTid items)))
  | .referencing order pgTid items (item :: rest) =>
      if db.scheduleSeats.any (·.id == item.scheduleSeatId) then
        some (.grant (.seat item.scheduleSeatId) .forKeyShare
          (.referencing order pgTid items rest))
      else some .ended
  | .closing orderId status =>
      match loadOrder orderId db with
      | .error _ => some .ended
      | .ok order =>
          if order.status ≠ .pending then some .ended
          else
            some (.grant (.order order.id) .forNoKeyUpdate
              (releasing order (.closeUnpaid order.id status)))
  | .refunding orderId total attempt =>
      match loadOrder orderId db with
      | .error _ => some .ended
      | .ok order =>
          if attempt.approved then
            let rest := releasing order (.recordRefund order total attempt)
            if order.status = .pending then
              some (.grant (.order order.id) .forNoKeyUpdate rest)
            else some (.stage rest)
          else
            some (.stage (.writing
              (.releaseHold order.scheduleId order.userId order.seatIds
                (.recordRefund order total attempt)) []))
  | .canceling cancellation attempt =>
      if statusOf cancellation.order.id db = some .paid then
        some (.grant (.order cancellation.order.id) .forNoKeyUpdate
          (.selecting (.restoreOrderSeats cancellation attempt)))
      else some .ended
  | .selecting statement =>
      some (.stage (.locking statement (statement.scan now db)))
  | .locking statement scan =>
      match scan.rest with
      | [] => some (concluded statement scan)
      | id :: rest =>
          if statement.full scan then some (concluded statement scan)
          else if statement.skipsLocked && !available (.seat id) statement.mode
          then some (.stage (.locking statement { scan with rest }))
          else
            let taken :=
              if statement.rechecks now scan.mine db id then scan.taken ++ [id]
              else scan.taken
            some (.grant (.seat id) statement.mode
              (.locking statement { scan with rest, taken }))
  | .writing _ _ => none

end Stage

/-- A transaction in progress. -/
structure Session where
  startedAt : Time
  stage : Stage
deriving DecidableEq, Repr

/-- The committed database, the transactions in progress and their locks. -/
structure Server where
  db : Db
  clock : Time
  sessions : Nat → Option Session
  locks : LockTable

namespace Server

/--
`openOrder` is the first transaction of `place`, which writes no seat and waits
for none.  The others are steps of the session they name.
-/
inductive Action where
  | tick (elapsed : Nat)
  | openOrder (request : PlaceRequest)
  | begin (session : Nat) (work : Work)
  | advance (session : Nat)
  | commit (session : Nat)
  | rollback (session : Nat)
deriving DecidableEq, Repr

/-- The session may lock the resource without waiting. -/
def available (server : Server) (session : Nat)
    (resource : Resource) (mode : LockMode) : Bool :=
  Locks.available LockMode.conflicts server.locks session resource mode

def put (server : Server) (session : Nat) (current : Session) : Server :=
  { server with sessions := Function.update server.sessions session (some current) }

/-- The end of a transaction. -/
def finish (server : Server) (session : Nat) : Server :=
  { server with
    sessions := Function.update server.sessions session none
    locks := Locks.release server.locks session }

/-- A session goes on, unless it has to wait. -/
def proceed (server : Server) (session : Nat) (current : Session) :
    Next → Option Server
  | .stage stage => some (server.put session { current with stage })
  | .grant resource mode stage =>
      if server.available session resource mode then
        some
          { server.put session { current with stage } with
            locks := { session, resource, mode } :: server.locks }
      else none
  | .ended => some (server.finish session)

/-- A transaction commits what it has written, or fails at its last statements. -/
def committed (server : Server) (session : Nat) (current : Session) :
    Option Server :=
  match current.stage with
  | .writing statement rows =>
      match statement.commit current.startedAt rows server.db with
      | .ok after => some { server.finish session with db := after }
      | .error _ => some (server.finish session)
  | _ => none

/-- One step; `hashtext` is the hash of the advisory lock. -/
def step (hashtext : String → Int) (server : Server) :
    Action → Option Server
  | .tick elapsed => some { server with clock := server.clock + elapsed }
  | .openOrder request =>
      match openPending request server.clock server.db with
      | .ok (some _, after) => some { server with db := after }
      | _ => none
  | .begin session work =>
      if (server.sessions session).isNone && work.admissible then
        some
          (server.put session { startedAt := server.clock, stage := work.first })
      else none
  | .advance session =>
      (server.sessions session).bind fun current =>
        (current.stage.next hashtext (server.available session)
          current.startedAt server.db).bind (server.proceed session current)
  | .commit session => (server.sessions session).bind (server.committed session)
  | .rollback session =>
      if (server.sessions session).isSome then some (server.finish session)
      else none

/-- The server before the first transaction. -/
def initial
    (inventory : Inventory) (startsAt : Nat → Policy.Datetime) (clock : Time) :
    Server where
  db := (World.initial inventory startsAt clock).db
  clock := clock
  sessions := fun _ => none
  locks := []

/-! ### A hall with one seat -/

/-- The hall at time zero, a hundred days before its show. -/
def oneSeat : Server :=
  initial .oneSeat (fun _ => { instant := seconds 8640000, offset := 0 }) 0

/-- A session performs so many steps. -/
def Action.advances (session count : Nat) : List Action :=
  List.replicate count (.advance session)

/-- A session begins to claim the seat for a user, up to its commit. -/
def Action.claim (session userId : Nat) : List Action :=
  .begin session (.acquire { scheduleId := 1, userId, seatIds := [1] }) ::
    Action.advances session 4

/-- The user holds the seat and has opened an order for it. -/
def Action.order (session userId : Nat) : List Action :=
  Action.claim session userId ++
    [.commit session,
     .openOrder
      { scheduleId := 1, userId, seatIds := [1], idempotencyKey := "key" }]

end Server

end Curtain
