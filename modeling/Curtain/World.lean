import Curtain.Gate
import Curtain.Services
import Curtain.Lib.Transition

/-!
# Calls in progress

The service calls run concurrently.  A call is a sequence of transactions,
gate scripts and gateway requests, and other calls may take any number of
steps between two of them.  `World.step` performs one such step: one committed
transaction, one script, one request leaving or one answer arriving.

The payment gateway is part of the world through its two ledgers.  It may
execute a request at any moment while the request is in flight, and the answer
that arrives is a separate step; `World.truthful` states the contract of the
gateway's answers, which the theorems that need it assume.
-/

namespace Curtain

open HoldService OrderService

/-! ## Stages of the calls -/

/--
The part of a saga that settles an order after a conclusive answer.  `place`
and `reconcile` share it.  A refund in flight remembers the number under which
the gateway has executed it.
-/
inductive Settling where
  | confirming (orderId : Nat) (pgTid : String) (amount : Option Int)
  | closing (orderId : Nat) (status : OrderStatus)
  | compensating (orderId : Nat) (pgTid : String) (amount : Option Int)
      (why : Raised)
  | refunding (order : Order) (pgTid : String) (total : Int) (why : Raised)
      (executed : Option String)
  | recording (order : Order) (total : Int) (why : Raised)
      (attempt : PayAttempt)

/--
`opening` and `lookingUp` are the statements of one transaction, which began at
`startedAt`; the second one reads what was committed in the meantime.
-/
inductive PlaceStage where
  | opening
  | lookingUp (startedAt : Time)
  | approving (orderId : Nat) (amount : Int)
  | settling (stage : Settling)
  | polling (orderId attempts : Nat) (replayed : Bool)

inductive ReconcileStage where
  | inquiring (orderId : Nat)
  | settling (stage : Settling)

inductive CancelStage where
  | refunding (executed : Option String)
  | failing (result : PayResult)
  | closing (attempt : PayAttempt)

/-- `gated` says whether the gate was taken or passed over. -/
inductive AcquireStage where
  | gating (attempts : Nat)
  | holding (gated : Bool)
  | ungating (error : Raised)

/-- A call in progress. -/
inductive Call where
  | acquiring (request : AcquireRequest) (stage : AcquireStage)
  | releasing (scheduleId userId : Nat) (released : List Nat)
  | placing (request : PlaceRequest) (stage : PlaceStage)
  | reconciling (rest confirmed : List Nat) (stage : ReconcileStage)
  | canceling (cancellation : Cancellation) (stage : CancelStage)

/-- What a call has under way with the payment of one order. -/
inductive Task where
  | approving (orderId : Nat) (amount : Int)
  | inquiring (orderId : Nat)
  | settling (stage : Settling)
  | canceling (cancellation : Cancellation) (stage : CancelStage)

def Call.task? : Call → Option Task
  | .placing _ (.approving orderId amount) => some (.approving orderId amount)
  | .placing _ (.settling stage) => some (.settling stage)
  | .reconciling _ _ (.inquiring orderId) => some (.inquiring orderId)
  | .reconciling _ _ (.settling stage) => some (.settling stage)
  | .canceling cancellation stage => some (.canceling cancellation stage)
  | _ => none

/-! ## What an observer sees -/

/-- The gateway exchanges and the results of the calls. -/
inductive Event where
  | approveRequested (orderId : Nat) (amount : Int)
  | approveAnswered (orderId : Nat) (attempt : PayAttempt)
  | inquireAnswered (orderId : Nat) (attempt : PayAttempt)
  | refundRequested (orderId : Nat) (pgTid : String) (amount : Int)
  | refundAnswered (orderId : Nat) (amount : Int) (attempt : PayAttempt)
  | acquireEnded (request : AcquireRequest) (result : Except Raised Hold)
  | releaseEnded (scheduleId userId : Nat) (released : List Nat)
  | swept (seats : List (Nat × Nat))
  | placeEnded (request : PlaceRequest) (result : Except Raised PlacedOrder)
  | reconcileEnded (result : Except Raised (List Nat))
  | webhookEnded (orderId : Nat) (pgTid : String) (result : Except Raised Bool)
  | cancelEnded (orderId : Nat) (result : Except Raised CanceledOrder)

/-- An approval the gateway has executed. -/
structure Approval where
  orderId : Nat
  pgTid : String
  amount : Int
deriving DecidableEq, Repr

/-- A refund the gateway has executed against an approval number. -/
structure Refund where
  pgTid : String
  amount : Int
  refundTid : String
deriving DecidableEq, Repr

/-- The database and the gateway's ledgers, in which money and seats are kept. -/
structure Books where
  db : Db
  approvals : List Approval
  refunds : List Refund

/-- The books, the gate and the calls in progress. -/
structure World extends Books where
  clock : Time
  gate : KeyStore.Store Gate.Key Gate.Token
  calls : List Call
  log : List Event

namespace Books

/-- The transaction numbers the gateway has given out. -/
def issued (books : Books) : List String :=
  books.approvals.map (·.pgTid) ++ books.refunds.map (·.refundTid)

/-- The gateway has executed an approval for the order. -/
def executed (books : Books) (orderId : Nat) : Bool :=
  books.approvals.any (·.orderId == orderId)

/-- The gateway has approved the order under the number. -/
def approves (books : Books) (orderId : Nat) (pgTid : String) : Bool :=
  books.approvals.any fun approval =>
    approval.orderId == orderId && approval.pgTid == pgTid

/-- The refunds that were executed against the approval of the order. -/
def refundsOf (books : Books) (orderId : Nat) : List Refund :=
  books.refunds.filter fun refund => books.approves orderId refund.pgTid

/-- Some refund was executed against the approval of the order. -/
def refunded (books : Books) (orderId : Nat) : Bool :=
  books.refunds.any fun refund => books.approves orderId refund.pgTid

end Books

/-- What the step of one call does to the database and to the call. -/
structure Progress where
  db : Db
  next : Option Call
  events : List Event

/-! ## Settling an order -/

/-- How a settling step ends. -/
inductive Settled where
  | settling (next : Settling)
  | confirmed (orderId : Nat) (byThisCall : Bool)
  | closed (orderId : Nat)
  | compensated (orderId : Nat) (why : Raised)
  | raised (error : Raised)

/-- The next step of a settling call; none while a refund is in flight. -/
def settle (now : Time) (db : Db) : Settling →
    Option (Db × List Event × Settled)
  | .confirming orderId pgTid amount =>
      match confirmPaid orderId pgTid now db with
      | .ok (byThisCall, after) =>
          some (after, [], .confirmed orderId byThisCall)
      | .error error =>
          if error.isHoldExpired then
            some (db, [], .settling (.compensating orderId pgTid amount error))
          else
            some (db, [], .raised error)
  | .closing orderId status =>
      match closeUnpaid orderId status db with
      | .ok after => some (after, [], .closed orderId)
      | .error error => some (db, [], .raised error)
  | .compensating orderId pgTid amount why =>
      match loadOrder orderId db with
      | .ok order =>
          let total := amount.getD order.totalAmount
          some (db, [.refundRequested orderId pgTid total],
            .settling (.refunding order pgTid total why none))
      | .error error => some (db, [], .raised error)
  | .refunding .. => none
  | .recording order total why attempt =>
      match recordRefund order total attempt db with
      | .ok after => some (after, [], .compensated order.id why)
      | .error error => some (db, [], .raised error)

/-! ## The steps of each call -/

def placeEnds (db : Db) (request : PlaceRequest)
    (result : Except Raised PlacedOrder) : Progress :=
  { db, next := none, events := [.placeEnded request result] }

/-- The transactions of `place`. -/
def advancePlace (now : Time) (db : Db) (request : PlaceRequest) :
    PlaceStage → Option Progress
  | .opening =>
      match openPending request now db with
      | .error error => some (placeEnds db request (.error error))
      | .ok (some order, after) =>
          some
            { db := after
              next :=
                some (.placing request
                  (.approving order.id order.totalAmount))
              events := [.approveRequested order.id order.totalAmount] }
      | .ok (none, after) =>
          some
            { db := after
              next := some (.placing request (.lookingUp now))
              events := [] }
  | .lookingUp startedAt =>
      match existingOrderId request.idempotencyKey db with
      | some orderId =>
          some
            { db
              next :=
                some (.placing request (.polling orderId replayAttempts true))
              events := [] }
      | none =>
          some (placeEnds db request
            (.error (rejected .holdExpired
              (explainHold request startedAt db) none)))
  | .approving .. => none
  | .settling stage =>
      (settle now db stage).map fun (after, events, settled) =>
        match settled with
        | .settling next =>
            { db := after
              next := some (.placing request (.settling next))
              events }
        | .confirmed orderId _ =>
            { db := after
              next :=
                some (.placing request (.polling orderId replayAttempts false))
              events }
        | .closed orderId =>
            placeEnds after request
              (.error (rejected .paymentDeclined "승인이 거절됐습니다"
                (some orderId)))
        | .compensated orderId why =>
            placeEnds after request
              (.error (rejected .holdExpired why.text (some orderId)))
        | .raised error => placeEnds after request (.error error)
  | .polling orderId attempts replayed =>
      match pollPlaced orderId replayed db with
      | .error error => some (placeEnds db request (.error error))
      | .ok (some placed) => some (placeEnds db request (.ok placed))
      | .ok none =>
          if attempts ≤ 1 then
            some (placeEnds db request
              (.error (rejected .paymentInProgress
                "같은 키의 원본 요청이 아직 진행 중입니다" (some orderId))))
          else
            some
              { db
                next :=
                  some (.placing request
                    (.polling orderId (attempts - 1) replayed))
                events := [] }

/-- The reconciler goes on to the next candidate. -/
def nextCandidate (db : Db) (events : List Event) (confirmed : List Nat) :
    List Nat → Progress
  | [] =>
      { db, next := none, events := events ++ [.reconcileEnded (.ok confirmed)] }
  | orderId :: rest =>
      { db, next := some (.reconciling rest confirmed (.inquiring orderId)), events }

/-- The transactions of `reconcile` after its scan. -/
def advanceReconcile (now : Time) (db : Db) (rest confirmed : List Nat) :
    ReconcileStage → Option Progress
  | .inquiring _ => none
  | .settling stage =>
      (settle now db stage).map fun (after, events, settled) =>
        match settled with
        | .settling next =>
            { db := after
              next := some (.reconciling rest confirmed (.settling next))
              events }
        | .confirmed orderId byThisCall =>
            nextCandidate after events
              (if byThisCall then confirmed ++ [orderId] else confirmed) rest
        | .closed _ => nextCandidate after events confirmed rest
        | .compensated _ _ => nextCandidate after events confirmed rest
        | .raised error =>
            { db := after
              next := none
              events := events ++ [.reconcileEnded (.error error)] }

def cancelEnds (db : Db) (cancellation : Cancellation)
    (result : Except Raised CanceledOrder) : Progress :=
  { db, next := none, events := [.cancelEnded cancellation.order.id result] }

/-- The transactions of `cancel` after its refund was answered. -/
def advanceCancel (db : Db) (cancellation : Cancellation) :
    CancelStage → Option Progress
  | .refunding _ => none
  | .failing result =>
      match recordFailedCancel cancellation db with
      | .error error => some (cancelEnds db cancellation (.error error))
      | .ok after =>
          some (cancelEnds after cancellation
            (.error (rejected .refundFailed
              s!"환불이 실패했습니다 ({result.text}). 좌석은 복원하지 않습니다"
              (some cancellation.order.id))))
  | .closing attempt =>
      match closeCanceled cancellation attempt db with
      | .error error => some (cancelEnds db cancellation (.error error))
      | .ok after =>
          some (cancelEnds after cancellation
            (.ok
              { orderId := cancellation.order.id
                fee := cancellation.fee
                refunded := true }))

/-- The database part of `acquire`, once the gate has let it through. -/
def advanceAcquire (now : Time) (db : Db) (request : AcquireRequest) :
    AcquireStage → Option Progress
  | .gating _ => none
  | .holding gated =>
      match acquireSeats request now db with
      | .ok (hold, after) =>
          some
            { db := after
              next := none
              events := [.acquireEnded request (.ok hold)] }
      | .error error =>
          if gated then
            some
              { db
                next := some (.acquiring request (.ungating error))
                events := [] }
          else
            some
              { db
                next := none
                events := [.acquireEnded request (.error error)] }
  | .ungating _ => none

/-- The next transaction of a call. -/
def advance (now : Time) (db : Db) : Call → Option Progress
  | .acquiring request stage => advanceAcquire now db request stage
  | .releasing .. => none
  | .placing request stage => advancePlace now db request stage
  | .reconciling rest confirmed stage =>
      advanceReconcile now db rest confirmed stage
  | .canceling cancellation stage => advanceCancel db cancellation stage

/-! ## Answers of the gateway -/

/-- An answer arrives at a call that waits for one. -/
def receive (db : Db) (attempt : PayAttempt) : Call → Option Progress
  | .placing request (.approving orderId amount) =>
      let answered := Event.approveAnswered orderId attempt
      let ends := fun error : Raised =>
        some
          { db
            next := none
            events := [answered, .placeEnded request (.error error)] }
      let goesOn := fun stage : Settling =>
        some
          { db
            next := some (.placing request (.settling stage))
            events := [answered] }
      match attempt.result, attempt.pgTid with
      | .unknown, _ =>
          ends (rejected .paymentUnknown
            "승인 응답을 받지 못했습니다. 결제 상태 확인 후 처리됩니다"
            (some orderId))
      | .declined, _ => goesOn (.closing orderId .failed)
      | .approved, none =>
          ends (.assertionError "승인인데 거래번호가 없다 — 어댑터 버그")
      | .approved, some pgTid => goesOn (.confirming orderId pgTid (some amount))
  | .placing request (.settling (.refunding order _ total why _)) =>
      some
        { db
          next :=
            some (.placing request
              (.settling (.recording order total why attempt)))
          events := [.refundAnswered order.id total attempt] }
  | .reconciling rest confirmed (.inquiring orderId) =>
      let answered := Event.inquireAnswered orderId attempt
      let goesOn := fun stage : Settling =>
        some
          { db
            next := some (.reconciling rest confirmed (.settling stage))
            events := [answered] }
      match attempt.result, attempt.pgTid with
      | .unknown, _ => some (nextCandidate db [answered] confirmed rest)
      | .approved, none =>
          some
            { db
              next := none
              events :=
                [answered, .reconcileEnded (.error (.assertionError ""))] }
      | .approved, some pgTid => goesOn (.confirming orderId pgTid none)
      | .declined, _ => goesOn (.closing orderId .canceled)
  | .reconciling rest confirmed
      (.settling (.refunding order _ total why _)) =>
      some
        { db
          next :=
            some (.reconciling rest confirmed
              (.settling (.recording order total why attempt)))
          events := [.refundAnswered order.id total attempt] }
  | .canceling cancellation (.refunding _) =>
      some
        { db
          next :=
            some (.canceling cancellation
              (if attempt.approved then .closing attempt
                else .failing attempt.result))
          events :=
            [.refundAnswered cancellation.order.id
              cancellation.refundAmount attempt] }
  | _ => none

/-- The approval request that a call has in flight. -/
def Call.approval? : Call → Option (Nat × Int)
  | .placing _ (.approving orderId amount) => some (orderId, amount)
  | _ => none

/--
The refund request that a call has in flight and that is not executed yet, and
the call once the request is executed under a number.
-/
def Call.refund? : Call → Option (String × Int × (String → Call))
  | .placing request (.settling (.refunding order pgTid total why none)) =>
      some (pgTid, total, fun number =>
        .placing request
          (.settling (.refunding order pgTid total why (some number))))
  | .reconciling rest confirmed
      (.settling (.refunding order pgTid total why none)) =>
      some (pgTid, total, fun number =>
        .reconciling rest confirmed
          (.settling (.refunding order pgTid total why (some number))))
  | .canceling cancellation (.refunding none) =>
      some (cancellation.pgTid, cancellation.refundAmount, fun number =>
        .canceling cancellation (.refunding (some number)))
  | _ => none

/-! ## Gate round trips -/

/-- A script is answered, is run with its answer lost, or does not reach the store. -/
inductive GateIo where
  | answered
  | lost
  | unreachable
deriving DecidableEq, Repr

/-- What a gate round trip does to the store and to the call. -/
structure GateProgress where
  gate : KeyStore.Store Gate.Key Gate.Token
  next : Option Call
  events : List Event

/-- The gate round trips of `acquire` and `release`. -/
def gateTrip (now : Time) (gate : KeyStore.Store Gate.Key Gate.Token)
    (io : GateIo) : Call → Option GateProgress
  | .acquiring request (.gating attempts) =>
      let seats := Gate.ordered request.seatIds
      let (blocked, after) :=
        Gate.seatGate now (Gate.ttlMs request.ttlSec)
          (Gate.token request.userId) (Gate.keys request.scheduleId seats) gate
      let retry := fun store : KeyStore.Store Gate.Key Gate.Token =>
        some
          { gate := store
            next :=
              some (.acquiring request
                (if attempts ≤ 1 then .holding false
                  else .gating (attempts - 1)))
            events := [] }
      match io with
      | .unreachable => retry gate
      | .lost => retry after
      | .answered =>
          if blocked = 0 then
            some
              { gate := after
                next := some (.acquiring request (.holding true))
                events := [] }
          else
            some
              { gate := after
                next := none
                events :=
                  [.acquireEnded request
                    (.error (.holdRejected
                      (seats[blocked - 1]?).toList))] }
  | .acquiring request (.ungating error) =>
      let (_, after) :=
        Gate.seatGateRelease now (Gate.token request.userId)
          (Gate.keys request.scheduleId (Gate.ordered request.seatIds)) gate
      some
        { gate := if io = .unreachable then gate else after
          next := none
          events := [.acquireEnded request (.error error)] }
  | .releasing scheduleId userId released =>
      let (_, after) :=
        Gate.seatGateRelease now (Gate.token userId)
          (Gate.keys scheduleId (Gate.ordered released)) gate
      some
        { gate := if io = .unreachable then gate else after
          next := none
          events := [.releaseEnded scheduleId userId released] }
  | _ => none

/-! ## The step -/

inductive Action where
  | tick (elapsed : Nat)
  | startAcquire (request : AcquireRequest)
  | startRelease (scheduleId userId : Nat) (seatIds : List Nat)
  | sweep (batch : Nat)
  | startPlace (request : PlaceRequest)
  | startReconcile (olderThanSec : Int) (batch : Nat)
  | startCancel (orderId : Nat) (now : Option Policy.Datetime)
  | webhook (orderId : Nat) (pgTid : String)
  | advance (call : Nat)
  | execute (call : Nat) (number : String)
  | answer (call : Nat) (attempt : PayAttempt)
  | gate (call : Nat) (io : GateIo)
  | flushall
deriving DecidableEq, Repr

/-- The action starts a cancellation. -/
def Action.cancels : Action → Bool
  | .startCancel _ _ => true
  | _ => false

namespace World

/-- Replace the call at an index, or remove it when it has ended. -/
def replaceCall (calls : List Call) (index : Nat) : Option Call → List Call
  | some call => calls.set index call
  | none => calls.eraseIdx index

/-- Record the progress of the call at an index. -/
def progress (world : World) (index : Nat) (progress : Progress) : World :=
  { world with
    db := progress.db
    calls := replaceCall world.calls index progress.next
    log := world.log ++ progress.events }

/-- The call in progress is what the progress leaves of it. -/
theorem head?_progress {world : World} {call : Call}
    (alone : world.calls = [call]) (made : Progress) :
    (world.progress 0 made).calls.head? = made.next := by
  rw [progress, alone]
  cases made.next <;> rfl

/-- A call that ended where it started. -/
def note (world : World) (event : Event) : World :=
  { world with log := world.log ++ [event] }

def addCall (world : World) (call : Call) : World :=
  { world with calls := world.calls ++ [call] }

/-- The gateway executes the request that a call has in flight. -/
def executeRequest (world : World) (index : Nat) (number : String)
    (call : Call) : Option World :=
  if number ∈ world.issued then none
  else
    match call.approval?, call.refund? with
    | some (orderId, amount), _ =>
        if world.approvals.any (·.orderId == orderId) then none
        else
          some
            { world with
              approvals :=
                world.approvals ++ [{ orderId, pgTid := number, amount }] }
    | none, some (pgTid, amount, executed) =>
        some
          { world with
            refunds :=
              world.refunds ++ [{ pgTid, amount, refundTid := number }]
            calls := world.calls.set index (executed number) }
    | none, none => none

/-- One step; an action that is not enabled has none. -/
def step (world : World) : Action → Option World
  | .tick elapsed => some { world with clock := world.clock + elapsed }
  | .startAcquire request =>
      match checkAcquire request with
      | .error error => some (world.note (.acquireEnded request (.error error)))
      | .ok () => some (world.addCall (.acquiring request (.gating Gate.attempts)))
  | .startRelease scheduleId userId seatIds =>
      let (released, db) := releaseSeats scheduleId userId seatIds world.db
      let after := { world with db }
      if released = [] then
        some (after.note (.releaseEnded scheduleId userId []))
      else
        some (after.addCall (.releasing scheduleId userId released))
  | .sweep batch =>
      let (swept, db) :=
        sweepExpired batch (fun _ => false) world.clock world.db
      some ({ world with db }.note (.swept swept))
  | .startPlace request =>
      if request.seatIds = [] then
        some (world.note (.placeEnded request
          (.error (rejected .orderRejected "좌석이 비어 있습니다" none))))
      else
        some (world.addCall (.placing request .opening))
  | .startReconcile olderThanSec batch =>
      let scan :=
        nextCandidate world.db [] []
          (Queries.unresolvedOrders olderThanSec batch world.clock world.db)
      some
        { world with
          calls := world.calls ++ scan.next.toList
          log := world.log ++ scan.events }
  | .startCancel orderId now =>
      let moment := now.getD { instant := world.clock, offset := 0 }
      match prepareCancel orderId moment world.db with
      | .error error => some (world.note (.cancelEnded orderId (.error error)))
      | .ok cancellation =>
          some
            ((world.note (.refundRequested orderId cancellation.pgTid
              cancellation.refundAmount)).addCall
                (.canceling cancellation (.refunding none)))
  | .webhook orderId pgTid =>
      match confirmPaid orderId pgTid world.clock world.db with
      | .ok (byThisCall, db) =>
          some ({ world with db }.note
            (.webhookEnded orderId pgTid (.ok byThisCall)))
      | .error error =>
          some (world.note (.webhookEnded orderId pgTid (.error error)))
  | .advance index => do
      let call ← world.calls[index]?
      let progress ← Curtain.advance world.clock world.db call
      return world.progress index progress
  | .execute index number => do
      let call ← world.calls[index]?
      world.executeRequest index number call
  | .answer index attempt => do
      let call ← world.calls[index]?
      let progress ← receive world.db attempt call
      return world.progress index progress
  | .gate index io => do
      let call ← world.calls[index]?
      let trip ← gateTrip world.clock world.gate io call
      return { world with
        gate := trip.gate
        calls := replaceCall world.calls index trip.next
        log := world.log ++ trip.events }
  | .flushall => some { world with gate := fun _ => none }

/-! ## The gateway's contract -/

/-- The task of the call that an action continues. -/
def taskOf (world : World) : Action → Option Task
  | .advance index => world.calls[index]?.bind Call.task?
  | .execute index _ => world.calls[index]?.bind Call.task?
  | .answer index _ => world.calls[index]?.bind Call.task?
  | .gate index _ => world.calls[index]?.bind Call.task?
  | _ => none

/-- The tasks of the calls in progress. -/
def tasks (world : World) : List Task :=
  world.calls.filterMap Call.task?

/-- What the gateway may answer to a refund, executed under a number or not. -/
def truthfulRefund (attempt : PayAttempt) (number : Option String) : Bool :=
  match attempt.result with
  | .approved => number.isSome && attempt.pgTid == number
  | .declined => number.isNone && attempt.pgTid.isNone
  | .unknown => attempt.pgTid.isNone

/--
What the gateway may answer: approvals and refunds it has executed, with their
numbers, and a refusal only of what it has not executed.  Silence is always
possible, and a refund's number comes only with its approval.
-/
def truthfulAnswer (world : World) (attempt : PayAttempt) (task : Task) : Bool :=
  match task with
  | .approving orderId _ | .inquiring orderId =>
      match attempt.result with
      | .approved => attempt.pgTid.any (world.approves orderId)
      | .declined => !world.executed orderId
      | .unknown => true
  | .settling (.refunding _ _ _ _ number) | .canceling _ (.refunding number) =>
      truthfulRefund attempt number
  | _ => true

/-- Answers are truthful, and a webhook carries an executed approval. -/
def truthful (world : World) (action : Action) : Bool :=
  match action with
  | .answer _ attempt =>
      (world.taskOf action).all (world.truthfulAnswer attempt)
  | .webhook orderId pgTid => world.approves orderId pgTid
  | _ => true

end World

/-! ## Where runs start -/

/-- The stock of a new installation: every row once, and every row free. -/
structure Inventory where
  rows : List ScheduleSeat
  idUnique : Table.Unique ScheduleSeat.id rows
  seatUnique : Table.Unique (fun row => (row.scheduleId, row.seatId)) rows
  available :
    ∀ row ∈ rows,
      row.status = .available ∧ row.heldBy = none ∧ row.holdExpiresAt = none

/-- The world before the first call. -/
def World.initial
    (inventory : Inventory) (startsAt : Nat → Policy.Datetime) (clock : Time) :
    World :=
  { clock
    db :=
      { scheduleSeats := inventory.rows
        orders := []
        orderItems := []
        payments := []
        outbox := []
        startsAt }
    gate := fun _ => none
    approvals := []
    refunds := []
    calls := []
    log := [] }

/-! ## A hall with one seat or two -/

/-- One seat of one schedule. -/
def Inventory.oneSeat : Inventory where
  rows :=
    [{ id := 1
       scheduleId := 1
       seatId := 1
       grade := "VIP"
       price := 150000
       status := .available
       heldBy := none
       holdExpiresAt := none }]
  idUnique := by decide
  seatUnique := by decide
  available := by decide

/-- Two seats of one schedule. -/
def Inventory.twoSeats : Inventory where
  rows :=
    [{ id := 1, scheduleId := 1, seatId := 1, grade := "VIP", price := 150000,
       status := .available, heldBy := none, holdExpiresAt := none },
     { id := 2, scheduleId := 1, seatId := 2, grade := "VIP", price := 150000,
       status := .available, heldBy := none, holdExpiresAt := none }]
  idUnique := by decide
  seatUnique := by decide
  available := by decide

/-- The hall at time zero, a hundred days before its show. -/
def World.oneSeat : World :=
  World.initial .oneSeat
    (fun _ => { instant := seconds 8640000, offset := 0 }) 0

/-- A user holds the seat and asks to buy it; the approval is in flight. -/
def Action.order (userId : Nat) (idempotencyKey : String) : List Action :=
  [.startAcquire { scheduleId := 1, userId, seatIds := [1] },
   .gate 0 .answered,
   .advance 0,
   .startPlace { scheduleId := 1, userId, seatIds := [1], idempotencyKey },
   .advance 0]

/-- The gateway approves, and the order is confirmed and answered. -/
def Action.pay (pgTid : String) : List Action :=
  [.execute 0 pgTid,
   .answer 0 { result := .approved, pgTid := some pgTid },
   .advance 0,
   .advance 0]

end Curtain
