import Curtain.Quota

/-!
# A transaction that runs alone

`Curtain.Services` says what a transaction writes in one go,
`Curtain.Sessions` takes it statement by statement.  A transaction that no
other one disturbs takes both to the same database: it never waits, every row
that it has found still meets its `WHERE` clause when it is locked, and it
commits what the service function returns, or nothing where that raises.  So
whatever the services do one after the other, the sessions can do.
-/

namespace Curtain

open Queries Table HoldService OrderService TransitionSystem

/-- The database after a transaction; an error rolls it back. -/
def Db.settled (db : Db) (result : Except Raised Db) : Db :=
  result.toOption.getD db

@[simp]
theorem Db.settled_ok (db after : Db) : db.settled (.ok after) = after := rfl

@[simp]
theorem Db.settled_error (db : Db) (error : Raised) :
    db.settled (.error error) = db := rfl

/-! ## Stages without waiting -/

section Ends

variable (hashtext : String → Int) (now : Time) (db : Db)

/-- At this stage, a transaction that nobody disturbs leaves this database. -/
inductive Stage.Ends : Stage → Db → Prop where
  | ended {stage : Stage}
      (next : stage.next hashtext (fun _ _ => true) now db = some .ended) :
      Ends stage db
  | stage {stage later : Stage} {after : Db}
      (next :
        stage.next hashtext (fun _ _ => true) now db = some (.stage later))
      (rest : Ends later after) :
      Ends stage after
  | grant {stage later : Stage} {resource : Resource} {mode : LockMode}
      {after : Db}
      (next :
        stage.next hashtext (fun _ _ => true) now db =
          some (.grant resource mode later))
      (rest : Ends later after) :
      Ends stage after
  | commit (statement : SeatStatement) (rows : List Nat) :
      Ends (.writing statement rows)
        (db.settled (statement.commit now rows db))

/-- After this step, it leaves this database. -/
def Next.Ends (after : Db) : Next → Prop
  | .stage later => later.Ends hashtext now db after
  | .grant _ _ later => later.Ends hashtext now db after
  | .ended => after = db

end Ends

section Ends

variable {hashtext : String → Int} {now : Time} {db after : Db}

theorem Stage.Ends.congr {stage : Stage} {other : Db}
    (ends : stage.Ends hashtext now db after) (same : after = other) :
    stage.Ends hashtext now db other :=
  same ▸ ends

theorem Stage.Ends.of_next {stage : Stage} (next : Next)
    (taken : stage.next hashtext (fun _ _ => true) now db = some next)
    (ends : next.Ends hashtext now db after) :
    stage.Ends hashtext now db after := by
  cases next with
  | stage later => exact .stage taken ends
  | grant resource mode later => exact .grant taken ends
  | ended =>
      have same : after = db := ends
      rw [same]
      exact .ended taken

/-- The scan has taken all of its rows. -/
def Scan.done (scan : Scan) : Scan :=
  { scan with rest := [], taken := scan.taken ++ scan.rest }

namespace SeatStatement

variable {statement : SeatStatement} {scan : Scan}

/-- A statement that skips no lock takes every row that meets its condition. -/
theorem ends_locking (patient : statement.skipsLocked = false)
    (meet :
      ∀ id ∈ scan.rest, statement.rechecks now scan.mine db id = true)
    (ends : (Stage.concluded statement scan.done).Ends hashtext now db after) :
    (Stage.locking statement scan).Ends hashtext now db after := by
  have unlimited (scan : Scan) : statement.full scan = false := by
    cases statement with
    | sweepExpiredHolds => cases patient
    | holdSeats | releaseHold | bookOrderSeats | restoreOrderSeats => rfl
  obtain ⟨mine, owned, rest, taken⟩ := scan
  induction rest generalizing taken with
  | nil =>
      rw [Scan.done, List.append_nil] at ends
      exact .of_next _ rfl ends
  | cons id rest induction =>
      have next :
          (Stage.locking statement
              { mine, owned, rest := id :: rest, taken }).next hashtext
              (fun _ _ => true) now db =
            some
              (.grant (.seat id) statement.mode
                (.locking statement
                  { mine, owned, rest, taken := taken ++ [id] })) := by
        simp [Stage.next, unlimited, patient, meet id List.mem_cons_self]
      refine .of_next _ next (induction (taken ++ [id]) ?_ ?_)
      · intro other member
        exact meet other (List.mem_cons_of_mem id member)
      · simpa [Scan.done] using ends

/-- Writing the rows of the snapshot is the update with the `WHERE` clause. -/
theorem write_candidates
    (rowUnique : Unique ScheduleSeat.id db.scheduleSeats)
    (statement : SeatStatement) (mine : List Nat) (base : Db)
    (same : base.scheduleSeats = db.scheduleSeats) :
    statement.write now ((statement.candidates now mine db).map (·.id)) base =
      base.updateSeats (statement.condition now mine)
        (statement.change now) := by
  have agree :
      updateWhere
          (fun row =>
            ((statement.candidates now mine db).map (·.id)).contains row.id)
          (statement.change now) db.scheduleSeats =
        updateWhere (statement.condition now mine) (statement.change now)
          db.scheduleSeats :=
    updateWhere_congr fun _ member =>
      rowUnique.contains_of_perm ((statement.candidates_perm now mine db).map _)
        member
  rw [write, Db.updateSeats, Db.updateSeats, same, agree]

theorem ends_concluded {rows : List Nat}
    (found : statement.rows scan = some rows) :
    (Stage.concluded statement scan).Ends hashtext now db
      (db.settled (statement.commit now rows db)) := by
  rw [Stage.concluded, found]
  exact .commit statement rows

theorem ends_abandoned (found : statement.rows scan = none) :
    (Stage.concluded statement scan).Ends hashtext now db db := by
  rw [Stage.concluded, found]
  rfl

/-- Nobody has changed a row since the statement has read its snapshot. -/
theorem rechecks_candidates {mine : List Nat} :
    ∀ id ∈ (statement.candidates now mine db).map (·.id),
      statement.rechecks now mine db id = true := by
  intro id listed
  obtain ⟨row, member, rfl⟩ := List.mem_map.mp listed
  obtain ⟨stored, meets⟩ :=
    List.mem_filter.mp ((statement.candidates_perm now mine db).mem_iff.mp member)
  refine List.any_eq_true.mpr ⟨row, stored, ?_⟩
  rw [meets, Bool.and_true]
  exact beq_self_eq_true _

/-- A statement that skips no lock takes all of its snapshot. -/
theorem ends_selecting (patient : statement.skipsLocked = false)
    (ends :
      (Stage.concluded statement (statement.scan now db).done).Ends hashtext now
        db after) :
    (Stage.selecting statement).Ends hashtext now db after :=
  .of_next _ rfl (ends_locking patient rechecks_candidates ends)

end SeatStatement

/-- A statement that writes all that it has locked. -/
theorem SeatStatement.ends_taking {statement : SeatStatement}
    (patient : statement.skipsLocked = false)
    (all : ∀ scan, statement.rows scan = some scan.taken) :
    (Stage.selecting statement).Ends hashtext now db
      (db.settled
        (statement.commit now
          ((statement.candidates now (statement.mine db) db).map (·.id))
          db)) :=
  ends_selecting patient (ends_concluded (all _))

/-! ## The transactions -/

section Works

theorem statusOf_eq_some (orderUnique : Unique Order.id db.orders)
    {orderId : Nat} {status : OrderStatus} :
    statusOf orderId db = some status ↔
      ∃ order ∈ db.orders, order.id = orderId ∧ order.status = status := by
  simp [statusOf, orderForSaga, lookup_eq_some orderUnique, and_assoc]

/-- Nothing is marked for an order that is in another status. -/
theorem markOrder_eq_nil (orderUnique : Unique Order.id db.orders)
    {order : Order} (member : order ∈ db.orders) {status expect : OrderStatus}
    (other : order.status ≠ expect) :
    (markOrder order.id status expect db).1 = [] := by
  by_contra hit
  obtain ⟨row, rowMember, equal, same⟩ := markOrder_ne_nil.mp hit
  rw [orderUnique.eq rowMember member equal] at same
  exact other same

/-- The holds of the user on the seats of an order. -/
def Order.heldRows (order : Order) (db : Db) : List Nat :=
  (db.scheduleSeats.filter
    (isHoldOf order.scheduleId order.userId order.seatIds)).map (·.id)

theorem isHoldOf_unnamed {order : Order} (unnamed : order.seatIds = [])
    (row : ScheduleSeat) :
    isHoldOf order.scheduleId order.userId order.seatIds row = false := by
  simp [isHoldOf, unnamed]

theorem ends_release (rowUnique : Unique ScheduleSeat.id db.scheduleSeats)
    (scheduleId userId : Nat) (seatIds : List Nat) :
    (Stage.selecting
        (.releaseHold scheduleId userId seatIds .release)).Ends hashtext now db
      (releaseSeats scheduleId userId seatIds db).2 :=
  (SeatStatement.ends_taking rfl fun _ => rfl).congr
    (SeatStatement.write_candidates rowUnique
      (.releaseHold scheduleId userId seatIds .release) [] db rfl)

/-- The seats of an order are given back, also where it names none. -/
theorem ends_releasing (order : Order) (within : Releasing) :
    (Stage.releasing order within).Ends hashtext now db
      (db.settled
        ((SeatStatement.releaseHold order.scheduleId order.userId order.seatIds
            within).commit now (order.heldRows db) db)) := by
  rw [Stage.releasing]
  split
  · rename_i unnamed
    have none : order.heldRows db = [] := by
      rw [Order.heldRows, List.map_eq_nil_iff, List.filter_eq_nil_iff]
      simp [isHoldOf_unnamed unnamed]
    rw [none]
    exact .commit _ _
  · exact SeatStatement.ends_taking rfl fun _ => rfl

/-- `release_hold` is left out where the order names no seat. -/
theorem write_heldRows
    (rowUnique : Unique ScheduleSeat.id db.scheduleSeats) (order : Order)
    (within : Releasing) (base : Db)
    (same : base.scheduleSeats = db.scheduleSeats) :
    (SeatStatement.releaseHold order.scheduleId order.userId order.seatIds
        within).write now (order.heldRows db) base =
      if order.seatIds = [] then base
      else
        (releaseHold order.scheduleId order.userId order.seatIds base).2 := by
  have written :
      (SeatStatement.releaseHold order.scheduleId order.userId order.seatIds
          within).write now (order.heldRows db) base =
        (releaseHold order.scheduleId order.userId order.seatIds base).2 :=
    SeatStatement.write_candidates rowUnique
      (.releaseHold order.scheduleId order.userId order.seatIds within) [] base
      same
  rw [written]
  split
  · rename_i unnamed
    rw [releaseHold,
      updateWhere_eq_self fun row _ => isHoldOf_unnamed unnamed row]
  · rfl

theorem ends_closeUnpaid (rowUnique : Unique ScheduleSeat.id db.scheduleSeats)
    (orderUnique : Unique Order.id db.orders)
    (orderId : Nat) (status : OrderStatus) :
    (Stage.closing orderId status).Ends hashtext now db
      (db.settled (OrderService.closeUnpaid orderId status db)) := by
  cases loaded : loadOrder orderId db with
  | error error =>
      refine (Stage.Ends.ended (by simp [Stage.next, loaded])).congr ?_
      simp [OrderService.closeUnpaid, loaded, bind, Except.bind]
  | ok order =>
      obtain ⟨member, rfl⟩ := loadOrder_ok loaded
      by_cases pending : order.status = .pending
      · have next :
            (Stage.closing order.id status).next hashtext (fun _ _ => true) now
                db =
              some
                (.grant (.order order.id) .forNoKeyUpdate
                  (Stage.releasing order (.closeUnpaid order.id status))) := by
          simp [Stage.next, loaded, pending]
        have hit : (markOrder order.id status .pending db).1 ≠ [] :=
          markOrder_ne_nil.mpr ⟨order, member, rfl, pending⟩
        refine .of_next _ next ((ends_releasing order _).congr ?_)
        rw [SeatStatement.commit,
          write_heldRows rowUnique order _
            (failPendingPayments order.id
              (markOrder order.id status .pending db).2) rfl]
        simp only [OrderService.closeUnpaid, loaded, bind, Except.bind, hit,
          if_false]
        split
        · rfl
        · rfl
      · refine
          (Stage.Ends.ended (by simp [Stage.next, loaded, pending])).congr ?_
        simp [OrderService.closeUnpaid, loaded, bind, Except.bind, pure,
          Except.pure, markOrder_eq_nil orderUnique member pending]

/-- What `_refund_and_fail` records is what its transaction writes. -/
theorem commit_recordRefund
    (rowUnique : Unique ScheduleSeat.id db.scheduleSeats) (now : Time)
    (order : Order) (total : Int) (attempt : PayAttempt) :
    (SeatStatement.releaseHold order.scheduleId order.userId order.seatIds
        (.recordRefund order total attempt)).commit now
        (if attempt.approved then order.heldRows db else []) db =
      OrderService.recordRefund order total attempt db := by
  cases inserted :
      insertPayment order.id (if attempt.approved then .refunded else .failed)
        total attempt.pgTid none db with
  | error error =>
      simp [SeatStatement.commit, OrderService.recordRefund, inserted, bind,
        Except.bind]
  | ok middle =>
      have seats : middle.scheduleSeats = db.scheduleSeats := by
        rw [(insertPayment_ok.mp inserted).2]
      simp only [SeatStatement.commit, OrderService.recordRefund, inserted,
        bind, Except.bind]
      cases approved : attempt.approved with
      | true =>
          simp only [if_true]
          rw [write_heldRows rowUnique order _
            (markOrder order.id .failed .pending
              (failPendingPayments order.id middle)).2 seats]
          split
          · rfl
          · rfl
      | false =>
          simp [SeatStatement.write, Db.updateSeats, pure, Except.pure]

theorem ends_recordRefund (rowUnique : Unique ScheduleSeat.id db.scheduleSeats)
    (orderId : Nat) (total : Int) (attempt : PayAttempt) :
    (Stage.refunding orderId total attempt).Ends hashtext now db
      (db.settled
        ((Work.recordRefund orderId total attempt).run (fun _ => false) now
          db)) := by
  cases loaded : loadOrder orderId db with
  | error error =>
      refine (Stage.Ends.ended (by simp [Stage.next, loaded])).congr ?_
      simp [Work.run, loaded, bind, Except.bind]
  | ok order =>
      obtain ⟨-, rfl⟩ := loadOrder_ok loaded
      have run :
          (Work.recordRefund order.id total attempt).run (fun _ => false) now
              db =
            OrderService.recordRefund order total attempt db := by
        simp [Work.run, loaded, bind, Except.bind]
      rw [run, ← commit_recordRefund rowUnique now order total attempt]
      cases approved : attempt.approved with
      | true =>
          rw [if_pos rfl]
          by_cases pending : order.status = .pending
          · exact
              .of_next
                (.grant (.order order.id) .forNoKeyUpdate
                  (.releasing order (.recordRefund order total attempt)))
                (by simp [Stage.next, loaded, approved, pending])
                (ends_releasing order _)
          · exact
              .of_next
                (.stage
                  (.releasing order (.recordRefund order total attempt)))
                (by simp [Stage.next, loaded, approved, pending])
                (ends_releasing order _)
      | false =>
          exact
            .stage (by simp [Stage.next, loaded, approved]) (.commit _ _)

/-- What `cancel` records is what its transaction writes. -/
theorem commit_closeCanceled
    (rowUnique : Unique ScheduleSeat.id db.scheduleSeats) (now : Time)
    (cancellation : Cancellation) (attempt : PayAttempt)
    (hit : (markOrder cancellation.order.id .canceled .paid db).1 ≠ []) :
    (SeatStatement.restoreOrderSeats cancellation attempt).commit now
        (((SeatStatement.restoreOrderSeats cancellation attempt).candidates now
            (itemSeats cancellation.order.id db) db).map (·.id)) db =
      OrderService.closeCanceled cancellation attempt db := by
  simp only [SeatStatement.commit, OrderService.closeCanceled, hit, if_false,
    bind, Except.bind]
  cases inserted :
      insertPayment cancellation.order.id .refunded cancellation.refundAmount
        attempt.pgTid
        (some
          (feeSnapshot cancellation
            (db.startsAt cancellation.order.scheduleId)))
        (markOrder cancellation.order.id .canceled .paid db).2 with
  | error error => rfl
  | ok refunded =>
      have equal := (insertPayment_ok.mp inserted).2
      have seats : refunded.scheduleSeats = db.scheduleSeats := by rw [equal]; rfl
      have mine :
          itemSeats cancellation.order.id refunded =
            itemSeats cancellation.order.id db := by
        rw [equal]
        rfl
      dsimp only
      rw [SeatStatement.write_candidates rowUnique
        (.restoreOrderSeats cancellation attempt) _ refunded seats, ← mine]
      rfl

theorem ends_closeCanceled
    (rowUnique : Unique ScheduleSeat.id db.scheduleSeats)
    (orderUnique : Unique Order.id db.orders)
    (cancellation : Cancellation) (attempt : PayAttempt) :
    (Stage.canceling cancellation attempt).Ends hashtext now db
      (db.settled (OrderService.closeCanceled cancellation attempt db)) := by
  have marked :
      (markOrder cancellation.order.id .canceled .paid db).1 ≠ [] ↔
        statusOf cancellation.order.id db = some .paid :=
    markOrder_ne_nil.trans (statusOf_eq_some orderUnique).symm
  by_cases paid : statusOf cancellation.order.id db = some .paid
  · rw [← commit_closeCanceled rowUnique now cancellation attempt
      (marked.mpr paid)]
    exact
      .of_next
        (.grant (.order cancellation.order.id) .forNoKeyUpdate
          (.selecting (.restoreOrderSeats cancellation attempt)))
        (by simp [Stage.next, paid])
        (SeatStatement.ends_taking rfl fun _ => rfl)
  · have missed : (markOrder cancellation.order.id .canceled .paid db).1 = [] :=
      not_not.mp (mt marked.mp paid)
    refine (Stage.Ends.ended (by simp [Stage.next, paid])).congr ?_
    simp [OrderService.closeCanceled, missed, pure, Except.pure]

/-- With `LIMIT` and without a lock to skip, the oldest holds are taken. -/
theorem ends_sweeping (batch : Nat) (mine : List Nat) (owned : Nat)
    (rest taken : List Nat)
    (meet :
      ∀ id ∈ rest,
        (SeatStatement.sweepExpiredHolds batch).rechecks now mine db id =
          true) :
    (Stage.locking (.sweepExpiredHolds batch) { mine, owned, rest, taken }).Ends
      hashtext now db
      (db.settled
        ((SeatStatement.sweepExpiredHolds batch).commit now
          (taken ++ rest.take (batch - taken.length)) db)) := by
  induction rest generalizing taken with
  | nil =>
      rw [List.take_nil, List.append_nil]
      exact .of_next _ rfl (.commit _ taken)
  | cons id rest induction =>
      by_cases full : batch ≤ taken.length
      · rw [Nat.sub_eq_zero_of_le full, List.take_zero, List.append_nil]
        refine .of_next (.stage (.writing _ taken)) ?_ (.commit _ taken)
        simp [Stage.next, SeatStatement.full, full, Stage.concluded,
          SeatStatement.rows]
      · have meets := meet id List.mem_cons_self
        have after :=
          induction (taken ++ [id]) fun other member =>
            meet other (List.mem_cons_of_mem id member)
        have room :
            batch - taken.length = batch - (taken ++ [id]).length + 1 := by
          rw [List.length_append, List.length_singleton]
          omega
        rw [room, List.take_succ_cons, List.append_cons]
        refine
          .of_next
            (.grant (.seat id) .forUpdate
              (.locking (.sweepExpiredHolds batch)
                { mine, owned, rest, taken := taken ++ [id] })) ?_ after
        simp [Stage.next, SeatStatement.full, full, meets, SeatStatement.mode]

theorem ends_sweepExpired (batch : Nat) :
    (Stage.selecting (.sweepExpiredHolds batch)).Ends hashtext now db
      (sweepExpired batch (fun _ => false) now db).2 := by
  refine .of_next _ rfl ((ends_sweeping batch _ _ _ [] ?_).congr ?_)
  · exact SeatStatement.rechecks_candidates
  · rw [List.nil_append, List.length_nil, Nat.sub_zero, ← List.map_take]
    rfl

/-- `acquire` takes all of its seats, by the counts that `guard` compares. -/
def HoldService.AcquireRequest.takesAll (request : AcquireRequest)
    (targetCount ownedCount : Nat) : Bool :=
  Queries.guard targetCount ownedCount request.seatIds.length
    request.maxSeats && decide (request.seatIds ≠ [])

theorem rows_holdSeats_eq (request : AcquireRequest) (scan : Scan) :
    (SeatStatement.holdSeats request).rows scan =
      if request.takesAll scan.taken.length scan.owned then some scan.taken
      else none := by
  rw [AcquireRequest.takesAll, SeatStatement.rows]
  cases passed :
      Queries.guard scan.taken.length scan.owned request.seatIds.length
        request.maxSeats with
  | false => simp
  | true =>
      rw [Queries.guard, Bool.and_eq_true, beq_iff_eq] at passed
      have named : scan.taken = [] ↔ request.seatIds = [] := by
        rw [← List.length_eq_zero_iff, passed.1, List.length_eq_zero_iff]
      simp [passed.1, named]

/-- `acquire` holds every seat or leaves the database alone. -/
theorem settled_acquireSeats
    (rowUnique : Unique ScheduleSeat.id db.scheduleSeats) (now : Time)
    (request : AcquireRequest) :
    db.settled ((acquireSeats request now db).map Prod.snd) =
      if
        request.takesAll (target request.scheduleId request.seatIds now db).length
          (owned request.scheduleId request.userId now db) then
        db.updateSeats (isTarget request.scheduleId request.seatIds now)
          (hold request.userId (now + seconds request.ttlSec))
      else db := by
  rw [AcquireRequest.takesAll, acquireSeats, holdSeats_eq rowUnique]
  cases passed :
      guard (target request.scheduleId request.seatIds now db).length
        (owned request.scheduleId request.userId now db)
        request.seatIds.length request.maxSeats with
  | false =>
      simp only [Bool.and_false, Bool.false_and, updatedRows,
        List.filter_false, List.map_nil]
      split
      · rfl
      · rfl
  | true =>
      have counted :
          (updatedRows (isTarget request.scheduleId request.seatIds now)
              (hold request.userId (now + seconds request.ttlSec))
              db.scheduleSeats).length =
            request.seatIds.length := by
        rw [Queries.guard, Bool.and_eq_true, beq_iff_eq, target,
          List.length_insertionSort] at passed
        rw [updatedRows, List.length_map, passed.1]
      simp only [Bool.and_true, Bool.true_and, decide_eq_true_eq]
      cases rows :
          updatedRows (isTarget request.scheduleId request.seatIds now)
            (hold request.userId (now + seconds request.ttlSec))
            db.scheduleSeats with
      | nil =>
          rw [rows, List.length_nil] at counted
          have unnamed := List.length_eq_zero_iff.mp counted.symm
          rw [if_neg (not_not.mpr unnamed)]
          dsimp only
          split
          · rfl
          · rfl
      | cons first rest =>
          rw [rows] at counted
          have named : request.seatIds ≠ [] := by
            rintro unnamed
            simp [unnamed] at counted
          rw [if_pos named]
          dsimp only
          rw [if_neg (not_not.mpr counted)]
          rfl

/-- What `acquire` writes is what its transaction writes. -/
theorem ends_acquire (rowUnique : Unique ScheduleSeat.id db.scheduleSeats)
    (request : AcquireRequest) :
    (Stage.quota request).Ends hashtext now db
      (db.settled ((acquireSeats request now db).map Prod.snd)) := by
  refine .of_next _ rfl (SeatStatement.ends_selecting rfl ?_)
  rw [settled_acquireSeats rowUnique]
  have size :
      ((SeatStatement.holdSeats request).scan now db).done.taken.length =
        (target request.scheduleId request.seatIds now db).length :=
    List.length_map _
  have found :=
    rows_holdSeats_eq request ((SeatStatement.holdSeats request).scan now db).done
  rw [size] at found
  split
  · rename_i takes
    have written :
        (SeatStatement.holdSeats request).write now
            ((SeatStatement.holdSeats request).scan now db).done.taken db =
          db.updateSeats (isTarget request.scheduleId request.seatIds now)
            (hold request.userId (now + seconds request.ttlSec)) :=
      SeatStatement.write_candidates rowUnique (.holdSeats request) [] db rfl
    rw [← written]
    exact SeatStatement.ends_concluded (found.trans (if_pos takes))
  · rename_i fails
    exact SeatStatement.ends_abandoned (found.trans (if_neg fails))

/-- What a confirmation has written before it records the approval. -/
def Order.claimed (order : Order) (now : Time) (db : Db) : Db :=
  { (markOrderPaid order.id db).2 with
    orderItems := db.orderItems ++ order.claims now db }

/-- The confirmation of a pending order books all of its seats. -/
structure Order.Bookable (order : Order) (now : Time) (db : Db) : Prop where
  unsold :
    Unique OrderItem.scheduleSeatId (db.orderItems ++ order.claims now db)
  complete : (order.claims now db).length = order.seatIds.length
  booked :
    (bookOrderSeats order.id (order.claimed now db)).1.length =
      order.seatIds.length

theorem settled_confirmPaid_of_bookable {order : Order} {pgTid : String}
    (loaded : loadOrder order.id db = .ok order)
    (pending : (markOrderPaid order.id db).1 ≠ [])
    (named : order.seatIds ≠ []) (bookable : order.Bookable now db) :
    db.settled ((confirmPaid order.id pgTid now db).map Prod.snd) =
      db.settled
        (recordApproval order (order.claims now db) pgTid
          (bookOrderSeats order.id (order.claimed now db)).2) := by
  obtain ⟨unsold, complete, booked⟩ := bookable
  have claimed :
      claimOrExpire order now (markOrderPaid order.id db).2 =
        .ok (order.claims now db, order.claimed now db) := by
    have found :
        claimOrderItems order.id order.scheduleId order.userId order.seatIds now
            (markOrderPaid order.id db).2 =
          .ok (order.claims now db, order.claimed now db) :=
      if_pos unsold
    rw [claimOrExpire, found]
  simp only [confirmPaid, loaded, claimed, pending, named, complete, booked,
    bind, Except.bind, if_false, ne_eq, not_true_eq_false]
  cases recordApproval order (order.claims now db) pgTid
      (bookOrderSeats order.id (order.claimed now db)).2 with
  | error error => rfl
  | ok confirmed => rfl

theorem settled_confirmPaid_of_fails
    (orderUnique : Unique Order.id db.orders) {order : Order} {pgTid : String}
    (member : order ∈ db.orders)
    (fails :
      (markOrderPaid order.id db).1 = [] ∨ order.seatIds = [] ∨
        ¬ order.Bookable now db) :
    db.settled ((confirmPaid order.id pgTid now db).map Prod.snd) = db := by
  cases ended : confirmPaid order.id pgTid now db with
  | error error => rfl
  | ok result =>
      obtain ⟨returned, after⟩ := result
      cases returned with
      | false => exact confirmPaid_false ended
      | true =>
          obtain ⟨other, equal, confirmed⟩ := confirmPaid_true ended
          obtain rfl := orderUnique.eq confirmed.member member equal
          rcases fails with settled | unnamed | fails
          · exact absurd settled (markOrderPaid_ne_nil.mpr confirmed.pending)
          · exact absurd unnamed confirmed.nonempty
          · exact
              absurd
                ⟨confirmed.unsold, confirmed.complete, confirmed.booked⟩ fails

/-! ### The claim of the seats -/

section Claiming

variable {order : Order} {pgTid : String} {items : List OrderItem}

/-- An item is inserted when no entry of the index collides. -/
theorem ends_inserting {rest : List OrderItem}
    (unsold :
      ∀ item ∈ rest,
        db.orderItems.any (·.scheduleSeatId == item.scheduleSeatId) = false)
    (ends :
      (Stage.referencing order pgTid items items).Ends hashtext now db after) :
    (Stage.inserting order pgTid items rest).Ends hashtext now db after := by
  induction rest with
  | nil => exact .of_next _ rfl ends
  | cons item rest induction =>
      have absent := unsold item List.mem_cons_self
      refine
        .of_next
          (.grant (.item item.scheduleSeatId) .forUpdate
            (.inserting order pgTid items rest)) ?_
          (induction fun other member =>
            unsold other (List.mem_cons_of_mem item member))
      simp only [Stage.next, absent, Bool.false_eq_true, if_false]

/-- An entry that collides ends the transaction. -/
theorem ends_colliding {rest : List OrderItem}
    (sold :
      ∃ item ∈ rest,
        db.orderItems.any (·.scheduleSeatId == item.scheduleSeatId) = true) :
    (Stage.inserting order pgTid items rest).Ends hashtext now db db := by
  induction rest with
  | nil =>
      obtain ⟨item, member, -⟩ := sold
      cases member
  | cons item rest induction =>
      cases found :
          db.orderItems.any (·.scheduleSeatId == item.scheduleSeatId) with
      | true =>
          refine .ended ?_
          simp only [Stage.next, found, if_true]
      | false =>
          refine
            .of_next
              (.grant (.item item.scheduleSeatId) .forUpdate
                (.inserting order pgTid items rest)) ?_
              (induction ?_)
          · simp only [Stage.next, found, Bool.false_eq_true, if_false]
          · obtain ⟨other, member, collides⟩ := sold
            rcases List.mem_cons.mp member with rfl | later
            · exact absurd collides (by simp [found])
            · exact ⟨other, later, collides⟩

/-- The foreign-key checks of items that refer to rows. -/
theorem ends_referencing {rest : List OrderItem}
    (referred :
      ∀ item ∈ rest,
        db.scheduleSeats.any (·.id == item.scheduleSeatId) = true)
    (ends :
      (Stage.referencing order pgTid items []).Ends hashtext now db after) :
    (Stage.referencing order pgTid items rest).Ends hashtext now db after := by
  induction rest with
  | nil => exact ends
  | cons item rest induction =>
      have refers := referred item List.mem_cons_self
      refine
        .of_next
          (.grant (.seat item.scheduleSeatId) .forKeyShare
            (.referencing order pgTid items rest)) ?_
          (induction fun other member =>
            referred other (List.mem_cons_of_mem item member))
      simp only [Stage.next, refers, if_true]

theorem claims_referred :
    ∀ item ∈ order.claims now db,
      db.scheduleSeats.any (·.id == item.scheduleSeatId) = true := by
  intro item member
  obtain ⟨row, stored, -, rfl⟩ := Confirmed.mem_claims.mp member
  exact List.any_eq_true.mpr ⟨row, stored, beq_self_eq_true _⟩

/-- The seats that the claim locks are those that `book_order_seats` books. -/
theorem length_booked :
    ((SeatStatement.bookOrderSeats order pgTid (order.claims now db)).scan now
        db).done.taken.length =
      (bookOrderSeats order.id (order.claimed now db)).1.length := by
  rw [bookOrderSeats, updatedRows, List.length_map]
  exact List.length_map _

/-- The transaction books the seats when it can book all of them. -/
theorem ends_claiming (rowUnique : Unique ScheduleSeat.id db.scheduleSeats)
    (itemUnique : Unique OrderItem.scheduleSeatId db.orderItems)
    (bookable : order.Bookable now db) :
    (Stage.claiming order pgTid).Ends hashtext now db
      (db.settled
        (recordApproval order (order.claims now db) pgTid
          (bookOrderSeats order.id (order.claimed now db)).2)) := by
  obtain ⟨unsold, complete, booked⟩ := bookable
  refine .of_next _ rfl (ends_inserting ?_ (ends_referencing ?_ ?_))
  · exact (unsold_iff rowUnique itemUnique).mp unsold
  · exact claims_referred
  · refine
      .of_next
        (.stage
          (.selecting (.bookOrderSeats order pgTid (order.claims now db)))) ?_
        (SeatStatement.ends_selecting rfl ?_)
    · exact if_neg (not_not.mpr complete)
    · have written :
          (SeatStatement.bookOrderSeats order pgTid (order.claims now db)).write
              now
              ((SeatStatement.bookOrderSeats order pgTid
                (order.claims now db)).scan now db).done.taken
              (order.claimed now db) =
            (bookOrderSeats order.id (order.claimed now db)).2 :=
        SeatStatement.write_candidates rowUnique
          (.bookOrderSeats order pgTid (order.claims now db)) _
          (order.claimed now db) rfl
      rw [← written]
      refine SeatStatement.ends_concluded ?_
      rw [SeatStatement.rows, length_booked, booked]
      exact if_neg (not_not.mpr rfl)

/-- The transaction writes nothing when it cannot book all of the seats. -/
theorem ends_failing (rowUnique : Unique ScheduleSeat.id db.scheduleSeats)
    (itemUnique : Unique OrderItem.scheduleSeatId db.orderItems)
    (fails : ¬ order.Bookable now db) :
    (Stage.claiming order pgTid).Ends hashtext now db db := by
  refine .of_next _ rfl ?_
  by_cases unsold :
      Unique OrderItem.scheduleSeatId (db.orderItems ++ order.claims now db)
  · refine
      ends_inserting ((unsold_iff rowUnique itemUnique).mp unsold)
        (ends_referencing claims_referred ?_)
    by_cases complete : (order.claims now db).length = order.seatIds.length
    · refine
        .of_next
          (.stage
            (.selecting (.bookOrderSeats order pgTid (order.claims now db)))) ?_
          (SeatStatement.ends_selecting rfl ?_)
      · exact if_neg (not_not.mpr complete)
      · refine SeatStatement.ends_abandoned ?_
        rw [SeatStatement.rows, length_booked]
        exact if_pos fun booked => fails ⟨unsold, complete, booked⟩
    · exact .ended (if_pos complete)
  · refine ends_colliding (by_contra fun absent => unsold ?_)
    refine (unsold_iff rowUnique itemUnique).mpr fun item member => ?_
    exact Bool.eq_false_iff.mpr fun found => absent ⟨item, member, found⟩

end Claiming

theorem ends_confirmPaid (rowUnique : Unique ScheduleSeat.id db.scheduleSeats)
    (orderUnique : Unique Order.id db.orders)
    (itemUnique : Unique OrderItem.scheduleSeatId db.orderItems)
    (orderId : Nat) (pgTid : String) :
    (Stage.confirming orderId pgTid).Ends hashtext now db
      (db.settled ((confirmPaid orderId pgTid now db).map Prod.snd)) := by
  cases loaded : loadOrder orderId db with
  | error error =>
      refine (Stage.Ends.ended (by simp [Stage.next, loaded])).congr ?_
      simp [confirmPaid, loaded, bind, Except.bind, Except.map]
  | ok order =>
      obtain ⟨member, rfl⟩ := loadOrder_ok loaded
      by_cases waiting : order.status = .pending ∧ order.seatIds ≠ []
      · obtain ⟨pending, named⟩ := waiting
        refine
          .of_next
            (.grant (.order order.id) .forNoKeyUpdate (.claiming order pgTid))
            (by simp [Stage.next, loaded, pending, named]) ?_
        by_cases bookable : order.Bookable now db
        · have marked : (markOrderPaid order.id db).1 ≠ [] :=
            markOrderPaid_ne_nil.mpr ⟨order, member, rfl, pending⟩
          rw [settled_confirmPaid_of_bookable loaded marked named bookable]
          exact ends_claiming rowUnique itemUnique bookable
        · rw [settled_confirmPaid_of_fails orderUnique member
            (Or.inr (Or.inr bookable))]
          exact ends_failing rowUnique itemUnique bookable
      · rw [not_and_or, not_not] at waiting
        have fails : (markOrderPaid order.id db).1 = [] ∨ order.seatIds = [] :=
          waiting.imp_left (markOrder_eq_nil orderUnique member)
        rw [settled_confirmPaid_of_fails orderUnique member
          (fails.imp_right Or.inl)]
        refine .ended ?_
        simp only [Stage.next, loaded]
        exact if_pos waiting

/-- Alone, a transaction leaves the database that the services define. -/
theorem Work.ends (sound : db.Sound) (work : Work) :
    work.first.Ends hashtext now db
      (db.settled (work.run (fun _ => false) now db)) := by
  cases work with
  | acquire request => exact ends_acquire sound.rowUnique request
  | release scheduleId userId seatIds =>
      exact ends_release sound.rowUnique scheduleId userId seatIds
  | sweepExpired batch => exact ends_sweepExpired batch
  | confirmPaid orderId pgTid =>
      exact
        ends_confirmPaid sound.rowUnique sound.orderIdUnique sound.itemUnique
          orderId pgTid
  | closeUnpaid orderId status =>
      exact
        ends_closeUnpaid sound.rowUnique sound.orderIdUnique orderId status
  | recordRefund orderId total attempt =>
      exact ends_recordRefund sound.rowUnique orderId total attempt
  | closeCanceled cancellation attempt =>
      exact
        ends_closeCanceled sound.rowUnique sound.orderIdUnique cancellation
          attempt

end Works

end Ends

/-! ## Runs of one session -/

namespace Server

variable {hashtext : String → Int} {server : Server} {session : Nat}

/-- The session begins, goes on or commits. -/
def Action.own (session : Nat) : Action → Bool
  | .begin other _ => other == session
  | .advance other => other == session
  | .commit other => other == session
  | _ => false

/-- The session is at a stage and holds these locks; nobody else holds any. -/
def alone (server : Server) (session : Nat) (locks : LockTable)
    (stage : Stage) : Server :=
  { server.put session { startedAt := server.clock, stage } with locks }

/-- The session has ended. -/
def ended (server : Server) (session : Nat) (after : Db) : Server :=
  { server with
    db := after
    sessions := Function.update server.sessions session none
    locks := [] }

@[simp]
theorem alone_db (locks : LockTable) (stage : Stage) :
    (server.alone session locks stage).db = server.db := rfl

theorem alone_available {locks : LockTable} {stage : Stage}
    (own : ∀ lock ∈ locks, lock.session = session) :
    (server.alone session locks stage).available session = fun _ _ => true := by
  funext resource mode
  apply List.all_eq_true.mpr
  intro lock held
  simp [own lock held]

theorem alone_finish {locks : LockTable} {stage : Stage}
    (own : ∀ lock ∈ locks, lock.session = session) (after : Db) :
    { (server.alone session locks stage).finish session with db := after } =
      server.ended session after := by
  have released : Locks.release locks session = [] := by
    apply List.filter_eq_nil_iff.mpr
    intro lock held
    simp [own lock held]
  simp [finish, alone, put, ended, released, Function.update_idem]

theorem alone_committed {locks : LockTable}
    (own : ∀ lock ∈ locks, lock.session = session)
    (statement : SeatStatement) (rows : List Nat) :
    (server.alone session locks (.writing statement rows)).committed session
        { startedAt := server.clock, stage := .writing statement rows } =
      some
        (server.ended session
          (server.db.settled (statement.commit server.clock rows server.db))) := by
  cases wrote : statement.commit server.clock rows server.db with
  | ok after =>
      simp only [committed, alone_db, wrote, Db.settled_ok]
      exact congrArg some (alone_finish own after)
  | error error =>
      simp only [committed, alone_db, wrote, Db.settled_error]
      exact congrArg some (alone_finish own server.db)

/-- A session that nobody disturbs takes the server to its last database. -/
theorem run_of_ends {stage : Stage} {after : Db}
    (ends : stage.Ends hashtext server.clock server.db after)
    (locks : LockTable) (own : ∀ lock ∈ locks, lock.session = session) :
    RunWhere (step hashtext) (fun _ action => action.own session = true)
      (server.alone session locks stage) (server.ended session after) := by
  have current (stage : Stage) (locks : LockTable) :
      (server.alone session locks stage).sessions session =
        some { startedAt := server.clock, stage } := by
    simp [alone, put]
  have advances {stage : Stage} {locks : LockTable} {next : Next}
      (own : ∀ lock ∈ locks, lock.session = session)
      (taken :
        stage.next hashtext (fun _ _ => true) server.clock server.db =
          some next) :
      (server.alone session locks stage).step hashtext (.advance session) =
        (server.alone session locks stage).proceed session
          { startedAt := server.clock, stage } next := by
    rw [step, current, Option.bind_some, alone_available own]
    exact congrArg
      (Option.bind · ((server.alone session locks stage).proceed session _))
      taken
  have ownAdvance : (Action.advance session).own session = true := by
    simp [Action.own]
  induction ends generalizing locks with
  | ended next =>
      refine .head ownAdvance ?_ .refl
      rw [advances own next, proceed]
      exact congrArg some (alone_finish own server.db)
  | stage next _ induction =>
      refine .head ownAdvance ?_ (induction locks own)
      rw [advances own next, proceed]
      simp [alone, put]
  | @grant stage later resource mode after next _ induction =>
      have ownGrant :
          ∀ lock ∈ ({ session, resource, mode } :: locks : LockTable),
            lock.session = session := by
        simpa using own
      refine .head ownAdvance ?_ (induction _ ownGrant)
      rw [advances own next, proceed, alone_available own]
      simp [alone, put]
  | commit statement rows =>
      have ownCommit : (Action.commit session).own session = true := by
        simp [Action.own]
      refine .head ownCommit ?_ .refl
      rw [step, current, Option.bind_some]
      exact alone_committed own statement rows

/-- No transaction is in progress, and the tables agree. -/
structure AtRest (server : Server) : Prop where
  sound : server.db.Sound
  idle : ∀ session, server.sessions session = none
  unlocked : server.locks = []

theorem AtRest.initial
    (inventory : Inventory) (startsAt : Nat → Policy.Datetime) (clock : Time) :
    (Server.initial inventory startsAt clock).AtRest where
  sound := World.initial_sound inventory startsAt clock
  idle := fun _ => rfl
  unlocked := rfl

/-- A whole transaction, as the services define it. -/
def perform (server : Server) (work : Work) : Server :=
  { server with
    db :=
      server.db.settled (work.run (fun _ => false) server.clock server.db) }

/-- At rest, a transaction that may begin leaves nothing but its writes behind. -/
theorem AtRest.run_alone (rest : server.AtRest) (session : Nat) {work : Work}
    (admissible : work.admissible = true) :
    RunWhere (Server.step hashtext) (fun _ action => action.own session = true)
      server (server.perform work) := by
  have idle := rest.idle session
  have ownBegin : (Action.begin session work).own session = true := by
    simp [Action.own]
  have begun :
      server.step hashtext (.begin session work) =
        some (server.alone session [] work.first) := by
    simp [Server.step, idle, admissible, alone, put, rest.unlocked]
  have left (after : Db) :
      server.ended session after = { server with db := after } := by
    have unchanged :
        Function.update server.sessions session none = server.sessions := by
      rw [← idle, Function.update_eq_self]
    rw [ended, unchanged, ← rest.unlocked]
  rw [perform, ← left]
  exact .head ownBegin begun (run_of_ends (work.ends rest.sound) [] (by simp))

/-! ## One transaction after the other -/

/-- Time passes, an order is opened, or a whole transaction runs. -/
inductive Serial where
  | tick (elapsed : Nat)
  | openOrder (request : PlaceRequest)
  | perform (work : Work)
deriving DecidableEq, Repr

/-- The services where transactions follow each other. -/
def serial (server : Server) : Serial → Option Server
  | .tick elapsed => some { server with clock := server.clock + elapsed }
  | .openOrder request =>
      match openPending request server.clock server.db with
      | .ok (some _, after) => some { server with db := after }
      | _ => none
  | .perform work =>
      if work.admissible then some (server.perform work) else none

theorem AtRest.serial {next : Server} (rest : server.AtRest) {action : Serial}
    (taken : server.serial action = some next) :
    next.AtRest := by
  cases action with
  | tick elapsed =>
      cases taken
      exact ⟨rest.sound, rest.idle, rest.unlocked⟩
  | openOrder request =>
      simp only [Server.serial] at taken
      split at taken
      · rename_i order after opened
        cases taken
        exact
          ⟨rest.sound.opened (openPending_some opened), rest.idle,
            rest.unlocked⟩
      · cases taken
  | perform work =>
      simp only [Server.serial] at taken
      split at taken
      · rename_i admissible
        cases taken
        refine ⟨?_, rest.idle, rest.unlocked⟩
        rw [perform]
        cases ran :
            work.run (fun _ => false) server.clock server.db with
        | ok after => exact work.sound_after rest.sound admissible ran
        | error error => exact rest.sound
      · cases taken

/-- What the services do one after the other, their statements can do. -/
theorem reachable_of_serial {after : Server} (rest : server.AtRest)
    (run : Reachable serial server after) :
    Reachable (Server.step hashtext) server after := by
  refine
    run.simulated rest (fun _ _ _ rest _ taken => rest.serial taken) ?_
  intro state action next rest taken
  cases action with
  | tick elapsed =>
      have stepped : state.step hashtext (.tick elapsed) = some next := taken
      exact .head trivial stepped .refl
  | openOrder request =>
      have stepped : state.step hashtext (.openOrder request) = some next :=
        taken
      exact .head trivial stepped .refl
  | perform work =>
      simp only [serial] at taken
      split at taken
      · rename_i admissible
        cases taken
        exact (rest.run_alone 0 admissible).mono fun _ _ _ => trivial
      · cases taken

/-- A hold, its order and the confirmation, one after the other. -/
def soldInTurn : List Serial :=
  [.perform (.acquire { scheduleId := 1, userId := 7, seatIds := [1] }),
   .tick 1000,
   .openOrder
    { scheduleId := 1, userId := 7, seatIds := [1], idempotencyKey := "key" },
   .perform (.confirmPaid 1 "tid-1")]

/-- The seat is booked by the statements of the same transactions. -/
theorem reachable_of_serial_sold :
    ∃ after : Server,
      after.db.scheduleSeats.map (·.status) = [.booked] ∧
        Reachable (Server.step fun _ => 0) oneSeat after := by
  obtain ⟨after, run, seen⟩ :=
    RunWhere.exists_of_checkedRun serial (fun _ _ => True) oneSeat soldInTurn
      (fun after => after.db.scheduleSeats.map (·.status) == [.booked])
      (by decide)
  exact
    ⟨after, beq_iff_eq.mp seen, reachable_of_serial (.initial _ _ _) run⟩

end Server

end Curtain
