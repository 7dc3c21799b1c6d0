import Curtain.Services

/-!
# What each transaction does

For every transaction of the services, one lemma that says what a committed
run of it found and what it wrote.  Later modules reason from these lemmas and
never open a transaction again.
-/

namespace Curtain

open Queries Table

/-- A committed sequence of two steps committed both. -/
theorem bind_eq_ok {Failure First Second : Type}
    {first : Except Failure First} {next : First → Except Failure Second}
    {result : Second} :
    (first >>= next) = .ok result ↔
      ∃ value, first = .ok value ∧ next value = .ok result := by
  cases first with
  | error failure => simp [bind, Except.bind]
  | ok value => simp [bind, Except.bind]

/-! ## Stock -/

/-- The columns of a stock row that no statement writes. -/
structure Stock where
  id : Nat
  scheduleId : Nat
  seatId : Nat
  grade : String
  price : Int
deriving DecidableEq, Repr

def ScheduleSeat.stock (row : ScheduleSeat) : Stock :=
  { id := row.id
    scheduleId := row.scheduleId
    seatId := row.seatId
    grade := row.grade
    price := row.price }

def Db.stock (db : Db) : List Stock :=
  db.scheduleSeats.map ScheduleSeat.stock

/-- Replace the stock rows that meet a condition. -/
def Db.updateSeats (condition : ScheduleSeat → Bool)
    (change : ScheduleSeat → ScheduleSeat) (db : Db) : Db :=
  { db with scheduleSeats := updateWhere condition change db.scheduleSeats }

section UpdateSeats

variable (condition : ScheduleSeat → Bool)
variable (change : ScheduleSeat → ScheduleSeat) (db : Db)

@[simp]
theorem Db.updateSeats_orders :
    (db.updateSeats condition change).orders = db.orders := rfl

@[simp]
theorem Db.updateSeats_orderItems :
    (db.updateSeats condition change).orderItems = db.orderItems := rfl

@[simp]
theorem Db.updateSeats_payments :
    (db.updateSeats condition change).payments = db.payments := rfl

@[simp]
theorem Db.updateSeats_outbox :
    (db.updateSeats condition change).outbox = db.outbox := rfl

@[simp]
theorem Db.updateSeats_scheduleSeats :
    (db.updateSeats condition change).scheduleSeats =
      updateWhere condition change db.scheduleSeats := rfl

variable {condition change db}

theorem Db.updateSeats_stock
    (kept : ∀ row, (change row).stock = row.stock) :
    (db.updateSeats condition change).stock = db.stock :=
  map_updateWhere ScheduleSeat.stock kept db.scheduleSeats

end UpdateSeats

/-! ## Holds -/

section Holds

variable {db : Db} {now : Time}

@[simp]
theorem hold_stock (userId : Nat) (expiresAt : Time) (row : ScheduleSeat) :
    (hold userId expiresAt row).stock = row.stock := rfl

@[simp]
theorem free_stock (row : ScheduleSeat) : (free row).stock = row.stock := rfl

@[simp]
theorem book_stock (row : ScheduleSeat) : (book row).stock = row.stock := rfl

@[simp]
theorem restore_stock (row : ScheduleSeat) :
    (restore row).stock = row.stock := rfl

/-- The rows that `hold_seats` locks are exactly the rows its condition selects. -/
theorem mem_target_ids
    (unique : Unique ScheduleSeat.id db.scheduleSeats)
    (scheduleId : Nat) (wanted : List Nat) {row : ScheduleSeat}
    (member : row ∈ db.scheduleSeats) :
    ((target scheduleId wanted now db).map (·.id)).contains row.id =
      isTarget scheduleId wanted now row :=
  unique.contains_of_perm ((List.perm_insertionSort _ _).map _) member

/-- `hold_seats` without its detour through the row numbers. -/
theorem holdSeats_eq
    (unique : Unique ScheduleSeat.id db.scheduleSeats)
    (scheduleId userId : Nat) (seatIds : List Nat)
    (maxSeats : Nat) (holdTtlSec : Int) :
    holdSeats scheduleId userId seatIds maxSeats holdTtlSec now db =
      let condition := fun row : ScheduleSeat =>
        isTarget scheduleId seatIds now row &&
          guard (target scheduleId seatIds now db).length
            (owned scheduleId userId now db) seatIds.length maxSeats
      let change := hold userId (now + seconds holdTtlSec)
      (updatedRows condition change db.scheduleSeats,
        db.updateSeats condition change) := by
  have agree :
      ∀ row ∈ db.scheduleSeats,
        (((target scheduleId seatIds now db).map (·.id)).contains row.id &&
          guard (target scheduleId seatIds now db).length
            (owned scheduleId userId now db) seatIds.length maxSeats) =
        (isTarget scheduleId seatIds now row &&
          guard (target scheduleId seatIds now db).length
            (owned scheduleId userId now db) seatIds.length maxSeats) := by
    intro row member
    rw [mem_target_ids unique scheduleId seatIds member]
  simp only [holdSeats, Db.updateSeats]
  rw [updatedRows_congr agree, updateWhere_congr agree]

/-- A successful `acquire` found every seat claimable and holds them all. -/
theorem acquireSeats_ok
    (unique : Unique ScheduleSeat.id db.scheduleSeats)
    {request : HoldService.AcquireRequest} {held : HoldService.Hold} {after : Db}
    (ok : HoldService.acquireSeats request now db = .ok (held, after)) :
    guard (target request.scheduleId request.seatIds now db).length
        (owned request.scheduleId request.userId now db)
        request.seatIds.length request.maxSeats = true ∧
      after =
        db.updateSeats (isTarget request.scheduleId request.seatIds now)
          (hold request.userId (now + seconds request.ttlSec)) := by
  rw [HoldService.acquireSeats, holdSeats_eq unique] at ok
  cases passed :
      guard (target request.scheduleId request.seatIds now db).length
        (owned request.scheduleId request.userId now db)
        request.seatIds.length request.maxSeats with
  | false =>
      simp only [passed, Bool.and_false] at ok
      split at ok
      · split at ok <;> simp at ok
      · rename_i rows first rest found
        simp [updatedRows] at found
  | true =>
      simp only [passed, Bool.and_true] at ok
      split at ok
      · split at ok <;> simp at ok
      · split at ok
        · simp at ok
        · simp only [Except.ok.injEq, Prod.mk.injEq] at ok
          exact ⟨rfl, ok.2.symm⟩

/-- Holding seats changes what no row is. -/
theorem acquireSeats_stock
    {request : HoldService.AcquireRequest} {held : HoldService.Hold} {after : Db}
    (ok : HoldService.acquireSeats request now db = .ok (held, after)) :
    after.stock = db.stock := by
  rw [HoldService.acquireSeats, holdSeats] at ok
  dsimp only at ok
  split at ok
  · split at ok <;> cases ok
  · split at ok
    · cases ok
    · cases ok
      exact
        map_updateWhere ScheduleSeat.stock (hold_stock _ _) db.scheduleSeats

theorem releaseSeats_snd
    (scheduleId userId : Nat) (seatIds : List Nat) :
    (HoldService.releaseSeats scheduleId userId seatIds db).2 =
      db.updateSeats (isHoldOf scheduleId userId seatIds) free := rfl

/-- The sweep frees some of the expired holds. -/
theorem sweepExpired_snd
    (unique : Unique ScheduleSeat.id db.scheduleSeats)
    (now : Time) (batch : Nat) (locked : Nat → Bool) :
    ∃ condition : ScheduleSeat → Bool,
      (∀ row ∈ db.scheduleSeats,
        condition row = true → isExpiredHold now row = true) ∧
      (HoldService.sweepExpired batch locked now db).2 =
        db.updateSeats condition free := by
  refine
    ⟨fun row =>
      (((expiredHolds locked now db).take batch).map (·.id)).contains row.id,
      ?_, rfl⟩
  intro row member taken
  have included :
      (expiredHolds locked now db).take batch ⊆ db.scheduleSeats := by
    intro other otherMember
    have inHolds := List.mem_of_mem_take otherMember
    exact
      (List.mem_filter.mp ((List.mem_insertionSort _).mp inHolds)).1
  have inTaken :=
    (unique.mem_map_iff included member).mp (List.contains_iff_mem.mp taken)
  have inHolds :=
    (List.mem_insertionSort _).mp (List.mem_of_mem_take inTaken)
  have both := (List.mem_filter.mp inHolds).2
  simp only [Bool.and_eq_true] at both
  exact both.1

end Holds

/-! ## Payments -/

section Payments

variable {db after : Db}

/-- An insertion into `payments` that the unique column admits. -/
theorem insertPayment_ok
    {orderId : Nat} {status : PayStatus} {amount : Int}
    {pgTid : Option String} {fees : Option FeeSnapshot} :
    insertPayment orderId status amount pgTid fees db = .ok after ↔
      let payment : Payment :=
        { id := db.payments.length + 1
          orderId, pgTid, status, amount, feeSnapshot := fees }
      UniqueNullable Payment.pgTid (db.payments ++ [payment]) ∧
        after = { db with payments := db.payments ++ [payment] } := by
  rw [insertPayment, storePayments]
  split
  · rename_i unique
    simp only [Except.ok.injEq, unique, true_and]
    exact eq_comm
  · rename_i collision
    simp [collision]

theorem promotePaymentToApproved_ok
    {orderId : Nat} {pgTid : String} {promoted : List Payment} :
    promotePaymentToApproved orderId pgTid db = .ok (promoted, after) ↔
      let change := fun payment : Payment =>
        { payment with status := .approved, pgTid := some pgTid }
      let payments := updateWhere (isRequested orderId) change db.payments
      UniqueNullable Payment.pgTid payments ∧
        promoted = updatedRows (isRequested orderId) change db.payments ∧
        after = { db with payments } := by
  rw [promotePaymentToApproved, storePayments]
  split
  · rename_i unique
    simp only [bind, Except.bind, pure, Except.pure, Except.ok.injEq,
      Prod.mk.injEq, unique, true_and]
    exact and_congr eq_comm eq_comm
  · rename_i collision
    simp [collision, bind, Except.bind]

end Payments

/-! ## Orders -/

section Orders

variable {db after : Db} {now : Time}

theorem loadOrder_ok {orderId : Nat} {order : Order}
    (ok : OrderService.loadOrder orderId db = .ok order) :
    order ∈ db.orders ∧ order.id = orderId := by
  rw [OrderService.loadOrder] at ok
  split at ok
  · rename_i found
    cases ok
    exact lookup_mem found
  · cases ok

/-- What `place` finds and writes when it opens an order. -/
structure Opened
    (request : OrderService.PlaceRequest) (now : Time) (db : Db)
    (order : Order) (after : Db) : Prop where
  held :
    (db.scheduleSeats.filter
      (isOrderable request.scheduleId request.userId request.wanted
        request.minHoldRemainingSec now)).length = request.wanted.length
  fresh : ∀ old ∈ db.orders, old.idempotencyKey ≠ request.idempotencyKey
  order_eq :
    order =
      { id := db.orders.length + 1
        userId := request.userId
        scheduleId := request.scheduleId
        status := .pending
        seatIds := request.wanted
        totalAmount :=
          ((db.scheduleSeats.filter
            (isOrderable request.scheduleId request.userId request.wanted
              request.minHoldRemainingSec now)).map (·.price)).sum
        idempotencyKey := request.idempotencyKey
        responseSnapshot := none
        createdAt := now }
  fits : fitsInteger order.totalAmount = true
  numbered : UniqueNullable Payment.pgTid after.payments
  after_eq :
    after =
      { db with
        orders := db.orders ++ [order]
        payments :=
          db.payments ++
            [{ id := db.payments.length + 1
               orderId := order.id
               pgTid := none
               status := .requested
               amount := order.totalAmount
               feeSnapshot := none }] }

namespace Opened

variable {request : OrderService.PlaceRequest} {order : Order}

theorem mem_orders_iff (opened : Opened request now db order after)
    {row : Order} :
    row ∈ after.orders ↔ row ∈ db.orders ∨ row = order := by
  rw [opened.after_eq, List.mem_append, List.mem_singleton]

theorem mem_orders (opened : Opened request now db order after) :
    order ∈ after.orders :=
  opened.mem_orders_iff.mpr (Or.inr rfl)

theorem pending (opened : Opened request now db order after) :
    order.status = .pending := by
  rw [opened.order_eq]

theorem id_eq (opened : Opened request now db order after) :
    order.id = db.orders.length + 1 := by
  rw [opened.order_eq]

/-- The new order is numbered after all others. -/
theorem older (opened : Opened request now db order after)
    (bound : ∀ old ∈ db.orders, old.id ≤ db.orders.length)
    {old : Order} (member : old ∈ db.orders) :
    old.id < order.id := by
  rw [opened.id_eq]
  exact Nat.lt_succ_of_le (bound old member)

theorem scheduleSeats (opened : Opened request now db order after) :
    after.scheduleSeats = db.scheduleSeats := by
  rw [opened.after_eq]

theorem stock (opened : Opened request now db order after) :
    after.stock = db.stock := by
  rw [Db.stock, Db.stock, opened.scheduleSeats]

theorem orderItems (opened : Opened request now db order after) :
    after.orderItems = db.orderItems := by
  rw [opened.after_eq]

end Opened

theorem openPending_some
    {request : OrderService.PlaceRequest} {order : Order}
    (ok : OrderService.openPending request now db = .ok (some order, after)) :
    Opened request now db order after := by
  obtain ⟨⟨opened, middle⟩, openOk, restOk⟩ := bind_eq_ok.mp ok
  rw [openOrder] at openOk
  split at openOk
  · cases openOk
    cases restOk
  · rename_i complete
    split at openOk
    · cases openOk
    · rename_i representable
      split at openOk
      · cases openOk
        cases restOk
      · rename_i unused
        cases openOk
        obtain ⟨stored, paymentOk, final⟩ := bind_eq_ok.mp restOk
        cases final
        obtain ⟨unique, rfl⟩ := insertPayment_ok.mp paymentOk
        refine
          { held := not_not.mp complete
            fresh := ?_
            order_eq := rfl
            fits := by simpa using representable
            numbered := unique
            after_eq := rfl }
        simpa using unused

/-- Without a new order the transaction of `place` writes nothing. -/
theorem openPending_none
    {request : OrderService.PlaceRequest}
    (ok : OrderService.openPending request now db = .ok (none, after)) :
    after = db := by
  obtain ⟨⟨opened, middle⟩, openOk, restOk⟩ := bind_eq_ok.mp ok
  rw [openOrder] at openOk
  split at openOk
  · cases openOk
    cases restOk
    rfl
  · split at openOk
    · cases openOk
    · split at openOk
      · cases openOk
        cases restOk
        rfl
      · cases openOk
        obtain ⟨stored, -, final⟩ := bind_eq_ok.mp restOk
        cases final

/-- The payments after a confirmation: the request is promoted, or a row is added. -/
def Promoted (order : Order) (pgTid : String) (before after : List Payment) :
    Prop :=
  ((∃ payment ∈ before, isRequested order.id payment = true) ∧
      after =
        updateWhere (isRequested order.id)
          (fun payment =>
            { payment with status := .approved, pgTid := some pgTid })
          before) ∨
    ((∀ payment ∈ before, isRequested order.id payment = false) ∧
      after =
        before ++
          [{ id := before.length + 1
             orderId := order.id
             pgTid := some pgTid
             status := .approved
             amount := order.totalAmount
             feeSnapshot := none }])

/-- The items a confirmation of the order would insert. -/
def Order.claims (order : Order) (now : Time) (db : Db) : List OrderItem :=
  claimedItems order.id order.scheduleId order.userId order.seatIds now db

/-- What a confirmation that returns `True` finds and writes. -/
structure Confirmed
    (order : Order) (pgTid : String) (now : Time) (db after : Db) : Prop where
  member : order ∈ db.orders
  pending :
    ∃ row ∈ db.orders, row.id = order.id ∧ row.status = .pending
  nonempty : order.seatIds ≠ []
  complete : (order.claims now db).length = order.seatIds.length
  unsold :
    Unique OrderItem.scheduleSeatId (db.orderItems ++ order.claims now db)
  booked :
    (bookOrderSeats order.id
      { db with
        orderItems := db.orderItems ++ order.claims now db }).1.length =
      order.seatIds.length
  numbered : UniqueNullable Payment.pgTid after.payments
  promoted : Promoted order pgTid db.payments after.payments
  after_eq :
    after =
      { scheduleSeats :=
          (bookOrderSeats order.id
            { db with
              orderItems :=
                db.orderItems ++ order.claims now db }).2.scheduleSeats
        orders :=
          (setOrderSnapshot order.id
            (OrderService.snapshot order.id .paid (order.claims now db))
            (markOrderPaid order.id db).2).2.orders
        orderItems := db.orderItems ++ order.claims now db
        payments := after.payments
        outbox :=
          db.outbox ++
            [{ topic := "order.paid", payload := .paid order.id order.seatIds }]
        startsAt := db.startsAt }

theorem recordApproval_ok
    {order : Order} {items : List OrderItem} {pgTid : String}
    (ok : OrderService.recordApproval order items pgTid db = .ok after) :
    UniqueNullable Payment.pgTid after.payments ∧
      Promoted order pgTid db.payments after.payments ∧
      after =
        { db with
          orders :=
            (setOrderSnapshot order.id
              (OrderService.snapshot order.id .paid items) db).2.orders
          payments := after.payments
          outbox :=
            db.outbox ++
              [{ topic := "order.paid"
                 payload := .paid order.id order.seatIds }] } := by
  obtain ⟨⟨promoted, middle⟩, promoteOk, restOk⟩ := bind_eq_ok.mp ok
  obtain ⟨numbered, rfl, rfl⟩ := promotePaymentToApproved_ok.mp promoteOk
  dsimp only at restOk
  split at restOk
  · rename_i absent
    have unrequested := updatedRows_eq_nil.mp absent
    obtain ⟨stored, inserted, final⟩ := bind_eq_ok.mp restOk
    cases final
    obtain ⟨unique, rfl⟩ := insertPayment_ok.mp inserted
    simp only [updateWhere_eq_self unrequested] at unique ⊢
    exact ⟨unique, Or.inr ⟨unrequested, rfl⟩, rfl⟩
  · rename_i present
    cases restOk
    refine ⟨numbered, Or.inl ⟨?_, rfl⟩, rfl⟩
    simpa using present

theorem markOrder_ne_nil {orderId : Nat} {status expect : OrderStatus} :
    (markOrder orderId status expect db).1 ≠ [] ↔
      ∃ row ∈ db.orders, row.id = orderId ∧ row.status = expect := by
  simp [markOrder, updateOrder, updatedRows, List.filter_eq_nil_iff]

theorem markOrderPaid_ne_nil {orderId : Nat} :
    (markOrderPaid orderId db).1 ≠ [] ↔
      ∃ row ∈ db.orders, row.id = orderId ∧ row.status = .pending := by
  simp [markOrderPaid, updateOrder, updatedRows, List.filter_eq_nil_iff]

/-- A transition to another status makes no order paid. -/
theorem paid_markOrder {orderId : Nat} {status expect : OrderStatus}
    (unpaid : status ≠ .paid) {order : Order}
    (member : order ∈ (markOrder orderId status expect db).2.orders)
    (paid : order.status = .paid) :
    order ∈ db.orders := by
  obtain ⟨old, oldMember, ⟨-, rfl⟩ | ⟨-, rfl⟩⟩ := mem_updateWhere.mp member
  · exact absurd paid unpaid
  · exact oldMember

theorem confirmPaid_true
    {orderId : Nat} {pgTid : String}
    (ok : OrderService.confirmPaid orderId pgTid now db = .ok (true, after)) :
    ∃ order : Order, order.id = orderId ∧ Confirmed order pgTid now db after := by
  obtain ⟨order, loaded, restOk⟩ := bind_eq_ok.mp ok
  obtain ⟨member, rfl⟩ := loadOrder_ok loaded
  refine ⟨order, rfl, ?_⟩
  dsimp only at restOk
  split at restOk
  · cases restOk
  · rename_i pending
    split at restOk
    · cases restOk
    · rename_i nonempty
      obtain ⟨⟨items, withItems⟩, claimOk, bookOk⟩ := bind_eq_ok.mp restOk
      rw [OrderService.claimOrExpire, claimOrderItems] at claimOk
      split at claimOk
      · rename_i claimed found
        cases claimOk
        split at found
        · rename_i unsold
          cases found
          split at bookOk
          · cases bookOk
          · rename_i complete
            split at bookOk
            · cases bookOk
            · rename_i booked
              obtain ⟨confirmed, approvalOk, final⟩ := bind_eq_ok.mp bookOk
              cases final
              obtain ⟨numbered, promoted, final⟩ :=
                recordApproval_ok approvalOk
              exact
                { member
                  pending := markOrderPaid_ne_nil.mp pending
                  nonempty
                  complete := not_not.mp complete
                  unsold
                  booked := not_not.mp booked
                  numbered
                  promoted
                  after_eq := final }
        · cases found
      · cases claimOk

/-- A confirmation that returns `False` writes nothing. -/
theorem confirmPaid_false
    {orderId : Nat} {pgTid : String}
    (ok : OrderService.confirmPaid orderId pgTid now db = .ok (false, after)) :
    after = db := by
  obtain ⟨order, -, restOk⟩ := bind_eq_ok.mp ok
  dsimp only at restOk
  split at restOk
  · cases restOk
    rfl
  · split at restOk
    · cases restOk
    · obtain ⟨claimed, -, bookOk⟩ := bind_eq_ok.mp restOk
      split at bookOk
      · cases bookOk
      · split at bookOk
        · cases bookOk
        · obtain ⟨confirmed, -, final⟩ := bind_eq_ok.mp bookOk
          cases final

/-- `HoldExpired` comes out of a confirmation only for a pending order. -/
theorem confirmPaid_expired
    {orderId : Nat} {pgTid : String} {error : Raised}
    (failed : OrderService.confirmPaid orderId pgTid now db = .error error)
    (expired : error.isHoldExpired = true) :
    ∃ row ∈ db.orders, row.id = orderId ∧ row.status = .pending := by
  rw [OrderService.confirmPaid] at failed
  cases loaded : OrderService.loadOrder orderId db with
  | error missing =>
      rw [loaded] at failed
      cases failed
      rw [OrderService.loadOrder] at loaded
      split at loaded
      · cases loaded
      · cases loaded
        cases expired
  | ok order =>
      rw [loaded] at failed
      simp only [bind, Except.bind] at failed
      split at failed
      · cases failed
      · rename_i pending
        exact markOrderPaid_ne_nil.mp pending

/-- `_close_unpaid` leaves a settled order alone, or closes a pending one. -/
theorem closeUnpaid_ok
    {orderId : Nat} {status : OrderStatus}
    (ok : OrderService.closeUnpaid orderId status db = .ok after) :
    after = db ∨
      ∃ order ∈ db.orders, order.id = orderId ∧
        (∃ row ∈ db.orders, row.id = orderId ∧ row.status = .pending) ∧
        after =
          Db.updateSeats
            (isHoldOf order.scheduleId order.userId order.seatIds) free
            (failPendingPayments orderId
              (markOrder orderId status .pending db).2) := by
  obtain ⟨order, loaded, restOk⟩ := bind_eq_ok.mp ok
  obtain ⟨member, rfl⟩ := loadOrder_ok loaded
  dsimp only at restOk
  split at restOk
  · cases restOk
    exact Or.inl rfl
  · rename_i pending
    right
    refine ⟨order, member, rfl, markOrder_ne_nil.mp pending, ?_⟩
    split at restOk
    · rename_i empty
      cases restOk
      have untouched :
          ∀ row : ScheduleSeat,
            isHoldOf order.scheduleId order.userId order.seatIds row = false := by
        intro row
        simp [isHoldOf, empty]
      rw [Db.updateSeats, updateWhere_eq_self fun row _ => untouched row]
    · cases restOk
      rfl

/-- The refund row of `_refund_and_fail` and what goes with it. -/
theorem recordRefund_ok
    {order : Order} {total : Int} {attempt : OrderService.PayAttempt}
    (ok : OrderService.recordRefund order total attempt db = .ok after) :
    ∃ middle : Db,
      insertPayment order.id (if attempt.approved then .refunded else .failed)
          total attempt.pgTid none db = .ok middle ∧
        after =
          if attempt.approved then
            Db.updateSeats
              (isHoldOf order.scheduleId order.userId order.seatIds) free
              (markOrder order.id .failed .pending
                (failPendingPayments order.id middle)).2
          else failPendingPayments order.id middle := by
  obtain ⟨middle, inserted, restOk⟩ := bind_eq_ok.mp ok
  refine ⟨middle, inserted, ?_⟩
  dsimp only at restOk
  split at restOk
  · rename_i approved
    rw [if_pos approved]
    split at restOk
    · rename_i empty
      cases restOk
      have untouched :
          ∀ row : ScheduleSeat,
            isHoldOf order.scheduleId order.userId order.seatIds row = false := by
        intro row
        simp [isHoldOf, empty]
      rw [Db.updateSeats, updateWhere_eq_self fun row _ => untouched row]
    · cases restOk
      rfl
  · rename_i refused
    cases restOk
    rw [if_neg refused]

/-- The closing transaction of `cancel`: nothing, or the whole cancellation. -/
theorem closeCanceled_ok
    {cancellation : OrderService.Cancellation}
    {attempt : OrderService.PayAttempt}
    (ok : OrderService.closeCanceled cancellation attempt db = .ok after) :
    (after = db ∧
      ∀ row ∈ db.orders,
        row.id = cancellation.order.id → row.status ≠ .paid) ∨
      (∃ row ∈ db.orders,
        row.id = cancellation.order.id ∧ row.status = .paid) ∧
      ∃ refunded : Db,
        insertPayment cancellation.order.id .refunded cancellation.refundAmount
            attempt.pgTid
            (some (OrderService.feeSnapshot cancellation
              (db.startsAt cancellation.order.scheduleId)))
            (markOrder cancellation.order.id .canceled .paid db).2 =
              .ok refunded ∧
          after =
            insertOutbox "order.canceled"
              (.canceled cancellation.order.id cancellation.fee
                cancellation.refundAmount)
              (restoreOrderSeats cancellation.order.id refunded).2 := by
  rw [OrderService.closeCanceled] at ok
  split at ok
  rename_i closed marked found
  by_cases settled : closed = []
  · rw [if_pos settled] at ok
    cases ok
    refine Or.inl ⟨rfl, ?_⟩
    intro row member equal paid
    have hit :
        (markOrder cancellation.order.id .canceled .paid db).1 ≠ [] :=
      markOrder_ne_nil.mpr ⟨row, member, equal, paid⟩
    rw [found] at hit
    exact hit settled
  · rw [if_neg settled] at ok
    obtain ⟨refunded, inserted, final⟩ := bind_eq_ok.mp ok
    cases final
    have hit :
        (markOrder cancellation.order.id .canceled .paid db).1 ≠ [] := by
      rw [found]
      exact settled
    have paid := markOrder_ne_nil.mp hit
    rw [found]
    exact Or.inr ⟨paid, refunded, inserted, rfl⟩

theorem prepareCancel_ok
    {orderId : Nat} {moment : Policy.Datetime}
    {cancellation : OrderService.Cancellation}
    (ok : OrderService.prepareCancel orderId moment db = .ok cancellation) :
    ∃ order ∈ db.orders, ∃ approved : Payment,
      order.id = orderId ∧ order.status = .paid ∧
        approvedPayment orderId db = some approved ∧
        Policy.cancelFee order.totalAmount moment
            (db.startsAt order.scheduleId) = .ok cancellation.fee ∧
        cancellation.order = order ∧
        cancellation.pgTid = approved.pgTid.getD "None" := by
  obtain ⟨order, loaded, restOk⟩ := bind_eq_ok.mp ok
  obtain ⟨member, rfl⟩ := loadOrder_ok loaded
  split at restOk
  · cases restOk
  · rename_i paid
    split at restOk
    · cases restOk
    · rename_i approved found
      split at restOk
      · cases restOk
      · rename_i fee priced
        cases restOk
        exact
          ⟨order, member, approved, rfl, not_not.mp paid, found, priced, rfl,
            rfl⟩

end Orders

end Curtain
