import Curtain.Allocation

/-!
# What a confirmation leaves behind

A call of `confirm_paid` either writes everything that belongs to a paid order
or nothing.  `Order.Confirms` lists all of it, table by table, and
`ConfirmAnswer.Leaves` says which of the two databases goes with which answer.
Only the keys of the tables are needed for this, not that the services have
written the database.
-/

namespace Curtain

open Queries Table OrderService

/-! ## All that belongs to a paid order -/

/-- What the keys of `schedule_seats` and `orders` promise of every database. -/
structure Db.Constrained (db : Db) : Prop where
  idUnique : Unique Stock.id db.stock
  seatUnique :
    Unique (fun stock => (stock.scheduleId, stock.seatId)) db.stock
  orderUnique : Unique Order.id db.orders

/--
The database after the confirmation of a pending order, with the items that
the order has got: one for each of its seats, all of which were held before.
-/
structure Order.Confirms (order : Order) (pgTid : String)
    (items : List OrderItem) (before after : Db) : Prop where
  member : order ∈ before.orders
  pending : order.status = .pending
  seats :
    ((before.scheduleSeats.filter fun row => order.wants row.stock).map
      (·.seatId)).Perm order.seatIds
  held :
    ∀ row ∈ before.scheduleSeats,
      order.wants row.stock = true → row.status = .held
  scheduleSeats :
    after.scheduleSeats =
      updateWhere (fun row => order.wants row.stock) book before.scheduleSeats
  lines : items.Perm (order.lines before.stock)
  orderItems : after.orderItems = before.orderItems ++ items
  orders :
    after.orders =
      updateWhere (fun row => row.id == order.id)
        (fun row =>
          { row with
            status := .paid
            responseSnapshot := some (snapshot order.id .paid items) })
        before.orders
  payments : Promoted order pgTid before.payments after.payments
  approved :
    ∃ payment,
      (after.payments.filter fun other => other.pgTid == some pgTid) =
          [payment] ∧
        payment.orderId = order.id ∧ payment.status = .approved
  outbox :
    after.outbox =
      before.outbox ++
        [{ topic := "order.paid", payload := .paid order.id order.seatIds }]

/-- The arguments of `confirm_paid`. -/
structure ConfirmCall where
  orderId : Nat
  pgTid : String
deriving DecidableEq, Repr

/-- How a call of `confirm_paid` ends. -/
inductive ConfirmAnswer where
  | returned (confirmed : Bool)
  | raised
deriving DecidableEq, Repr

def ConfirmAnswer.of : Except Raised Bool → ConfirmAnswer
  | .ok confirmed => .returned confirmed
  | .error _ => .raised

/-- The answer `True` goes with all of the writes, every other one with none. -/
def ConfirmAnswer.Leaves (call : ConfirmCall) (before after : Db) :
    ConfirmAnswer → Prop
  | .returned true =>
      ∃ (order : Order) (items : List OrderItem), order.id = call.orderId ∧
        order.Confirms call.pgTid items before after
  | .returned false => after = before
  | .raised => after = before

/-- The payment with the new number is an approved one of the order. -/
theorem Promoted.approved {order : Order} {pgTid : String}
    {before after : List Payment} (promoted : Promoted order pgTid before after)
    (numbered : UniqueNullable Payment.pgTid after) :
    ∃ payment,
      (after.filter fun other => other.pgTid == some pgTid) = [payment] ∧
        payment.orderId = order.id ∧ payment.status = .approved := by
  rcases promoted with ⟨⟨payment, member, requested⟩, rfl⟩ | ⟨-, rfl⟩
  · refine
      ⟨_,
        numbered.filter_eq_singleton (mem_updateWhere_of member requested) rfl,
        ?_, rfl⟩
    simp only [isRequested, Bool.and_eq_true, beq_iff_eq] at requested
    exact requested.1
  · exact
      ⟨_,
        numbered.filter_eq_singleton
          (List.mem_append_right _ List.mem_cons_self) rfl,
        rfl, rfl⟩

/-! ## A call on its own -/

namespace Confirmed

variable {db after : Db} {now : Time} {order : Order} {pgTid : String}

/-- A wanted row is validly held, and an item of the order refers to it. -/
theorem wanted_claimed (confirmed : Confirmed order pgTid now db after)
    (constrained : db.Constrained) {row : ScheduleSeat}
    (member : row ∈ db.scheduleSeats) (wanted : order.wants row.stock = true) :
    isClaim order.scheduleId order.userId order.seatIds now row = true := by
  have listed :
      row ∈ db.scheduleSeats.filter fun row => order.wants row.stock :=
    List.mem_filter.mpr ⟨member, wanted⟩
  rw [← confirmed.claimed_rows constrained.seatUnique] at listed
  exact (List.mem_filter.mp listed).2

/-- The rows that were booked are the rows that the order wants. -/
theorem booked_wanted (confirmed : Confirmed order pgTid now db after)
    (constrained : db.Constrained) :
    after.scheduleSeats =
      updateWhere (fun row => order.wants row.stock) book
        db.scheduleSeats := by
  have narrower :
      ∀ row ∈ db.scheduleSeats, order.wants row.stock = true →
        ((itemSeats order.id
            { db with
              orderItems := db.orderItems ++ order.claims now db }).contains
              row.id && row.status == .held) = true := by
    intro row member wanted
    have claim := confirmed.wanted_claimed constrained member wanted
    have item : order.item row.stock ∈ order.claims now db :=
      mem_claims.mpr ⟨row, member, claim, rfl⟩
    simp only [isClaim, heldLive, Bool.and_eq_true] at claim
    rw [Bool.and_eq_true, List.contains_iff_mem]
    refine ⟨List.mem_map.mpr ⟨order.item row.stock, ?_, rfl⟩, claim.2.1.1⟩
    exact
      List.mem_filter.mpr
        ⟨List.mem_append_right _ item, beq_self_eq_true _⟩
  have counted :
      (db.scheduleSeats.filter fun row => order.wants row.stock).length =
        order.seatIds.length := by
    rw [← confirmed.claimed_rows constrained.seatUnique]
    have complete := confirmed.complete
    rwa [Order.claims, claimedItems, List.length_map,
      List.length_insertionSort] at complete
  have booked := confirmed.booked
  rw [bookOrderSeats, updatedRows, List.length_map, ← counted] at booked
  have same := filter_eq_of_length_le narrower booked.le
  rw [confirmed.after_eq]
  refine updateWhere_congr fun row member => ?_
  rw [Bool.eq_iff_iff]
  refine ⟨fun meets => ?_, narrower row member⟩
  have listed :
      row ∈ db.scheduleSeats.filter fun row => order.wants row.stock := by
    rw [same]
    exact List.mem_filter.mpr ⟨member, meets⟩
  exact (List.mem_filter.mp listed).2

theorem confirms (confirmed : Confirmed order pgTid now db after)
    (constrained : db.Constrained) :
    order.Confirms pgTid (order.claims now db) db after := by
  have lines := confirmed.claims_perm constrained.seatUnique
  exact
    { member := confirmed.member
      pending := confirmed.row_pending constrained.orderUnique
      seats := by
        refine
          Db.filter_seats constrained.seatUnique Order.wants_narrower ?_
        have counted := lines.length_eq
        rw [order.lines_stock, List.length_map, confirmed.complete] at counted
        exact counted.le
      held := fun row member wanted => by
        have claim := confirmed.wanted_claimed constrained member wanted
        simp only [isClaim, heldLive, Bool.and_eq_true, beq_iff_eq] at claim
        exact claim.2.1.1
      scheduleSeats := confirmed.booked_wanted constrained
      lines
      orderItems := confirmed.orderItems
      orders := confirmed.orders constrained.orderUnique
      payments := confirmed.promoted
      approved := confirmed.promoted.approved confirmed.numbered
      outbox := by rw [confirmed.after_eq] }

end Confirmed

/-- Whatever the database, a call that nobody disturbs writes all or nothing. -/
theorem confirmPaid_leaves (call : ConfirmCall) (now : Time) {db : Db}
    (constrained : db.Constrained) :
    (ConfirmAnswer.of
        (tx (confirmPaid call.orderId call.pgTid now) db).1).Leaves call db
      (tx (confirmPaid call.orderId call.pgTid now) db).2 := by
  rw [tx]
  cases ended : confirmPaid call.orderId call.pgTid now db with
  | error error => rfl
  | ok result =>
      obtain ⟨returned, after⟩ := result
      cases returned with
      | true =>
          obtain ⟨order, equal, confirmed⟩ := confirmPaid_true ended
          exact ⟨order, _, equal, confirmed.confirms constrained⟩
      | false => exact confirmPaid_false ended

end Curtain
