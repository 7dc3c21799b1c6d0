import Curtain.Turns
import Mathlib.Algebra.BigOperators.Group.List.Basic
import Mathlib.Algebra.Ring.Int.Defs

/-!
# Which seats belong to which order

`Db.Sound` ties the four tables together: a seat is booked exactly when its
item belongs to a paid order, and the items of an order are, from its
confirmation on, the stock lines that it asked for.  Every transaction
preserves it.
-/

namespace Curtain

open Queries Table HoldService OrderService

/-! ## The lines of an order -/

/-- The stock row is one of those the order wants to buy. -/
def Order.wants (order : Order) (stock : Stock) : Bool :=
  stock.scheduleId == order.scheduleId && order.seatIds.contains stock.seatId

/-- The item under which the order buys a stock row. -/
def Order.item (order : Order) (stock : Stock) : OrderItem :=
  { orderId := order.id, scheduleSeatId := stock.id, price := stock.price }

/-- The items of the order once it is confirmed. -/
def Order.lines (order : Order) (stock : List Stock) : List OrderItem :=
  (stock.filter order.wants).map order.item

/-- The order has been confirmed at some time: it has a stored answer. -/
def Order.confirmed (order : Order) : Bool :=
  order.responseSnapshot.isSome

/-- The lines, read off the rows themselves. -/
theorem Order.lines_stock (order : Order) (db : Db) :
    order.lines db.stock =
      (db.scheduleSeats.filter fun row => order.wants row.stock).map
        fun row => order.item row.stock := by
  rw [Order.lines, Db.stock, List.filter_map, List.map_map]
  rfl

def Db.itemsOf (db : Db) (orderId : Nat) : List OrderItem :=
  db.orderItems.filter (·.orderId == orderId)

/-- Some paid order has bought the stock row. -/
def Db.Sold (db : Db) (stockId : Nat) : Prop :=
  ∃ item ∈ db.orderItems, item.scheduleSeatId = stockId ∧
    ∃ order ∈ db.orders, order.id = item.orderId ∧ order.status = .paid

/-- What every order row satisfies against the stock. -/
structure Order.Fillable (order : Order) (stock : List Stock) : Prop where
  nodup : order.seatIds.Nodup
  complete : (order.lines stock).length = order.seatIds.length
  total : order.totalAmount = ((order.lines stock).map (·.price)).sum
  unanswered :
    order.status = .pending ∨ order.status = .failed →
      order.responseSnapshot = none
  answered : order.status = .paid → order.confirmed = true

/-- The tables agree with each other. -/
structure Db.Sound (db : Db) : Prop where
  idUnique : Unique Stock.id db.stock
  seatUnique : Unique (fun stock => (stock.scheduleId, stock.seatId)) db.stock
  orderIdUnique : Unique Order.id db.orders
  orderIdBound : ∀ order ∈ db.orders, order.id ≤ db.orders.length
  keyUnique : Unique Order.idempotencyKey db.orders
  itemUnique : Unique OrderItem.scheduleSeatId db.orderItems
  fillable : ∀ order ∈ db.orders, order.Fillable db.stock
  filled :
    ∀ order ∈ db.orders,
      (db.itemsOf order.id).Perm
        (if order.confirmed then order.lines db.stock else [])
  owned : ∀ item ∈ db.orderItems, ∃ order ∈ db.orders, order.id = item.orderId
  booked : ∀ row ∈ db.scheduleSeats, row.status = .booked ↔ db.Sold row.id

theorem Db.rowUnique {db : Db} (idUnique : Unique Stock.id db.stock) :
    Unique ScheduleSeat.id db.scheduleSeats := by
  have unique := idUnique
  rwa [Table.Unique, Db.stock, List.map_map] at unique

/-- Rows of one schedule are of different seats. -/
theorem Db.filter_distinct {db : Db}
    (seatUnique :
      Unique (fun stock => (stock.scheduleId, stock.seatId)) db.stock)
    {scheduleId : Nat} {condition : ScheduleSeat → Bool}
    (narrower : ∀ row, condition row = true → row.scheduleId = scheduleId) :
    ((db.scheduleSeats.filter condition).map (·.seatId)).Nodup := by
  have unique := seatUnique
  rw [Table.Unique, Db.stock, List.map_map] at unique
  refine List.Nodup.map_on ?_ ((List.Nodup.of_map _ unique).filter _)
  intro left leftMember right rightMember equal
  obtain ⟨leftRow, leftMeets⟩ := List.mem_filter.mp leftMember
  obtain ⟨rightRow, rightMeets⟩ := List.mem_filter.mp rightMember
  apply List.inj_on_of_nodup_map unique leftRow rightRow
  simp [ScheduleSeat.stock, equal, narrower left leftMeets,
    narrower right rightMeets]

/-- As many rows of the named seats as there are names are all of them. -/
theorem Db.filter_seats {db : Db}
    (seatUnique :
      Unique (fun stock => (stock.scheduleId, stock.seatId)) db.stock)
    {scheduleId : Nat} {seatIds : List Nat} {condition : ScheduleSeat → Bool}
    (narrower :
      ∀ row, condition row = true →
        row.scheduleId = scheduleId ∧ row.seatId ∈ seatIds)
    (complete :
      seatIds.length ≤ (db.scheduleSeats.filter condition).length) :
    ((db.scheduleSeats.filter condition).map (·.seatId)).Perm seatIds := by
  have included :
      (db.scheduleSeats.filter condition).map (·.seatId) ⊆ seatIds := by
    intro seatId member
    obtain ⟨row, rowMember, rfl⟩ := List.mem_map.mp member
    exact (narrower row (List.mem_filter.mp rowMember).2).2
  refine
    (List.subperm_of_subset
      (Db.filter_distinct seatUnique fun row meets => (narrower row meets).1)
      included).perm_of_length_le ?_
  rwa [List.length_map]

theorem Order.wants_narrower {order : Order} (row : ScheduleSeat)
    (wanted : order.wants row.stock = true) :
    row.scheduleId = order.scheduleId ∧ row.seatId ∈ order.seatIds := by
  simpa [Order.wants, ScheduleSeat.stock] using wanted

/-- An order never wants more stock rows than it names seats. -/
theorem Db.wanted_length_le {db : Db}
    (seatUnique :
      Unique (fun stock => (stock.scheduleId, stock.seatId)) db.stock)
    (order : Order) :
    (db.scheduleSeats.filter fun row => order.wants row.stock).length ≤
      order.seatIds.length := by
  have included :
      ((db.scheduleSeats.filter fun row => order.wants row.stock).map
        (·.seatId)) ⊆ order.seatIds := by
    intro seatId member
    obtain ⟨row, rowMember, rfl⟩ := List.mem_map.mp member
    exact (order.wants_narrower row (List.mem_filter.mp rowMember).2).2
  have bound :=
    (List.subperm_of_subset
      (Db.filter_distinct seatUnique fun row wanted =>
        (order.wants_narrower row wanted).1)
      included).length_le
  rwa [List.length_map] at bound

/-- A condition that meets as many wanted rows as the order names meets them all. -/
theorem Db.wanted_eq {db : Db}
    (seatUnique :
      Unique (fun stock => (stock.scheduleId, stock.seatId)) db.stock)
    {order : Order} {condition : ScheduleSeat → Bool}
    (narrower : ∀ row, condition row = true → order.wants row.stock = true)
    (complete :
      (db.scheduleSeats.filter condition).length = order.seatIds.length) :
    db.scheduleSeats.filter condition =
      db.scheduleSeats.filter fun row => order.wants row.stock := by
  refine filter_eq_of_length_le (fun row _ => narrower row) ?_
  rw [complete]
  exact Db.wanted_length_le seatUnique order

/-- The rows that an order is opened on are all the rows that it wants. -/
theorem Opened.orderable_eq {request : PlaceRequest} {now : Time} {db after : Db}
    {order : Order} (opened : Opened request now db order after)
    (seatUnique :
      Unique (fun stock => (stock.scheduleId, stock.seatId)) db.stock) :
    (db.scheduleSeats.filter
        (isOrderable request.scheduleId request.userId request.wanted
          request.minHoldRemainingSec now)) =
      db.scheduleSeats.filter fun row => order.wants row.stock := by
  apply Db.wanted_eq seatUnique
  · intro row orderable
    simp only [isOrderable, Bool.and_eq_true] at orderable
    simpa [Order.wants, ScheduleSeat.stock, opened.order_eq] using orderable.1
  · rw [opened.held, opened.order_eq]

namespace Db.Sound

variable {db after : Db}

theorem rowUnique (sound : db.Sound) :
    Unique ScheduleSeat.id db.scheduleSeats :=
  Db.rowUnique sound.idUnique

theorem order_eq (sound : db.Sound) {left right : Order}
    (leftMember : left ∈ db.orders) (rightMember : right ∈ db.orders)
    (equal : left.id = right.id) :
    left = right :=
  sound.orderIdUnique.eq leftMember rightMember equal

/-- An order is found under its number. -/
theorem found (sound : db.Sound) {order : Order} (member : order ∈ db.orders) :
    orderForSaga order.id db = some order :=
  (lookup_eq_some sound.orderIdUnique).mpr ⟨member, rfl⟩

theorem item_eq (sound : db.Sound) {left right : OrderItem}
    (leftMember : left ∈ db.orderItems) (rightMember : right ∈ db.orderItems)
    (equal : left.scheduleSeatId = right.scheduleSeatId) :
    left = right :=
  sound.itemUnique.eq leftMember rightMember equal

/-- An order that was never confirmed has no items. -/
theorem item_of_unconfirmed (sound : db.Sound) {order : Order}
    (member : order ∈ db.orders) (unconfirmed : order.confirmed = false) :
    ∀ item ∈ db.orderItems, item.orderId ≠ order.id := by
  have empty := sound.filled order member
  rw [unconfirmed, if_neg Bool.false_ne_true, List.perm_nil, Db.itemsOf,
    List.filter_eq_nil_iff] at empty
  simpa using empty

/-- The items of an order that is being confirmed lead back to its claimed rows. -/
theorem claimed_held (sound : db.Sound) {order : Order} {now : Time}
    (member : order ∈ db.orders) (unconfirmed : order.confirmed = false) :
    ∀ row ∈ db.scheduleSeats,
      ((itemSeats order.id
          { db with orderItems := db.orderItems ++ order.claims now db }).contains
            row.id && row.status == .held) =
        isClaim order.scheduleId order.userId order.seatIds now row := by
  intro row rowMember
  have old : db.orderItems.filter (·.orderId == order.id) = [] := by
    rw [List.filter_eq_nil_iff]
    intro item itemMember
    simpa using
      sound.item_of_unconfirmed member unconfirmed item itemMember
  have own :
      (order.claims now db).filter (·.orderId == order.id) =
        order.claims now db := by
    rw [List.filter_eq_self]
    intro item itemMember
    simp only [Order.claims, claimedItems, List.mem_map] at itemMember
    obtain ⟨claimed, -, rfl⟩ := itemMember
    exact beq_self_eq_true _
  have seats :
      (itemSeats order.id
          { db with orderItems := db.orderItems ++ order.claims now db }).Perm
        ((db.scheduleSeats.filter
            (isClaim order.scheduleId order.userId order.seatIds now)).map
          (·.id)) := by
    rw [itemSeats, List.filter_append, old, own, List.nil_append, Order.claims,
      claimedItems, List.map_map]
    exact (List.perm_insertionSort _ _).map _
  rw [sound.rowUnique.contains_of_perm seats rowMember, Bool.eq_iff_iff,
    Bool.and_eq_true]
  constructor
  · exact And.left
  · intro claim
    refine ⟨claim, ?_⟩
    simp only [isClaim, heldLive, Bool.and_eq_true] at claim
    exact claim.2.1.1

/-- Soundness only depends on the stock, the orders and their items. -/
theorem congr (sound : db.Sound)
    (seats : after.scheduleSeats = db.scheduleSeats)
    (orders : after.orders = db.orders)
    (items : after.orderItems = db.orderItems) :
    after.Sound := by
  obtain ⟨scheduleSeats, orderRows, orderItems, payments, outbox, startsAt⟩ :=
    after
  cases seats
  cases orders
  cases items
  exact
    ⟨sound.idUnique, sound.seatUnique, sound.orderIdUnique, sound.orderIdBound,
      sound.keyUnique, sound.itemUnique, sound.fillable, sound.filled,
      sound.owned, sound.booked⟩

/-- A change of seats that books nothing and frees nothing booked. -/
theorem updateSeats (sound : db.Sound)
    {condition : ScheduleSeat → Bool} {change : ScheduleSeat → ScheduleSeat}
    (kept : ∀ row, (change row).stock = row.stock)
    (unbooked :
      ∀ row ∈ db.scheduleSeats, condition row = true → row.status ≠ .booked)
    (unbooks : ∀ row, (change row).status ≠ .booked) :
    (db.updateSeats condition change).Sound := by
  have stock : (db.updateSeats condition change).stock = db.stock :=
    Db.updateSeats_stock kept
  refine
    { sound with
      idUnique := by rw [stock]; exact sound.idUnique
      seatUnique := by rw [stock]; exact sound.seatUnique
      fillable := by rw [stock]; exact sound.fillable
      filled := by rw [stock]; exact sound.filled
      booked := ?_ }
  intro row member
  obtain ⟨old, oldMember, ⟨touched, rfl⟩ | ⟨-, rfl⟩⟩ :=
    mem_updateWhere.mp member
  · have sameId : (change old).id = old.id := congrArg Stock.id (kept old)
    have unsold := mt (sound.booked old oldMember).mpr (unbooked old oldMember touched)
    rw [sameId]
    exact iff_of_false (unbooks old) unsold
  · exact sound.booked row oldMember

end Db.Sound

/-! ## Transactions that move holds -/

theorem isTarget_unbooked
    {scheduleId : Nat} {wanted : List Nat} {now : Time} {row : ScheduleSeat}
    (target : isTarget scheduleId wanted now row = true) :
    row.status ≠ .booked := by
  intro booked
  simp [isTarget, claimable, booked] at target

theorem isHoldOf_unbooked
    {scheduleId userId : Nat} {seatIds : List Nat} {row : ScheduleSeat}
    (held : isHoldOf scheduleId userId seatIds row = true) :
    row.status ≠ .booked := by
  intro booked
  simp [isHoldOf, booked] at held

theorem isExpiredHold_unbooked
    {now : Time} {row : ScheduleSeat}
    (expired : isExpiredHold now row = true) :
    row.status ≠ .booked := by
  intro booked
  simp [isExpiredHold, booked] at expired

namespace Db.Sound

variable {db after : Db} {now : Time}

theorem acquireSeats (sound : db.Sound)
    {request : AcquireRequest} {held : Hold}
    (ok : HoldService.acquireSeats request now db = .ok (held, after)) :
    after.Sound := by
  obtain ⟨-, rfl⟩ := acquireSeats_ok sound.rowUnique ok
  exact
    sound.updateSeats (hold_stock _ _)
      (fun row _ target => isTarget_unbooked target)
      (fun row => by simp [hold])

theorem freeHolds (sound : db.Sound) (scheduleId userId : Nat)
    (seatIds : List Nat) :
    (db.updateSeats (isHoldOf scheduleId userId seatIds) free).Sound :=
  sound.updateSeats free_stock
    (fun row _ held => isHoldOf_unbooked held)
    (fun row => by simp [free])

theorem sweepExpired (sound : db.Sound) (batch : Nat) (locked : Nat → Bool) :
    (HoldService.sweepExpired batch locked now db).2.Sound := by
  obtain ⟨condition, expired, equal⟩ :=
    sweepExpired_snd sound.rowUnique now batch locked
  rw [equal]
  exact
    sound.updateSeats free_stock
      (fun row member taken =>
        isExpiredHold_unbooked (expired row member taken))
      (fun row => by simp [free])

end Db.Sound

/-! ## Transactions that settle orders -/

namespace Db.Sound

variable {db after : Db} {now : Time}

/-- The pending order becomes `FAILED` or `CANCELED`. -/
theorem closeOrder (sound : db.Sound) (orderId : Nat) {status : OrderStatus}
    (final : status = .failed ∨ status = .canceled) :
    (markOrder orderId status .pending db).2.Sound := by
  have unpaid : status ≠ .paid := by
    rcases final with rfl | rfl <;> decide
  refine
    { sound with
      orderIdUnique := sound.orderIdUnique.updateWhere fun _ => rfl
      orderIdBound := ?_
      keyUnique := sound.keyUnique.updateWhere fun _ => rfl
      fillable := ?_
      filled := ?_
      owned := ?_
      booked := ?_ }
  · intro order member
    obtain ⟨old, oldMember, ⟨-, rfl⟩ | ⟨-, rfl⟩⟩ := mem_updateWhere.mp member
    · simpa [markOrder, updateOrder] using sound.orderIdBound old oldMember
    · simpa [markOrder, updateOrder] using sound.orderIdBound order oldMember
  · intro order member
    obtain ⟨old, oldMember, ⟨touched, rfl⟩ | ⟨-, rfl⟩⟩ :=
      mem_updateWhere.mp member
    · have before := sound.fillable old oldMember
      simp only [Bool.and_eq_true, beq_iff_eq] at touched
      exact
        { nodup := before.nodup
          complete := before.complete
          total := before.total
          unanswered := fun _ => before.unanswered (Or.inl touched.2)
          answered := fun paid => absurd paid unpaid }
    · exact sound.fillable order oldMember
  · intro order member
    obtain ⟨old, oldMember, ⟨-, rfl⟩ | ⟨-, rfl⟩⟩ := mem_updateWhere.mp member
    · exact sound.filled old oldMember
    · exact sound.filled order oldMember
  · intro item member
    obtain ⟨order, orderMember, equal⟩ := sound.owned item member
    cases touched : order.id == orderId && order.status == .pending with
    | true => exact ⟨_, mem_updateWhere_of orderMember touched, equal⟩
    | false => exact ⟨order, mem_updateWhere_of_not orderMember touched, equal⟩
  · intro row member
    rw [sound.booked row member]
    constructor
    · rintro ⟨item, itemMember, equal, order, orderMember, owns, paid⟩
      refine
        ⟨item, itemMember, equal, order,
          mem_updateWhere_of_not orderMember ?_, owns, paid⟩
      simp [paid]
    · rintro ⟨item, itemMember, equal, order, orderMember, owns, paid⟩
      obtain ⟨old, oldMember, ⟨-, rfl⟩ | ⟨-, rfl⟩⟩ :=
        mem_updateWhere.mp orderMember
      · exact absurd paid unpaid
      · exact ⟨item, itemMember, equal, order, oldMember, owns, paid⟩

theorem failPendingPayments (sound : db.Sound) (orderId : Nat) :
    (Queries.failPendingPayments orderId db).Sound :=
  sound.congr rfl rfl rfl

theorem insertPayment (sound : db.Sound)
    {orderId : Nat} {status : PayStatus} {amount : Int}
    {pgTid : Option String} {fees : Option FeeSnapshot}
    (ok : Queries.insertPayment orderId status amount pgTid fees db = .ok after) :
    after.Sound := by
  obtain ⟨-, rfl⟩ := insertPayment_ok.mp ok
  exact sound.congr rfl rfl rfl

theorem closeUnpaid (sound : db.Sound) {orderId : Nat} {status : OrderStatus}
    (final : status = .failed ∨ status = .canceled)
    (ok : OrderService.closeUnpaid orderId status db = .ok after) :
    after.Sound := by
  rcases closeUnpaid_ok ok with rfl | ⟨order, -, -, -, rfl⟩
  · exact sound
  · exact ((sound.closeOrder orderId final).failPendingPayments orderId).freeHolds _ _ _

theorem recordRefund (sound : db.Sound)
    {order : Order} {total : Int} {attempt : PayAttempt}
    (ok : OrderService.recordRefund order total attempt db = .ok after) :
    after.Sound := by
  obtain ⟨middle, inserted, rfl⟩ := recordRefund_ok ok
  have failed := (sound.insertPayment inserted).failPendingPayments order.id
  split
  · exact (failed.closeOrder order.id (Or.inl rfl)).freeHolds _ _ _
  · exact failed

/-- A new order asks for seats that exist, at their present prices. -/
theorem opened (sound : db.Sound) {request : PlaceRequest} {order : Order}
    (opened : Opened request now db order after) :
    after.Sound := by
  have orderable := opened.orderable_eq sound.seatUnique
  have newId := opened.id_eq
  have older : ∀ old ∈ db.orders, old.id ≠ order.id :=
    fun old member => (opened.older sound.orderIdBound member).ne
  obtain ⟨held, fresh, orderEq, -, -, rfl⟩ := opened
  have nodup : request.wanted.Nodup :=
    (List.perm_insertionSort _ _).nodup_iff.mpr request.seatIds.nodup_dedup
  have lines :
      order.lines db.stock =
        (db.scheduleSeats.filter
          (isOrderable request.scheduleId request.userId request.wanted
            request.minHoldRemainingSec now)).map
          fun row => order.item row.stock := by
    rw [order.lines_stock, orderable]
  refine
    { sound with
      orderIdUnique :=
        unique_append_singleton.mpr ⟨sound.orderIdUnique, older⟩
      orderIdBound := ?_
      keyUnique :=
        unique_append_singleton.mpr
          ⟨sound.keyUnique, fun old member => by
            rw [orderEq]; exact fresh old member⟩
      fillable := ?_
      filled := ?_
      owned := ?_
      booked := ?_ }
  · intro row member
    rw [List.length_append, List.length_singleton]
    rcases List.mem_append.mp member with old | new
    · have bound := sound.orderIdBound row old
      omega
    · rw [List.mem_singleton.mp new, newId]
  · intro row member
    rcases List.mem_append.mp member with old | new
    · exact sound.fillable row old
    · rw [List.mem_singleton.mp new]
      exact
        { nodup := by rw [orderEq]; exact nodup
          complete := by
            change (order.lines db.stock).length = order.seatIds.length
            rw [lines, List.length_map, held, orderEq]
          total := by
            change
              order.totalAmount = ((order.lines db.stock).map (·.price)).sum
            rw [lines, List.map_map, orderEq]
            rfl
          unanswered := fun _ => by rw [orderEq]
          answered := fun paid => by simp [orderEq] at paid }
  · intro row member
    rcases List.mem_append.mp member with old | new
    · exact sound.filled row old
    · have unconfirmed : order.confirmed = false := by
        simp [Order.confirmed, orderEq]
      rw [List.mem_singleton.mp new, unconfirmed,
        if_neg Bool.false_ne_true, List.perm_nil, Db.itemsOf,
        List.filter_eq_nil_iff]
      intro item itemMember
      obtain ⟨owner, ownerMember, owns⟩ := sound.owned item itemMember
      simpa [← owns] using older owner ownerMember
  · intro item member
    obtain ⟨owner, ownerMember, owns⟩ := sound.owned item member
    exact ⟨owner, List.mem_append_left _ ownerMember, owns⟩
  · intro row member
    rw [sound.booked row member]
    constructor
    · rintro ⟨item, itemMember, equal, owner, ownerMember, owns, paid⟩
      exact
        ⟨item, itemMember, equal, owner, List.mem_append_left _ ownerMember,
          owns, paid⟩
    · rintro ⟨item, itemMember, equal, owner, ownerMember, owns, paid⟩
      rcases List.mem_append.mp ownerMember with old | new
      · exact ⟨item, itemMember, equal, owner, old, owns, paid⟩
      · rw [List.mem_singleton.mp new, orderEq] at paid
        cases paid

end Db.Sound

/-! ## Confirmation -/

section Claims

variable {db : Db} {now : Time} {order : Order}

/-- No two rows make the same item. -/
theorem unique_claims (rowUnique : Unique ScheduleSeat.id db.scheduleSeats) :
    Unique OrderItem.scheduleSeatId (order.claims now db) := by
  have distinct :
      Unique ScheduleSeat.id
        (db.scheduleSeats.filter
          (isClaim order.scheduleId order.userId order.seatIds now)) :=
    rowUnique.sublist (List.filter_sublist.map _)
  rw [Order.claims, claimedItems, Table.Unique, List.map_map]
  exact ((List.perm_insertionSort _ _).map _).nodup_iff.mpr distinct

/-- The items can be inserted when no entry of the index collides. -/
theorem unsold_iff (rowUnique : Unique ScheduleSeat.id db.scheduleSeats)
    (itemUnique : Unique OrderItem.scheduleSeatId db.orderItems) :
    Unique OrderItem.scheduleSeatId (db.orderItems ++ order.claims now db) ↔
      ∀ item ∈ order.claims now db,
        db.orderItems.any (·.scheduleSeatId == item.scheduleSeatId) =
          false := by
  rw [unique_append, and_iff_right itemUnique,
    and_iff_right (unique_claims rowUnique)]
  simp only [List.any_eq_false, beq_iff_eq]
  exact
    ⟨fun apart item new old member => apart old member item new,
      fun apart old member item new => apart item new old member⟩

end Claims

namespace Confirmed

variable {db after : Db} {now : Time} {order : Order} {pgTid : String}

theorem row_pending (confirmed : Confirmed order pgTid now db after)
    (orderUnique : Unique Order.id db.orders) :
    order.status = .pending := by
  obtain ⟨row, member, equal, pending⟩ := confirmed.pending
  rwa [orderUnique.eq member confirmed.member equal] at pending

theorem unanswered (confirmed : Confirmed order pgTid now db after)
    (sound : db.Sound) :
    order.confirmed = false := by
  have none :=
    (sound.fillable order confirmed.member).unanswered
      (Or.inl (confirmed.row_pending sound.orderIdUnique))
  simp [Order.confirmed, none]

/-- The validly held rows are all the rows the order wants. -/
theorem claimed_rows (confirmed : Confirmed order pgTid now db after)
    (seatUnique :
      Unique (fun stock => (stock.scheduleId, stock.seatId)) db.stock) :
    db.scheduleSeats.filter
        (isClaim order.scheduleId order.userId order.seatIds now) =
      db.scheduleSeats.filter fun row => order.wants row.stock := by
  apply Db.wanted_eq seatUnique
  · intro row claim
    simp only [isClaim, Bool.and_eq_true] at claim
    simpa [Order.wants, ScheduleSeat.stock] using claim.1
  · have complete := confirmed.complete
    rwa [Order.claims, claimedItems, List.length_map,
      List.length_insertionSort] at complete

theorem claims_perm (confirmed : Confirmed order pgTid now db after)
    (seatUnique :
      Unique (fun stock => (stock.scheduleId, stock.seatId)) db.stock) :
    (order.claims now db).Perm (order.lines db.stock) := by
  rw [order.lines_stock, ← confirmed.claimed_rows seatUnique, Order.claims,
    claimedItems]
  exact (List.perm_insertionSort _ _).map _

theorem orderItems (confirmed : Confirmed order pgTid now db after) :
    after.orderItems = db.orderItems ++ order.claims now db := by
  rw [confirmed.after_eq]

/-- The order is paid and answered, and the other orders are as before. -/
theorem orders (confirmed : Confirmed order pgTid now db after)
    (orderUnique : Unique Order.id db.orders) :
    after.orders =
      updateWhere (fun row => row.id == order.id)
        (fun row =>
          { row with
            status := .paid
            responseSnapshot :=
              some (OrderService.snapshot order.id .paid (order.claims now db)) })
        db.orders := by
  rw [confirmed.after_eq]
  simp only [setOrderSnapshot, markOrderPaid, updateOrder, updateWhere,
    List.map_map]
  apply List.map_congr_left
  intro row member
  by_cases equal : row.id = order.id
  · have same := orderUnique.eq member confirmed.member equal
    simp [same, confirmed.row_pending orderUnique]
  · simp [equal]

/-- Exactly the validly held rows of the order are booked. -/
theorem scheduleSeats (confirmed : Confirmed order pgTid now db after)
    (sound : db.Sound) :
    after.scheduleSeats =
      updateWhere (isClaim order.scheduleId order.userId order.seatIds now)
        book db.scheduleSeats := by
  rw [confirmed.after_eq]
  exact
    updateWhere_congr
      (sound.claimed_held confirmed.member (confirmed.unanswered sound))

theorem stock (confirmed : Confirmed order pgTid now db after) :
    after.stock = db.stock := by
  rw [confirmed.after_eq]
  exact map_updateWhere ScheduleSeat.stock book_stock db.scheduleSeats

/-- The claimed items are those of the claimed rows. -/
theorem mem_claims {item : OrderItem} :
    item ∈ order.claims now db ↔
      ∃ row ∈ db.scheduleSeats,
        isClaim order.scheduleId order.userId order.seatIds now row = true ∧
          item = order.item row.stock := by
  simp only [Order.claims, claimedItems, List.mem_map, List.mem_insertionSort,
    List.mem_filter]
  constructor
  · rintro ⟨row, ⟨member, claim⟩, rfl⟩
    exact ⟨row, member, claim, rfl⟩
  · rintro ⟨row, member, claim, rfl⟩
    exact ⟨row, ⟨member, claim⟩, rfl⟩

/-- The orders of a confirmed database, one by one. -/
theorem mem_orders (confirmed : Confirmed order pgTid now db after)
    (sound : db.Sound) {row : Order} :
    row ∈ after.orders ↔
      row =
          { order with
            status := .paid
            responseSnapshot :=
              some
                (OrderService.snapshot order.id .paid (order.claims now db)) } ∨
        (row ∈ db.orders ∧ row.id ≠ order.id) := by
  rw [confirmed.orders sound.orderIdUnique, mem_updateWhere]
  constructor
  · rintro ⟨old, member, ⟨touched, rfl⟩ | ⟨untouched, rfl⟩⟩
    · rw [sound.order_eq member confirmed.member (by simpa using touched)]
      exact Or.inl rfl
    · exact Or.inr ⟨member, by simpa using untouched⟩
  · rintro (rfl | ⟨member, different⟩)
    · exact ⟨order, confirmed.member, Or.inl ⟨by simp, rfl⟩⟩
    · exact ⟨row, member, Or.inr ⟨by simpa using different, rfl⟩⟩

theorem sound_after (confirmed : Confirmed order pgTid now db after)
    (sound : db.Sound) :
    after.Sound := by
  have stock := confirmed.stock
  have before := sound.fillable order confirmed.member
  have noItems :=
    sound.item_of_unconfirmed confirmed.member (confirmed.unanswered sound)
  have claimsOwn : ∀ item ∈ order.claims now db, item.orderId = order.id := by
    intro item member
    obtain ⟨row, -, -, rfl⟩ := mem_claims.mp member
    rfl
  constructor
  case idUnique => rw [stock]; exact sound.idUnique
  case seatUnique => rw [stock]; exact sound.seatUnique
  case orderIdUnique =>
    rw [confirmed.orders sound.orderIdUnique]
    exact sound.orderIdUnique.updateWhere fun _ => rfl
  case keyUnique =>
    rw [confirmed.orders sound.orderIdUnique]
    exact sound.keyUnique.updateWhere fun _ => rfl
  case orderIdBound =>
    intro row member
    rw [confirmed.orders sound.orderIdUnique, updateWhere_length]
    rcases (confirmed.mem_orders sound).mp member with rfl | ⟨old, -⟩
    · exact sound.orderIdBound order confirmed.member
    · exact sound.orderIdBound row old
  case itemUnique =>
    rw [confirmed.orderItems]
    exact confirmed.unsold
  case fillable =>
    intro row member
    rw [stock]
    rcases (confirmed.mem_orders sound).mp member with rfl | ⟨old, -⟩
    · exact
        { nodup := before.nodup
          complete := before.complete
          total := before.total
          unanswered := fun unsettled => by simp at unsettled
          answered := fun _ => rfl }
    · exact sound.fillable row old
  case filled =>
    intro row member
    rw [stock, Db.itemsOf, confirmed.orderItems, List.filter_append]
    rcases (confirmed.mem_orders sound).mp member with rfl | ⟨old, different⟩
    · have none : db.orderItems.filter (·.orderId == order.id) = [] := by
        rw [List.filter_eq_nil_iff]
        intro item itemMember
        simpa using noItems item itemMember
      have all :
          (order.claims now db).filter (·.orderId == order.id) =
            order.claims now db := by
        rw [List.filter_eq_self]
        intro item itemMember
        simpa using claimsOwn item itemMember
      dsimp only
      rw [none, all, List.nil_append]
      exact confirmed.claims_perm sound.seatUnique
    · have none :
          (order.claims now db).filter (·.orderId == row.id) = [] := by
        rw [List.filter_eq_nil_iff]
        intro item itemMember
        simpa [claimsOwn item itemMember] using Ne.symm different
      rw [none, List.append_nil]
      exact sound.filled row old
  case owned =>
    intro item member
    rw [confirmed.orderItems] at member
    rcases List.mem_append.mp member with old | new
    · obtain ⟨owner, ownerMember, owns⟩ := sound.owned item old
      refine ⟨owner, (confirmed.mem_orders sound).mpr (Or.inr ⟨ownerMember, ?_⟩), owns⟩
      rw [owns]
      exact noItems item old
    · exact
        ⟨_, (confirmed.mem_orders sound).mpr (Or.inl rfl),
          (claimsOwn item new).symm⟩
  case booked =>
    intro row member
    rw [confirmed.scheduleSeats sound] at member
    obtain ⟨old, oldMember, ⟨claim, rfl⟩ | ⟨unclaimed, rfl⟩⟩ :=
      mem_updateWhere.mp member
    · have inserted : order.item old.stock ∈ after.orderItems := by
        rw [confirmed.orderItems]
        exact
          List.mem_append_right _ (mem_claims.mpr ⟨old, oldMember, claim, rfl⟩)
      have paid := (confirmed.mem_orders sound).mpr (Or.inl rfl)
      exact iff_of_true rfl ⟨_, inserted, rfl, _, paid, rfl, rfl⟩
    · rw [sound.booked row oldMember]
      constructor
      · rintro ⟨item, itemMember, equal, owner, ownerMember, owns, paid⟩
        refine ⟨item, ?_, equal, owner, ?_, owns, paid⟩
        · rw [confirmed.orderItems]
          exact List.mem_append_left _ itemMember
        · refine
            (confirmed.mem_orders sound).mpr (Or.inr ⟨ownerMember, ?_⟩)
          rw [owns]
          exact noItems item itemMember
      · rintro ⟨item, itemMember, equal, owner, ownerMember, owns, paid⟩
        rw [confirmed.orderItems] at itemMember
        rcases List.mem_append.mp itemMember with old | new
        · rcases (confirmed.mem_orders sound).mp ownerMember with
            rfl | ⟨oldOwner, -⟩
          · exact absurd owns.symm (noItems item old)
          · exact ⟨item, old, equal, owner, oldOwner, owns, paid⟩
        · obtain ⟨claimed, claimedMember, claim, rfl⟩ := mem_claims.mp new
          have same : claimed = row :=
            sound.rowUnique.eq claimedMember oldMember equal
          rw [same, unclaimed] at claim
          cases claim

end Confirmed

/-! ## Cancellation -/

/-- The two writes of a cancellation that concern orders and seats. -/
def Db.cancelOrder (orderId : Nat) (db : Db) : Db :=
  (restoreOrderSeats orderId (markOrder orderId .canceled .paid db).2).2

namespace Db.Sound

variable {db after : Db} {now : Time}

theorem cancelOrder (sound : db.Sound) (orderId : Nat) :
    (db.cancelOrder orderId).Sound := by
  have stock : (db.cancelOrder orderId).stock = db.stock :=
    map_updateWhere ScheduleSeat.stock restore_stock db.scheduleSeats
  have stillPaid :
      ∀ {row : Order}, row ∈ (db.cancelOrder orderId).orders →
        row.status = .paid → row ∈ db.orders ∧ row.id ≠ orderId := by
    intro row member paid
    obtain ⟨old, oldMember, ⟨-, rfl⟩ | ⟨untouched, rfl⟩⟩ :=
      mem_updateWhere.mp member
    · cases paid
    · refine ⟨oldMember, fun equal => ?_⟩
      simp [equal, paid] at untouched
  refine
    { sound with
      idUnique := by rw [stock]; exact sound.idUnique
      seatUnique := by rw [stock]; exact sound.seatUnique
      orderIdUnique := sound.orderIdUnique.updateWhere fun _ => rfl
      orderIdBound := ?_
      keyUnique := sound.keyUnique.updateWhere fun _ => rfl
      fillable := ?_
      filled := ?_
      owned := ?_
      booked := ?_ }
  · intro order member
    rw [Db.cancelOrder, restoreOrderSeats, markOrder, updateOrder,
      updateWhere_length]
    obtain ⟨old, oldMember, ⟨-, rfl⟩ | ⟨-, rfl⟩⟩ := mem_updateWhere.mp member
    · exact sound.orderIdBound old oldMember
    · exact sound.orderIdBound order oldMember
  · intro order member
    rw [stock]
    obtain ⟨old, oldMember, ⟨-, rfl⟩ | ⟨-, rfl⟩⟩ := mem_updateWhere.mp member
    · have before := sound.fillable old oldMember
      exact
        { nodup := before.nodup
          complete := before.complete
          total := before.total
          unanswered := fun unsettled => by simp at unsettled
          answered := fun paid => by simp at paid }
    · exact sound.fillable order oldMember
  · intro order member
    rw [stock]
    obtain ⟨old, oldMember, ⟨-, rfl⟩ | ⟨-, rfl⟩⟩ := mem_updateWhere.mp member
    · exact sound.filled old oldMember
    · exact sound.filled order oldMember
  · intro item member
    obtain ⟨order, orderMember, owns⟩ := sound.owned item member
    cases touched : order.id == orderId && order.status == .paid with
    | true => exact ⟨_, mem_updateWhere_of orderMember touched, owns⟩
    | false => exact ⟨order, mem_updateWhere_of_not orderMember touched, owns⟩
  · intro row member
    obtain ⟨old, oldMember, ⟨touched, rfl⟩ | ⟨untouched, rfl⟩⟩ :=
      mem_updateWhere.mp member
    · refine iff_of_false (by simp [restore]) ?_
      rintro ⟨item, itemMember, equal, owner, ownerMember, owns, paid⟩
      simp only [Bool.and_eq_true, List.contains_iff_mem, itemSeats,
        List.mem_map, List.mem_filter] at touched
      obtain ⟨⟨mine, ⟨mineMember, mineOwner⟩, mineSeat⟩, -⟩ := touched
      have same : item = mine :=
        sound.item_eq itemMember mineMember (equal.trans mineSeat.symm)
      have other := (stillPaid ownerMember paid).2
      rw [owns, same] at other
      exact other (by simpa using mineOwner)
    · rw [sound.booked row oldMember]
      constructor
      · rintro ⟨item, itemMember, equal, owner, ownerMember, owns, paid⟩
        have other : owner.id ≠ orderId := by
          intro mine
          have booked :=
            (sound.booked row oldMember).mpr
              ⟨item, itemMember, equal, owner, ownerMember, owns, paid⟩
          have listed : row.id ∈ itemSeats orderId db := by
            simp only [itemSeats, List.mem_map, List.mem_filter, beq_iff_eq]
            exact ⟨item, ⟨itemMember, owns.symm.trans mine⟩, equal⟩
          simp only [Bool.and_eq_false_iff, List.contains_eq_mem,
            decide_eq_false_iff_not, beq_eq_false_iff_ne] at untouched
          exact untouched.elim (fun absent => absent listed)
            fun unbooked => unbooked booked
        exact
          ⟨item, itemMember, equal, owner,
            mem_updateWhere_of_not ownerMember (by simp [other]), owns, paid⟩
      · rintro ⟨item, itemMember, equal, owner, ownerMember, owns, paid⟩
        exact
          ⟨item, itemMember, equal, owner, (stillPaid ownerMember paid).1,
            owns, paid⟩

theorem closeCanceled (sound : db.Sound)
    {cancellation : Cancellation} {attempt : PayAttempt}
    (ok : OrderService.closeCanceled cancellation attempt db = .ok after) :
    after.Sound := by
  rcases closeCanceled_ok ok with ⟨rfl, -⟩ | ⟨-, refunded, inserted, rfl⟩
  · exact sound
  · obtain ⟨-, rfl⟩ := insertPayment_ok.mp inserted
    exact (sound.cancelOrder cancellation.order.id).congr rfl rfl rfl

end Db.Sound

/-! ## Every run -/

theorem statusOf_eq {db : Db} (sound : db.Sound) {order : Order}
    (member : order ∈ db.orders) :
    statusOf order.id db = some order.status := by
  rw [statusOf, sound.found member, Option.map_some]

/-- An order is only ever closed as `FAILED` or `CANCELED`. -/
def Task.ClosesFinally : Task → Prop
  | .settling (.closing _ status) => status = .failed ∨ status = .canceled
  | _ => True

/-- The tables agree, and no call is about to break them. -/
structure World.Consistent (world : World) : Prop where
  sound : world.db.Sound
  closings : ∀ task ∈ world.tasks, task.ClosesFinally

namespace World

variable {world next : World}

theorem initial_sound
    (inventory : Inventory) (startsAt : Nat → Policy.Datetime) (clock : Time) :
    (initial inventory startsAt clock).db.Sound := by
  have idUnique := inventory.idUnique
  have seatUnique := inventory.seatUnique
  constructor
  case idUnique =>
    rw [Table.Unique, Db.stock, List.map_map]
    exact idUnique
  case seatUnique =>
    rw [Table.Unique, Db.stock, List.map_map]
    exact seatUnique
  case booked =>
    intro row member
    have available := (inventory.available row member).1
    refine iff_of_false (by simp [available]) ?_
    rintro ⟨item, itemMember, -⟩
    cases itemMember
  all_goals simp [initial, Table.Unique]

theorem initial_consistent
    (inventory : Inventory) (startsAt : Nat → Policy.Datetime) (clock : Time) :
    (initial inventory startsAt clock).Consistent :=
  { sound := initial_sound inventory startsAt clock
    closings := by simp [initial, tasks] }

theorem Consistent.step (consistent : world.Consistent) {action : Action}
    (taken : world.step action = some next) :
    next.Consistent := by
  obtain ⟨after, exchange, turn⟩ := step_turn taken
  have sound := consistent.sound
  have quietCloses :
      ∀ {task : Option Task}, Quiet task → ∀ busy ∈ task, busy.ClosesFinally := by
    intro task quiet busy member
    obtain ⟨orderId, rfl⟩ := quiet busy member
    trivial
  have both : next.toBooks.db.Sound ∧ ∀ task ∈ after, task.ClosesFinally := by
    generalize current : world.taskOf action = before at turn exchange
    generalize next.toBooks = books at turn
    cases turn with
    | idle passing quiet => exact ⟨sound, quietCloses quiet⟩
    | acquired ok => exact ⟨sound.acquireSeats ok, by simp⟩
    | released => exact ⟨sound.freeHolds _ _ _, by simp⟩
    | swept => exact ⟨sound.sweepExpired _ _, by simp⟩
    | opened opened => exact ⟨sound.opened opened, by simp [Task.ClosesFinally]⟩
    | approvalExecuted => exact ⟨sound, by simp [Task.ClosesFinally]⟩
    | approved => exact ⟨sound, by simp [Task.ClosesFinally]⟩
    | declined asked result final =>
        exact ⟨sound, by simpa [Task.ClosesFinally] using final⟩
    | confirmed confirms source confirmed quiet =>
        exact ⟨confirmed.sound_after sound, quietCloses quiet⟩
    | expired => exact ⟨sound, by simp [Task.ClosesFinally]⟩
    | compensating => exact ⟨sound, by simp [Task.ClosesFinally]⟩
    | refundExecuted => exact ⟨sound, by simp [Task.ClosesFinally]⟩
    | refundAnswered => exact ⟨sound, by simp [Task.ClosesFinally]⟩
    | recorded recorded quiet =>
        exact ⟨sound.recordRefund recorded, quietCloses quiet⟩
    | closed closed quiet =>
        have final := consistent.closings _ (exchange.mem_before _ rfl)
        exact ⟨sound.closeUnpaid final closed, quietCloses quiet⟩
    | unrecorded failed quiet => exact ⟨sound, quietCloses quiet⟩
    | cancelStarted => exact ⟨sound, by simp [Task.ClosesFinally]⟩
    | cancelExecuted => exact ⟨sound, by simp [Task.ClosesFinally]⟩
    | cancelAnswered => exact ⟨sound, by simp [Task.ClosesFinally]⟩
    | cancelFailed recorded => exact ⟨sound.insertPayment recorded, by simp⟩
    | cancelUnfailed => exact ⟨sound, by simp⟩
    | cancelClosed closed => exact ⟨sound.closeCanceled closed, by simp⟩
    | cancelUnclosed => exact ⟨sound, by simp⟩
  refine { sound := both.1, closings := ?_ }
  intro task member
  rcases exchange.mem member with old | new
  · exact consistent.closings task old
  · exact both.2 task new

/-- The tables agree in every reachable world. -/
theorem consistent_of_reachable
    {inventory : Inventory} {startsAt : Nat → Policy.Datetime} {clock : Time}
    (reachable :
      TransitionSystem.Reachable World.step
        (World.initial inventory startsAt clock) world) :
    world.Consistent :=
  reachable.invariant (initial_consistent inventory startsAt clock)
    fun _ _ _ consistent _ taken => consistent.step taken

end World

/-! ## No double sale -/

/-- The schedule and the seat an item refers to. -/
def Db.seatOf (db : Db) (item : OrderItem) : Option (Nat × Nat) :=
  (lookup ScheduleSeat.id item.scheduleSeatId db.scheduleSeats).map
    fun row => (row.scheduleId, row.seatId)

/-- What a sale must look like in the tables. -/
structure Db.SoldOnce (db : Db) : Prop where
  booked :
    ∀ row ∈ db.scheduleSeats,
      row.status = .booked ↔
        ∃ item,
          db.orderItems.filter (·.scheduleSeatId == row.id) = [item] ∧
            ∃ order ∈ db.orders,
              order.id = item.orderId ∧ order.status = .paid
  seats :
    ∀ order ∈ db.orders, order.status = .paid →
      order.seatIds.Nodup ∧
        ((db.itemsOf order.id).map db.seatOf).Perm
          (order.seatIds.map fun seatId => some (order.scheduleId, seatId))
  prices :
    ∀ order ∈ db.orders, order.status = .paid →
      ((db.itemsOf order.id).map (·.price)).sum = order.totalAmount
  disjoint :
    ∀ left ∈ db.orders, ∀ right ∈ db.orders,
      left.status = .paid → right.status = .paid →
        left.scheduleId = right.scheduleId →
          ∀ seatId ∈ left.seatIds, seatId ∈ right.seatIds → left = right

namespace Db.Sound

variable {db : Db}

/-- The rows an order wants name exactly its seats. -/
theorem wanted_seats (sound : db.Sound) {order : Order}
    (member : order ∈ db.orders) :
    ((db.scheduleSeats.filter fun row => order.wants row.stock).map
      (·.seatId)).Perm order.seatIds := by
  have complete := (sound.fillable order member).complete
  rw [order.lines_stock, List.length_map] at complete
  exact Db.filter_seats sound.seatUnique Order.wants_narrower complete.ge

/-- The items of a confirmed order, as items of the rows it wants. -/
theorem itemsOf_perm (sound : db.Sound) {order : Order}
    (member : order ∈ db.orders) (confirmed : order.confirmed = true) :
    (db.itemsOf order.id).Perm
      ((db.scheduleSeats.filter fun row => order.wants row.stock).map
        fun row => order.item row.stock) := by
  have filled := sound.filled order member
  rwa [if_pos confirmed, order.lines_stock] at filled

/-- The seats of a paid order's items are the seats it asked for. -/
theorem itemsOf_seats (sound : db.Sound) {order : Order}
    (member : order ∈ db.orders) (paid : order.status = .paid) :
    ((db.itemsOf order.id).map db.seatOf).Perm
      (order.seatIds.map fun seatId => some (order.scheduleId, seatId)) := by
  have confirmed := (sound.fillable order member).answered paid
  have found :
      ((db.scheduleSeats.filter fun row => order.wants row.stock).map
          fun row => order.item row.stock).map db.seatOf =
        ((db.scheduleSeats.filter fun row => order.wants row.stock).map
          (·.seatId)).map fun seatId => some (order.scheduleId, seatId) := by
    rw [List.map_map, List.map_map]
    apply List.map_congr_left
    intro row rowMember
    obtain ⟨inStock, wanted⟩ := List.mem_filter.mp rowMember
    have own :
        lookup ScheduleSeat.id row.id db.scheduleSeats = some row :=
      (lookup_eq_some sound.rowUnique).mpr ⟨inStock, rfl⟩
    simp only [Order.wants, ScheduleSeat.stock, Bool.and_eq_true, beq_iff_eq]
      at wanted
    simp [Db.seatOf, Order.item, ScheduleSeat.stock, own, wanted.1]
  have items := (sound.itemsOf_perm member confirmed).map db.seatOf
  rw [found] at items
  exact items.trans ((sound.wanted_seats member).map _)

/-- A stock row is the only one of its schedule and seat. -/
theorem row_eq (sound : db.Sound) {left right : ScheduleSeat}
    (leftMember : left ∈ db.scheduleSeats)
    (rightMember : right ∈ db.scheduleSeats)
    (schedules : left.scheduleId = right.scheduleId)
    (seats : left.seatId = right.seatId) :
    left = right := by
  have unique := sound.seatUnique
  rw [Table.Unique, Db.stock, List.map_map] at unique
  apply List.inj_on_of_nodup_map unique leftMember rightMember
  simp [ScheduleSeat.stock, schedules, seats]

/-- Two items for one seat are one item. -/
theorem item_eq_of_seatOf (sound : db.Sound) {left right : OrderItem}
    {seat : Nat × Nat}
    (leftMember : left ∈ db.orderItems) (rightMember : right ∈ db.orderItems)
    (leftSeat : db.seatOf left = some seat)
    (rightSeat : db.seatOf right = some seat) :
    left = right := by
  obtain ⟨leftRow, leftFound, leftEqual⟩ := Option.map_eq_some_iff.mp leftSeat
  obtain ⟨rightRow, rightFound, rightEqual⟩ :=
    Option.map_eq_some_iff.mp rightSeat
  obtain ⟨leftStock, leftId⟩ := lookup_mem leftFound
  obtain ⟨rightStock, rightId⟩ := lookup_mem rightFound
  have both := leftEqual.trans rightEqual.symm
  have same : leftRow = rightRow :=
    sound.row_eq leftStock rightStock (congrArg Prod.fst both)
      (congrArg Prod.snd both)
  apply sound.item_eq leftMember rightMember
  rw [← leftId, ← rightId, same]

/-- The rows of a paid order are booked. -/
theorem booked_of_paid (sound : db.Sound) {order : Order}
    (member : order ∈ db.orders) (paid : order.status = .paid)
    {row : ScheduleSeat} (rowMember : row ∈ db.scheduleSeats)
    (wanted : order.wants row.stock = true) :
    row.status = .booked := by
  have confirmed := (sound.fillable order member).answered paid
  have listed : order.item row.stock ∈ db.itemsOf order.id :=
    (sound.itemsOf_perm member confirmed).mem_iff.mpr
      (List.mem_map.mpr ⟨row, List.mem_filter.mpr ⟨rowMember, wanted⟩, rfl⟩)
  exact
    (sound.booked row rowMember).mpr
      ⟨_, (List.mem_filter.mp listed).1, rfl, order, member, rfl, paid⟩

theorem soldOnce (sound : db.Sound) : db.SoldOnce := by
  have itemOf :
      ∀ order ∈ db.orders, order.status = .paid → ∀ seatId ∈ order.seatIds,
        ∃ item ∈ db.orderItems, item.orderId = order.id ∧
          db.seatOf item = some (order.scheduleId, seatId) := by
    intro order member paid seatId wanted
    have listed :
        some (order.scheduleId, seatId) ∈
          (db.itemsOf order.id).map db.seatOf :=
      (sound.itemsOf_seats member paid).mem_iff.mpr
        (List.mem_map.mpr ⟨seatId, wanted, rfl⟩)
    obtain ⟨item, itemMember, equal⟩ := List.mem_map.mp listed
    obtain ⟨inTable, owns⟩ := List.mem_filter.mp itemMember
    exact ⟨item, inTable, by simpa using owns, equal⟩
  constructor
  case booked =>
    intro row member
    rw [sound.booked row member]
    constructor
    · rintro ⟨item, itemMember, equal, owned⟩
      refine ⟨item, ?_, owned⟩
      rw [← equal]
      exact sound.itemUnique.filter_eq_singleton itemMember
    · rintro ⟨item, only, owned⟩
      have found : item ∈ db.orderItems.filter (·.scheduleSeatId == row.id) := by
        rw [only]
        exact List.mem_singleton_self item
      obtain ⟨inTable, equal⟩ := List.mem_filter.mp found
      exact ⟨item, inTable, by simpa using equal, owned⟩
  case seats =>
    intro order member paid
    exact
      ⟨(sound.fillable order member).nodup, sound.itemsOf_seats member paid⟩
  case prices =>
    intro order member paid
    have fillable := sound.fillable order member
    have filled := sound.filled order member
    rw [if_pos (fillable.answered paid)] at filled
    rw [fillable.total]
    exact (filled.map _).sum_eq
  case disjoint =>
    intro left leftMember right rightMember leftPaid rightPaid schedules
      seatId leftWanted rightWanted
    obtain ⟨leftItem, leftTable, leftOwns, leftSeat⟩ :=
      itemOf left leftMember leftPaid seatId leftWanted
    obtain ⟨rightItem, rightTable, rightOwns, rightSeat⟩ :=
      itemOf right rightMember rightPaid seatId rightWanted
    rw [← schedules] at rightSeat
    have same :=
      sound.item_eq_of_seatOf leftTable rightTable leftSeat rightSeat
    apply sound.order_eq leftMember rightMember
    rw [← leftOwns, ← rightOwns, same]

end Db.Sound

/--
No seat is sold twice, in any run of the world, whatever the gate and the
gateway answer.
-/
theorem World.no_double_sale
    {inventory : Inventory} {startsAt : Nat → Policy.Datetime} {clock : Time}
    {world : World}
    (reachable :
      TransitionSystem.Reachable World.step
        (World.initial inventory startsAt clock) world) :
    world.db.SoldOnce :=
  (consistent_of_reachable reachable).sound.soldOnce

/-- After a purchase there is a paid order for the law to speak about. -/
theorem World.no_double_sale_paid :
    let actions := Action.order 7 "key" ++ Action.pay "tid-1"
    ∃ world : World,
      TransitionSystem.checkedRun World.step (fun _ _ => True) World.oneSeat
          actions = some world ∧
        world.db.orders.map (·.status) = [.paid] ∧ world.db.SoldOnce := by
  refine ⟨_, (Option.some_get (by decide)).symm, by decide, ?_⟩
  exact no_double_sale (.of_checkedRun _ (Option.some_get _).symm)

end Curtain
