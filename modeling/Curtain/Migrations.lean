import Curtain.Allocation

/-!
# The migration of the orders

Revision 0001 stores what an order has got, its items, but not what it wants to
buy.  Revision 0002 adds `orders.seat_ids` in three steps, a nullable column, a
backfill from the items and `NOT NULL`, and drops the column on the way back.
-/

namespace Curtain

open Table

/-! ## The tables -/

namespace Migrations

/-- One row of `orders` at revision 0001. -/
structure OrderRow where
  id : Nat
  userId : Nat
  scheduleId : Nat
  status : OrderStatus
  totalAmount : Int
  bookingFee : Int
  idempotencyKey : String
  responseSnapshot : Option Snapshot
  createdAt : Time
  paidAt : Option Time
  canceledAt : Option Time
deriving DecidableEq, Repr

/-- One row of `orders` with the column that is added. -/
structure WithSeatIds (Column : Type) extends OrderRow where
  seatIds : Column
deriving DecidableEq, Repr

/-- One row of `order_items` with all of its columns. -/
structure ItemRow extends OrderItem where
  id : Nat
deriving DecidableEq, Repr

/-- One row of `schedule_seats` with all of its columns. -/
structure SeatRow extends ScheduleSeat where
  updatedAt : Time
deriving DecidableEq, Repr

/-- A database whose orders have some shape; no statement names the `rest`. -/
structure Database (Row Rest : Type) where
  orders : List Row
  orderItems : List ItemRow
  scheduleSeats : List SeatRow
  rest : Rest
deriving DecidableEq, Repr

variable {Row Rest : Type}

/-- The same database with other rows in `orders`. -/
def Database.withOrders {Other : Type} (db : Database Row Rest)
    (orders : List Other) : Database Other Rest :=
  { orders
    orderItems := db.orderItems
    scheduleSeats := db.scheduleSeats
    rest := db.rest }

/-! ## The statements -/

/-- `ADD COLUMN seat_ids`, which is `NULL` in every row. -/
def addColumn (db : Database OrderRow Rest) :
    Database (WithSeatIds (Option (List Nat))) Rest :=
  db.withOrders
    (db.orders.map fun order => { toOrderRow := order, seatIds := none })

/-- `order_items oi JOIN schedule_seats ss … WHERE oi.order_id = o.id`. -/
def itemLines (orderId : Nat) (db : Database Row Rest) :
    List (ItemRow × SeatRow) :=
  (join db.orderItems db.scheduleSeats fun item seat =>
    seat.id == item.scheduleSeatId).filter fun (item, _) =>
      item.orderId == orderId

/-- `COALESCE((SELECT array_agg(ss.seat_id ORDER BY ss.seat_id) …), '{}')`. -/
def itemSeatIds (orderId : Nat) (db : Database Row Rest) : List Nat :=
  (arrayAgg (· ≤ ·) ((itemLines orderId db).map (·.2.seatId))).getD []

/-- `_BACKFILL`. -/
def backfill (db : Database (WithSeatIds (Option (List Nat))) Rest) :
    Database (WithSeatIds (Option (List Nat))) Rest :=
  db.withOrders
    (updateWhere (·.seatIds.isNone)
      (fun order => { order with seatIds := some (itemSeatIds order.id db) })
      db.orders)

/-- One row under `SET NOT NULL`, or the error about it. -/
def notNull (order : WithSeatIds (Option (List Nat))) :
    Except String (WithSeatIds (List Nat)) :=
  match order.seatIds with
  | some seatIds => .ok { toOrderRow := order.toOrderRow, seatIds }
  | none =>
      .error "column \"seat_ids\" of relation \"orders\" contains null values"

/-- `upgrade`, whose statements are one transaction. -/
def upgrade (db : Database OrderRow Rest) :
    Except String (Database (WithSeatIds (List Nat)) Rest) := do
  let filled := backfill (addColumn db)
  return filled.withOrders (← filled.orders.mapM notNull)

/-- `downgrade`. -/
def downgrade (db : Database (WithSeatIds (List Nat)) Rest) :
    Database OrderRow Rest :=
  db.withOrders (db.orders.map (·.toOrderRow))

/-! ## Legacy databases -/

/-- The constraints of revision 0001 on the stock and the items. -/
structure Database.Legal (db : Database Row Rest) : Prop where
  stockUnique : Unique (·.id) db.scheduleSeats
  seatUnique :
    Unique (fun seat : SeatRow => (seat.scheduleId, seat.seatId))
      db.scheduleSeats
  itemUnique : Unique (fun item : ItemRow => item.scheduleSeatId) db.orderItems
  stocked :
    ∀ item ∈ db.orderItems,
      ∃ seat ∈ db.scheduleSeats, seat.id = item.scheduleSeatId

/-- The seat of each item belongs to the schedule of its order. -/
def Database.InSchedule (db : Database OrderRow Rest) : Prop :=
  ∀ order ∈ db.orders, ∀ line ∈ itemLines order.id db,
    line.2.scheduleId = order.scheduleId

/-- The migrated order, as the services read it. -/
def WithSeatIds.order (row : WithSeatIds (List Nat)) : Order :=
  { id := row.id
    userId := row.userId
    scheduleId := row.scheduleId
    status := row.status
    seatIds := row.seatIds
    totalAmount := row.totalAmount
    idempotencyKey := row.idempotencyKey
    responseSnapshot := row.responseSnapshot
    createdAt := row.createdAt }

/-- The stock rows that a migrated order wants to buy. -/
def wantedRows (row : WithSeatIds (List Nat)) (db : Database Row Rest) :
    List SeatRow :=
  db.scheduleSeats.filter fun seat => row.order.wants seat.stock

/--
What the services assume of a paid order: its items are exactly the stock rows
of the seats it names, and these are as many as it names.
-/
structure Delivered (row : WithSeatIds (List Nat)) (db : Database Row Rest) :
    Prop where
  items :
    ((db.orderItems.filter (·.orderId == row.id)).map
        (·.scheduleSeatId)).Perm ((wantedRows row db).map (·.id))
  seats : ((wantedRows row db).map (·.seatId)).Perm row.seatIds

/-- What the migration makes of a legacy database. -/
structure Upgraded (db : Database OrderRow Rest)
    (after : Database (WithSeatIds (List Nat)) Rest) : Prop where
  orders : after.orders.map (·.toOrderRow) = db.orders
  orderItems : after.orderItems = db.orderItems
  scheduleSeats : after.scheduleSeats = db.scheduleSeats
  rest : after.rest = db.rest
  increasing : ∀ order ∈ after.orders, order.seatIds.Pairwise (· < ·)
  bought :
    ∀ order ∈ after.orders, ∀ seatId,
      seatId ∈ order.seatIds ↔
        ∃ item ∈ db.orderItems, item.orderId = order.id ∧
          ∃ seat ∈ db.scheduleSeats,
            seat.id = item.scheduleSeatId ∧ seat.seatId = seatId
  empty :
    ∀ order ∈ after.orders,
      order.seatIds = [] ↔
        ∀ item ∈ db.orderItems, item.orderId ≠ order.id
  delivered : ∀ order ∈ after.orders, Delivered order after

/-! ## What the migration computes -/

section Lines

variable {db : Database Row Rest} {orderId : Nat}

theorem mem_itemLines {line : ItemRow × SeatRow} :
    line ∈ itemLines orderId db ↔
      line.1 ∈ db.orderItems ∧ line.2 ∈ db.scheduleSeats ∧
        line.2.id = line.1.scheduleSeatId ∧ line.1.orderId = orderId := by
  rw [itemLines, List.mem_filter, mem_join, beq_iff_eq, beq_iff_eq]
  tauto

theorem mem_itemSeatIds {seatId : Nat} :
    seatId ∈ itemSeatIds orderId db ↔
      ∃ item ∈ db.orderItems, item.orderId = orderId ∧
        ∃ seat ∈ db.scheduleSeats,
          seat.id = item.scheduleSeatId ∧ seat.seatId = seatId := by
  rw [itemSeatIds, arrayAgg_getD, List.mem_insertionSort, List.mem_map]
  constructor
  · rintro ⟨⟨item, seat⟩, member, rfl⟩
    obtain ⟨itemMember, seatMember, joined, owner⟩ := mem_itemLines.mp member
    exact ⟨item, itemMember, owner, seat, seatMember, joined, rfl⟩
  · rintro ⟨item, itemMember, owner, seat, seatMember, joined, rfl⟩
    exact
      ⟨(item, seat),
        mem_itemLines.mpr ⟨itemMember, seatMember, joined, owner⟩, rfl⟩

/-- In one schedule no seat stands in two lines. -/
theorem Database.Legal.lines_distinct (legal : db.Legal) {scheduleId : Nat}
    (inSchedule : ∀ line ∈ itemLines orderId db, line.2.scheduleId = scheduleId) :
    ((itemLines orderId db).map (·.2.seatId)).Nodup := by
  have lines : (itemLines orderId db).Nodup :=
    (join_nodup (List.Nodup.of_map _ legal.itemUnique)
      (List.Nodup.of_map _ legal.stockUnique)).filter _
  refine List.Nodup.map_on ?_ lines
  rintro ⟨item, seat⟩ member ⟨otherItem, otherSeat⟩ otherMember same
  obtain ⟨itemMember, seatMember, joined, -⟩ := mem_itemLines.mp member
  obtain ⟨otherItemMember, otherSeatMember, otherJoined, -⟩ :=
    mem_itemLines.mp otherMember
  have schedules :=
    (inSchedule _ member).trans (inSchedule _ otherMember).symm
  have seats : seat = otherSeat :=
    legal.seatUnique.eq seatMember otherSeatMember (Prod.ext schedules same)
  subst seats
  have items : item = otherItem :=
    legal.itemUnique.eq itemMember otherItemMember
      (joined.symm.trans otherJoined)
  rw [items]

/-- The array is in strictly increasing order. -/
theorem Database.Legal.increasing (legal : db.Legal) {scheduleId : Nat}
    (inSchedule : ∀ line ∈ itemLines orderId db, line.2.scheduleId = scheduleId) :
    (itemSeatIds orderId db).Pairwise (· < ·) := by
  rw [itemSeatIds, arrayAgg_getD]
  have distinct :=
    (List.perm_insertionSort (· ≤ ·) _).nodup_iff.mpr
      (legal.lines_distinct inSchedule)
  refine
    ((List.pairwise_insertionSort (· ≤ ·) _).and distinct).imp ?_
  rintro first second ⟨atMost, differ⟩
  exact Nat.lt_of_le_of_ne atMost differ

end Lines

section Upgrade

variable {db : Database OrderRow Rest}

/-- The row of an order after the migration. -/
def migrated (db : Database Row Rest) (order : OrderRow) :
    WithSeatIds (List Nat) :=
  { toOrderRow := order, seatIds := itemSeatIds order.id db }

theorem mapM_notNull (orders : List OrderRow) (seatIds : OrderRow → List Nat) :
    (orders.map fun order =>
          { toOrderRow := order, seatIds := some (seatIds order) }).mapM notNull =
      .ok (orders.map fun order =>
        { toOrderRow := order, seatIds := seatIds order }) := by
  induction orders with
  | nil => rfl
  | cons order rest induction =>
      rw [List.map_cons, List.mapM_cons, induction]
      rfl

/-- `upgrade` always succeeds: the backfill leaves no `NULL`. -/
theorem upgrade_eq (db : Database OrderRow Rest) :
    upgrade db = .ok (db.withOrders (db.orders.map (migrated db))) := by
  have filled :
      (backfill (addColumn db)).orders =
        db.orders.map fun order =>
          { toOrderRow := order, seatIds := some (itemSeatIds order.id db) } := by
    simp only [backfill, addColumn, Database.withOrders, updateWhere,
      List.map_map]
    apply List.map_congr_left
    intro order _
    rfl
  rw [upgrade, filled, mapM_notNull]
  rfl

/-- `downgrade` takes back what `upgrade` has done. -/
theorem downgrade_migrated (db : Database OrderRow Rest) :
    downgrade (db.withOrders (db.orders.map (migrated db))) = db := by
  have same : (db.orders.map (migrated db)).map (·.toOrderRow) = db.orders := by
    rw [List.map_map]
    exact List.map_id db.orders
  rw [downgrade, Database.withOrders, Database.withOrders, same]

end Upgrade

section Delivery

variable {db : Database OrderRow Rest} {order : OrderRow}

/-- An order wants stock of its own schedule. -/
theorem wantedRows_schedule {row : WithSeatIds (List Nat)}
    {db : Database Row Rest} {seat : SeatRow}
    (member : seat ∈ wantedRows row db) :
    seat.scheduleId = row.scheduleId := by
  simp only [wantedRows, List.mem_filter, Order.wants, Bool.and_eq_true,
    beq_iff_eq] at member
  exact member.2.1

/-- A stock row is wanted when one of the order's items refers to it. -/
theorem Database.Legal.mem_wantedRows (legal : db.Legal)
    (inSchedule :
      ∀ line ∈ itemLines order.id db, line.2.scheduleId = order.scheduleId)
    {seat : SeatRow} :
    seat ∈ wantedRows (migrated db order) db ↔
      seat ∈ db.scheduleSeats ∧
        ∃ item ∈ db.orderItems,
          item.orderId = order.id ∧ seat.id = item.scheduleSeatId := by
  simp only [wantedRows, List.mem_filter, Order.wants, WithSeatIds.order,
    migrated, ScheduleSeat.stock, Bool.and_eq_true, beq_iff_eq,
    List.contains_iff_mem]
  constructor
  · rintro ⟨member, schedule, listed⟩
    obtain ⟨item, itemMember, owner, other, otherMember, joined, sameSeat⟩ :=
      mem_itemSeatIds.mp listed
    have own :=
      inSchedule (item, other)
        (mem_itemLines.mpr ⟨itemMember, otherMember, joined, owner⟩)
    have same : other = seat :=
      legal.seatUnique.eq otherMember member
        (Prod.ext (own.trans schedule.symm) sameSeat)
    subst same
    exact ⟨member, item, itemMember, owner, joined⟩
  · rintro ⟨member, item, itemMember, owner, joined⟩
    have own :=
      inSchedule (item, seat)
        (mem_itemLines.mpr ⟨itemMember, member, joined, owner⟩)
    exact
      ⟨member, own,
        mem_itemSeatIds.mpr ⟨item, itemMember, owner, seat, member, joined, rfl⟩⟩

/-- The migrated order is delivered the seats that its items refer to. -/
theorem Database.Legal.delivered (legal : db.Legal)
    (inSchedule :
      ∀ line ∈ itemLines order.id db, line.2.scheduleId = order.scheduleId) :
    Delivered (migrated db order) db := by
  have wanted := @Database.Legal.mem_wantedRows Rest db order legal inSchedule
  have distinct : (wantedRows (migrated db order) db).Nodup :=
    (List.Nodup.of_map _ legal.stockUnique).filter _
  constructor
  · refine (List.perm_ext_iff_of_nodup ?_ ?_).mpr ?_
    · exact (List.filter_sublist.map _).nodup legal.itemUnique
    · exact (List.filter_sublist.map _).nodup legal.stockUnique
    · intro id
      simp only [List.mem_map, List.mem_filter, beq_iff_eq]
      constructor
      · rintro ⟨item, ⟨itemMember, owner⟩, rfl⟩
        obtain ⟨seat, member, joined⟩ := legal.stocked item itemMember
        exact
          ⟨seat, wanted.mpr ⟨member, item, itemMember, owner, joined⟩, joined⟩
      · rintro ⟨seat, wantedSeat, rfl⟩
        obtain ⟨-, item, itemMember, owner, joined⟩ := wanted.mp wantedSeat
        exact ⟨item, ⟨itemMember, owner⟩, joined.symm⟩
  · refine (List.perm_ext_iff_of_nodup ?_ ?_).mpr ?_
    · refine distinct.map_on ?_
      intro left leftWanted right rightWanted same
      have schedules :=
        (wantedRows_schedule leftWanted).trans
          (wantedRows_schedule rightWanted).symm
      exact
        legal.seatUnique.eq (List.mem_filter.mp leftWanted).1
          (List.mem_filter.mp rightWanted).1 (Prod.ext schedules same)
    · exact (legal.increasing inSchedule).imp Nat.ne_of_lt
    · intro seatId
      rw [List.mem_map]
      constructor
      · rintro ⟨seat, wantedSeat, rfl⟩
        obtain ⟨member, item, itemMember, owner, joined⟩ := wanted.mp wantedSeat
        exact
          mem_itemSeatIds.mpr ⟨item, itemMember, owner, seat, member, joined, rfl⟩
      · intro listed
        obtain ⟨item, itemMember, owner, seat, member, joined, rfl⟩ :=
          mem_itemSeatIds.mp listed
        exact ⟨seat, wanted.mpr ⟨member, item, itemMember, owner, joined⟩, rfl⟩

end Delivery

/--
Upgrading a legacy database succeeds, gives every order the seats that its
items refer to and changes nothing else; downgrading restores the database.
-/
theorem upgrade_preserves {db : Database OrderRow Rest}
    (legal : db.Legal) (inSchedule : db.InSchedule) :
    ∃ after, upgrade db = .ok after ∧ Upgraded db after ∧
      downgrade after = db := by
  refine ⟨_, upgrade_eq db, ?_, downgrade_migrated db⟩
  have rows :
      ∀ row ∈ db.orders.map (migrated db),
        ∃ order ∈ db.orders, migrated db order = row :=
    fun row member => List.mem_map.mp member
  refine
    { orders := congrArg Database.orders (downgrade_migrated db)
      orderItems := rfl
      scheduleSeats := rfl
      rest := rfl
      increasing := ?_
      bought := ?_
      empty := ?_
      delivered := ?_ }
  · intro row member
    obtain ⟨order, listed, rfl⟩ := rows row member
    exact legal.increasing (inSchedule order listed)
  · intro row member seatId
    obtain ⟨order, listed, rfl⟩ := rows row member
    exact mem_itemSeatIds
  · intro row member
    obtain ⟨order, listed, rfl⟩ := rows row member
    constructor
    · intro empty item itemMember owner
      obtain ⟨seat, seatMember, joined⟩ := legal.stocked item itemMember
      have bought : seat.seatId ∈ itemSeatIds order.id db :=
        mem_itemSeatIds.mpr
          ⟨item, itemMember, owner, seat, seatMember, joined, rfl⟩
      have none : itemSeatIds order.id db = [] := empty
      rw [none] at bought
      cases bought
    · intro noItem
      refine List.eq_nil_iff_forall_not_mem.mpr ?_
      intro seatId listed
      obtain ⟨item, itemMember, owner, -⟩ := mem_itemSeatIds.mp listed
      exact noItem item itemMember owner
  · intro row member
    obtain ⟨order, listed, rfl⟩ := rows row member
    have delivered := legal.delivered (inSchedule order listed)
    exact { items := delivered.items, seats := delivered.seats }

/-- A paid order of two seats, whose items are not in their order, and an open one. -/
def twoOrders : Database OrderRow Unit :=
  let order : OrderRow :=
    { id := 1
      userId := 7
      scheduleId := 1
      status := .paid
      totalAmount := 300000
      bookingFee := 0
      idempotencyKey := "key-1"
      responseSnapshot := none
      createdAt := 0
      paidAt := some 1000
      canceledAt := none }
  let seat : SeatRow :=
    { id := 1
      scheduleId := 1
      seatId := 12
      grade := "VIP"
      price := 150000
      status := .booked
      heldBy := none
      holdExpiresAt := none
      updatedAt := 1000 }
  { orders :=
      [order,
       { order with
         id := 2
         status := .pending
         idempotencyKey := "key-2"
         paidAt := none }]
    orderItems :=
      [{ id := 1, orderId := 1, scheduleSeatId := 1, price := 150000 },
       { id := 2, orderId := 1, scheduleSeatId := 2, price := 150000 }]
    scheduleSeats := [seat, { seat with id := 2, seatId := 11 }]
    rest := () }

theorem upgrade_preserves_twoOrders :
    ∃ after, upgrade twoOrders = .ok after ∧ Upgraded twoOrders after ∧
      downgrade after = twoOrders :=
  upgrade_preserves
    { stockUnique := by decide
      seatUnique := by decide
      itemUnique := by decide
      stocked := by decide }
    (by unfold Database.InSchedule; decide)

example :
    twoOrders.orders.map (fun order => itemSeatIds order.id twoOrders) =
      [[11, 12], []] := by
  decide

end Migrations

end Curtain
