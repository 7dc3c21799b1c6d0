import Curtain.Migrations
import Curtain.Writes

/-!
# Migrating down and up between two runs

On the way down to revision 0001 the orders lose the seats that they want to
buy, and on the way up they get back those that their items refer to.  However
often this happens between two runs of the services, no sale is lost and none
is made twice; an order that was not confirmed is left without seats, and no
later run can sell it any.
-/

namespace Curtain

open Queries Table OrderService TransitionSystem

/-! ## Sums without seats -/

/-- The order with the sum of the seats it names: zero where it names none. -/
def Order.tallied (order : Order) : Order :=
  if order.seatIds = [] then { order with totalAmount := 0 } else order

namespace Order

variable (order : Order)

@[simp]
theorem tallied_id : order.tallied.id = order.id := by
  unfold tallied
  split <;> rfl

@[simp]
theorem tallied_status : order.tallied.status = order.status := by
  unfold tallied
  split <;> rfl

@[simp]
theorem tallied_idempotencyKey :
    order.tallied.idempotencyKey = order.idempotencyKey := by
  unfold tallied
  split <;> rfl

@[simp]
theorem tallied_confirmed : order.tallied.confirmed = order.confirmed := by
  unfold tallied
  split <;> rfl

variable {order}

theorem tallied_of_named (named : order.seatIds ≠ []) : order.tallied = order :=
  if_neg named

theorem tallied_withStatus (order : Order) (status : OrderStatus) :
    { order.tallied with status } = Order.tallied { order with status } := by
  unfold tallied
  split <;> rfl

theorem tallied_withSnapshot (order : Order)
    (responseSnapshot : Option Snapshot) :
    { order.tallied with responseSnapshot } =
      Order.tallied { order with responseSnapshot } := by
  unfold tallied
  split <;> rfl

end Order

/-- The database with such sums, which the services keep in agreement. -/
def Db.tallied (db : Db) : Db :=
  { db with orders := db.orders.map Order.tallied }

section Tallied

variable {db after : Db} {now : Time}

theorem Db.mem_tallied {order : Order} :
    order ∈ db.tallied.orders ↔ ∃ old ∈ db.orders, old.tallied = order :=
  List.mem_map

theorem Db.mem_tallied_of_named {order : Order}
    (member : order ∈ db.orders) (named : order.seatIds ≠ []) :
    order ∈ db.tallied.orders :=
  Db.mem_tallied.mpr ⟨order, member, Order.tallied_of_named named⟩

theorem tallied_markOrder (orderId : Nat) (status expect : OrderStatus) :
    (markOrder orderId status expect db.tallied).2 =
      (markOrder orderId status expect db).2.tallied := by
  simp only [markOrder, updateOrder, Db.tallied]
  rw [updateWhere_map_view (fun order => by simp)
    fun order => order.tallied_withStatus status]

theorem tallied_setOrderSnapshot (orderId : Nat) (snapshot : Snapshot) :
    (setOrderSnapshot orderId snapshot db.tallied).2 =
      (setOrderSnapshot orderId snapshot db).2.tallied := by
  simp only [setOrderSnapshot, updateOrder, Db.tallied]
  rw [updateWhere_map_view (fun order => by simp)
    fun order => order.tallied_withSnapshot (some snapshot)]

/-- An order that is opened has the sum of its seats. -/
theorem Opened.tallied_eq {request : PlaceRequest} {order : Order}
    (opened : Opened request now db order after) :
    order.tallied = order := by
  by_cases unnamed : order.seatIds = []
  · have none : request.wanted = [] := by
      rw [← unnamed, opened.order_eq]
    have noRow :
        db.scheduleSeats.filter
            (isOrderable request.scheduleId request.userId request.wanted
              request.minHoldRemainingSec now) = [] := by
      simp [none, isOrderable, List.filter_eq_nil_iff]
    have sum : order.totalAmount = 0 := by
      rw [opened.order_eq, noRow]
      rfl
    rw [Order.tallied, if_pos unnamed, ← sum]
  · exact Order.tallied_of_named unnamed

theorem Opened.tallied {request : PlaceRequest} {order : Order}
    (opened : Opened request now db order after) :
    Opened request now db.tallied order after.tallied where
  held := opened.held
  fresh := by
    intro row member
    obtain ⟨old, oldMember, rfl⟩ := Db.mem_tallied.mp member
    rw [Order.tallied_idempotencyKey]
    exact opened.fresh old oldMember
  order_eq := by
    rw [Db.tallied, List.length_map]
    exact opened.order_eq
  fits := opened.fits
  numbered := opened.numbered
  after_eq := by
    rw [opened.after_eq, Db.tallied, List.map_append, List.map_singleton,
      opened.tallied_eq]
    rfl

theorem Confirmed.tallied {order : Order} {pgTid : String}
    (confirmed : Confirmed order pgTid now db after) :
    Confirmed order pgTid now db.tallied after.tallied where
  member := Db.mem_tallied_of_named confirmed.member confirmed.nonempty
  pending := by
    obtain ⟨row, member, rowId, pending⟩ := confirmed.pending
    refine ⟨row.tallied, Db.mem_tallied.mpr ⟨row, member, rfl⟩, ?_, ?_⟩
    · rw [Order.tallied_id, rowId]
    · rw [Order.tallied_status, pending]
  nonempty := confirmed.nonempty
  complete := confirmed.complete
  unsold := confirmed.unsold
  booked := confirmed.booked
  numbered := confirmed.numbered
  promoted := confirmed.promoted
  after_eq := by
    have marked :
        (markOrderPaid order.id db.tallied).2 =
          (markOrderPaid order.id db).2.tallied :=
      tallied_markOrder order.id .paid .pending
    rw [marked, tallied_setOrderSnapshot]
    nth_rewrite 1 [confirmed.after_eq]
    rfl

/-- What is written to the tables is written to their tallied view. -/
theorem Db.Write.tallied (write : db.Write now after) :
    db.tallied.Write now after.tallied := by
  cases write with
  | seats kept unbooked unbooks => exact .seats kept unbooked unbooks
  | opened opened => exact .opened opened.tallied
  | confirmed confirmed => exact .confirmed confirmed.tallied
  | closed orderId final =>
      rw [← tallied_markOrder]
      exact .closed orderId final
  | canceled orderId =>
      have canceled :
          db.tallied.cancelOrder orderId =
            (db.cancelOrder orderId).tallied := by
        rw [Db.cancelOrder, tallied_markOrder]
        rfl
      rw [← canceled]
      exact .canceled orderId
  | elsewhere seats orders items =>
      exact .elsewhere seats (congrArg (List.map Order.tallied) orders) items

end Tallied

/-! ## Tables that can be migrated -/

/--
The tables agree but for the sums of orders without seats; no such order is
confirmed, and the others name their seats in increasing order.
-/
structure Db.Recoverable (db : Db) : Prop where
  sound : db.tallied.Sound
  sorted : ∀ order ∈ db.orders, order.seatIds.Pairwise (· < ·)
  unnamed :
    ∀ order ∈ db.orders, order.seatIds = [] → order.confirmed = false

theorem OrderService.PlaceRequest.wanted_sorted (request : PlaceRequest) :
    request.wanted.Pairwise (· < ·) := by
  have ordered :=
    List.pairwise_insertionSort (· ≤ ·) request.seatIds.dedup
  have distinct : request.wanted.Nodup :=
    (List.perm_insertionSort _ _).nodup_iff.mpr request.seatIds.nodup_dedup
  refine (ordered.and distinct).imp ?_
  rintro first second ⟨atMost, differ⟩
  exact Nat.lt_of_le_of_ne atMost differ

namespace Db.Recoverable

variable {db after : Db} {now : Time}

theorem rowUnique (recoverable : db.Recoverable) :
    Unique ScheduleSeat.id db.scheduleSeats :=
  recoverable.sound.rowUnique

theorem orderIdUnique (recoverable : db.Recoverable) :
    Unique Order.id db.orders := by
  have unique := recoverable.sound.orderIdUnique
  rw [Table.Unique, Db.tallied, Blind.map Order.tallied_id] at unique
  exact unique

theorem write_sorted (recoverable : db.Recoverable)
    (write : db.Write now after) :
    ∀ order ∈ after.orders, order.seatIds.Pairwise (· < ·) := by
  intro order member
  rcases write.heads with same | ⟨request, new, opened⟩
  · have listed : order.head ∈ db.orders.map Order.head := by
      rw [← same]
      exact List.mem_map_of_mem member
    obtain ⟨old, oldMember, equal⟩ := List.mem_map.mp listed
    rw [← Order.seatIds_of_head equal]
    exact recoverable.sorted old oldMember
  · rcases opened.mem_orders_iff.mp member with old | rfl
    · exact recoverable.sorted order old
    · rw [opened.order_eq]
      exact request.wanted_sorted

/-- Only a confirmation stores an answer, and only for an order with seats. -/
theorem write_unnamed (recoverable : db.Recoverable)
    (write : db.Write now after) :
    ∀ order ∈ after.orders, order.seatIds = [] → order.confirmed = false := by
  intro order member none
  cases write with
  | seats => exact recoverable.unnamed order member none
  | opened opened =>
      rcases opened.mem_orders_iff.mp member with old | rfl
      · exact recoverable.unnamed order old none
      · rw [opened.order_eq]
        rfl
  | confirmed confirmed =>
      rw [confirmed.orders recoverable.orderIdUnique] at member
      obtain ⟨old, oldMember, ⟨own, rfl⟩ | ⟨-, rfl⟩⟩ :=
        mem_updateWhere.mp member
      · have same :=
          recoverable.orderIdUnique.eq oldMember confirmed.member
            (by simpa using own)
        rw [same] at none
        exact absurd none confirmed.nonempty
      · exact recoverable.unnamed order oldMember none
  | closed orderId final =>
      obtain ⟨old, oldMember, rfl | ⟨-, -, rfl⟩⟩ := mem_markOrder member
      · exact recoverable.unnamed order oldMember none
      · exact recoverable.unnamed old oldMember none
  | canceled orderId =>
      obtain ⟨old, oldMember, rfl | ⟨-, -, rfl⟩⟩ := mem_markOrder member
      · exact recoverable.unnamed order oldMember none
      · exact recoverable.unnamed old oldMember none
  | elsewhere seats orders items =>
      rw [orders] at member
      exact recoverable.unnamed order member none

theorem write (recoverable : db.Recoverable) (write : db.Write now after) :
    after.Recoverable where
  sound := recoverable.sound.write write.tallied
  sorted := recoverable.write_sorted write
  unnamed := recoverable.write_unnamed write

theorem writes (recoverable : db.Recoverable)
    (writes : Db.Writes now db after) : after.Recoverable := by
  induction writes with
  | refl => exact recoverable
  | tail _ write induction => exact induction.write write

theorem named_of_confirmed (recoverable : db.Recoverable) {order : Order}
    (member : order ∈ db.orders) (confirmed : order.confirmed = true) :
    order.seatIds ≠ [] := by
  intro none
  rw [recoverable.unnamed order member none] at confirmed
  cases confirmed

/-- The tallied view has the same confirmed orders. -/
theorem confirmed_iff (recoverable : db.Recoverable) {order : Order}
    (confirmed : order.confirmed = true) :
    order ∈ db.tallied.orders ↔ order ∈ db.orders := by
  constructor
  · intro member
    obtain ⟨old, oldMember, rfl⟩ := Db.mem_tallied.mp member
    rw [Order.tallied_confirmed] at confirmed
    rwa [Order.tallied_of_named
      (recoverable.named_of_confirmed oldMember confirmed)]
  · intro member
    exact
      Db.mem_tallied_of_named member
        (recoverable.named_of_confirmed member confirmed)

theorem confirmed_of_paid (recoverable : db.Recoverable) {order : Order}
    (member : order ∈ db.orders) (paid : order.status = .paid) :
    order.confirmed = true := by
  have answered :=
    (recoverable.sound.fillable order.tallied
        (Db.mem_tallied.mpr ⟨order, member, rfl⟩)).answered
      (by rw [Order.tallied_status, paid])
  rwa [Order.tallied_confirmed] at answered

theorem paid_iff (recoverable : db.Recoverable) {order : Order}
    (paid : order.status = .paid) :
    order ∈ db.tallied.orders ↔ order ∈ db.orders := by
  constructor
  · intro member
    have answered := (recoverable.sound.fillable order member).answered paid
    exact (recoverable.confirmed_iff answered).mp member
  · intro member
    have answered := recoverable.confirmed_of_paid member paid
    exact (recoverable.confirmed_iff answered).mpr member

/-- No seat is sold twice. -/
theorem soldOnce (recoverable : db.Recoverable) : db.SoldOnce := by
  have sold := recoverable.sound.soldOnce
  constructor
  case booked =>
    intro row member
    rw [sold.booked row member]
    refine exists_congr fun item => and_congr_right fun _ => ?_
    constructor
    · rintro ⟨order, orderMember, owns, paid⟩
      exact ⟨order, (recoverable.paid_iff paid).mp orderMember, owns, paid⟩
    · rintro ⟨order, orderMember, owns, paid⟩
      exact ⟨order, (recoverable.paid_iff paid).mpr orderMember, owns, paid⟩
  case seats =>
    intro order member paid
    exact sold.seats order ((recoverable.paid_iff paid).mpr member) paid
  case prices =>
    intro order member paid
    exact sold.prices order ((recoverable.paid_iff paid).mpr member) paid
  case disjoint =>
    intro left leftMember right rightMember leftPaid rightPaid
    exact
      sold.disjoint left ((recoverable.paid_iff leftPaid).mpr leftMember)
        right ((recoverable.paid_iff rightPaid).mpr rightMember) leftPaid
        rightPaid

end Db.Recoverable

/-! ## The tables of a database -/

namespace Db.Sound

variable {db : Db}

/-- An item is that of a stock row which its confirmed order wants. -/
theorem stocked (sound : db.Sound) {item : OrderItem}
    (member : item ∈ db.orderItems) :
    ∃ order ∈ db.orders, order.confirmed = true ∧
      ∃ row ∈ db.scheduleSeats, order.wants row.stock = true ∧
        item = order.item row.stock := by
  obtain ⟨order, orderMember, owns⟩ := sound.owned item member
  have listed : item ∈ db.itemsOf order.id :=
    List.mem_filter.mpr ⟨member, by simp [owns]⟩
  have confirmed : order.confirmed = true := by
    by_contra refuted
    have unconfirmed := Bool.eq_false_of_not_eq_true refuted
    exact
      sound.item_of_unconfirmed orderMember unconfirmed item member owns.symm
  obtain ⟨row, rowMember, same⟩ :=
    List.mem_map.mp
      ((sound.itemsOf_perm orderMember confirmed).mem_iff.mp listed)
  obtain ⟨inStock, wanted⟩ := List.mem_filter.mp rowMember
  exact
    ⟨order, orderMember, confirmed, row, inStock, wanted, same.symm⟩

/-- A stock row that a confirmed order wants has an item of the order. -/
theorem item_of_wanted (sound : db.Sound) {order : Order}
    (member : order ∈ db.orders) (confirmed : order.confirmed = true)
    {row : ScheduleSeat} (rowMember : row ∈ db.scheduleSeats)
    (wanted : order.wants row.stock = true) :
    order.item row.stock ∈ db.orderItems := by
  have listed : order.item row.stock ∈ db.itemsOf order.id :=
    (sound.itemsOf_perm member confirmed).mem_iff.mpr
      (List.mem_map_of_mem (List.mem_filter.mpr ⟨rowMember, wanted⟩))
  exact (List.mem_filter.mp listed).1

end Db.Sound

/-- The order without the seats that no item stands for. -/
def Order.remembered (order : Order) : Order :=
  if order.confirmed then order else { order with seatIds := [] }

/-- What is left of the orders by their items. -/
def Db.remembered (db : Db) : Db :=
  { db with orders := db.orders.map Order.remembered }

namespace Migrations

variable {Rest : Type}

/-- The tables hold the rows that the services see. -/
def Database.Stores (tables : Database (WithSeatIds (List Nat)) Rest)
    (db : Db) : Prop :=
  tables.orders.map WithSeatIds.order = db.orders ∧
    tables.orderItems.map ItemRow.toOrderItem = db.orderItems ∧
      tables.scheduleSeats.map SeatRow.toScheduleSeat = db.scheduleSeats

instance (tables : Database (WithSeatIds (List Nat)) Rest) (db : Db) :
    Decidable (tables.Stores db) :=
  inferInstanceAs (Decidable (_ ∧ _ ∧ _))

/-- The database in which the services see the rows of the tables. -/
def Database.load (tables : Database (WithSeatIds (List Nat)) Rest)
    (db : Db) : Db :=
  { db with
    orders := tables.orders.map WithSeatIds.order
    orderItems := tables.orderItems.map ItemRow.toOrderItem
    scheduleSeats := tables.scheduleSeats.map SeatRow.toScheduleSeat }

/-- The row without the seats that no item stands for. -/
def WithSeatIds.remembered (row : WithSeatIds (List Nat)) :
    WithSeatIds (List Nat) :=
  if row.order.confirmed then row else { row with seatIds := [] }

theorem WithSeatIds.remembered_order (row : WithSeatIds (List Nat)) :
    row.remembered.order = row.order.remembered := by
  rw [WithSeatIds.remembered, Order.remembered]
  split <;> rfl

section Stored

variable {tables : Database (WithSeatIds (List Nat)) Rest} {db : Db}

theorem Database.Stores.order (stores : tables.Stores db)
    {row : WithSeatIds (List Nat)} (member : row ∈ tables.orders) :
    row.order ∈ db.orders := by
  rw [← stores.1]
  exact List.mem_map_of_mem member

theorem Database.Stores.item (stores : tables.Stores db) {item : ItemRow}
    (member : item ∈ tables.orderItems) :
    item.toOrderItem ∈ db.orderItems := by
  rw [← stores.2.1]
  exact List.mem_map_of_mem member

theorem Database.Stores.seat (stores : tables.Stores db) {seat : SeatRow}
    (member : seat ∈ tables.scheduleSeats) :
    seat.toScheduleSeat ∈ db.scheduleSeats := by
  rw [← stores.2.2]
  exact List.mem_map_of_mem member

/-- The tables meet the constraints of revision 0001. -/
theorem Database.Stores.legal (stores : tables.Stores db)
    (recoverable : db.Recoverable) :
    (downgrade tables).Legal where
  stockUnique := by
    have unique := recoverable.rowUnique
    rw [Table.Unique, ← stores.2.2, List.map_map] at unique
    exact unique
  seatUnique := by
    have unique :
        Unique (fun stock => (stock.scheduleId, stock.seatId)) db.stock :=
      recoverable.sound.seatUnique
    rw [Table.Unique, Db.stock, ← stores.2.2, List.map_map, List.map_map]
      at unique
    exact unique
  itemUnique := by
    have unique : Unique OrderItem.scheduleSeatId db.orderItems :=
      recoverable.sound.itemUnique
    rw [Table.Unique, ← stores.2.1, List.map_map] at unique
    exact unique
  stocked := by
    intro item member
    obtain ⟨order, -, -, row, rowMember, -, same⟩ :=
      recoverable.sound.stocked (stores.item member)
    change row ∈ db.scheduleSeats at rowMember
    rw [← stores.2.2] at rowMember
    obtain ⟨seat, seatMember, rfl⟩ := List.mem_map.mp rowMember
    exact ⟨seat, seatMember, congrArg OrderItem.scheduleSeatId same.symm⟩

/-- An order that has an item is confirmed and wants the seat of the item. -/
theorem Database.Stores.wants (stores : tables.Stores db)
    (recoverable : db.Recoverable) {order : Order} (member : order ∈ db.orders)
    {item : ItemRow} (itemMember : item ∈ tables.orderItems)
    (owner : item.orderId = order.id)
    {seat : SeatRow} (seatMember : seat ∈ tables.scheduleSeats)
    (joined : seat.id = item.scheduleSeatId) :
    order.confirmed = true ∧ order.wants seat.stock = true := by
  obtain ⟨other, otherMember, confirmed, row, rowMember, wanted, same⟩ :=
    recoverable.sound.stocked (stores.item itemMember)
  have sameOrder : other = order := by
    have listed := (recoverable.confirmed_iff confirmed).mp otherMember
    refine recoverable.orderIdUnique.eq listed member ?_
    exact (congrArg OrderItem.orderId same).symm.trans owner
  have sameSeat : row = seat.toScheduleSeat := by
    refine recoverable.rowUnique.eq rowMember (stores.seat seatMember) ?_
    exact (congrArg OrderItem.scheduleSeatId same).symm.trans joined.symm
  rw [← sameOrder, ← sameSeat]
  exact ⟨confirmed, wanted⟩

/-- The items of an order are those of the seats that it remembers. -/
theorem Database.Stores.itemSeatIds_eq (stores : tables.Stores db)
    (recoverable : db.Recoverable) {row : WithSeatIds (List Nat)}
    (member : row ∈ tables.orders) :
    itemSeatIds row.id (downgrade tables) = row.order.remembered.seatIds := by
  have listed := stores.order member
  by_cases confirmed : row.order.confirmed = true
  · have own := (recoverable.confirmed_iff confirmed).mpr listed
    have inSchedule :
        ∀ line ∈ itemLines row.id (downgrade tables),
          line.2.scheduleId = row.scheduleId := by
      intro line lineMember
      obtain ⟨itemMember, seatMember, joined, owner⟩ :=
        mem_itemLines.mp lineMember
      have wanted :=
        (stores.wants recoverable listed itemMember owner seatMember joined).2
      exact (Order.wants_narrower line.2.toScheduleSeat wanted).1
    rw [Order.remembered, if_pos confirmed]
    refine
      ((stores.legal recoverable).increasing inSchedule).eq_of_mem_iff
        (recoverable.sorted _ listed) fun seatId => ?_
    rw [mem_itemSeatIds]
    constructor
    · rintro ⟨item, itemMember, owner, seat, seatMember, joined, rfl⟩
      have wanted :=
        (stores.wants recoverable listed itemMember owner seatMember joined).2
      exact (Order.wants_narrower seat.toScheduleSeat wanted).2
    · intro named
      obtain ⟨stockRow, wantedRow, rfl⟩ :=
        List.mem_map.mp
          ((recoverable.sound.wanted_seats own).mem_iff.mpr named)
      obtain ⟨inStock, wanted⟩ := List.mem_filter.mp wantedRow
      have bought :=
        recoverable.sound.item_of_wanted own confirmed inStock wanted
      change stockRow ∈ db.scheduleSeats at inStock
      change _ ∈ db.orderItems at bought
      rw [← stores.2.2] at inStock
      rw [← stores.2.1] at bought
      obtain ⟨seat, seatMember, rfl⟩ := List.mem_map.mp inStock
      obtain ⟨item, itemMember, same⟩ := List.mem_map.mp bought
      refine
        ⟨item, itemMember, congrArg OrderItem.orderId same, seat, seatMember,
          ?_, rfl⟩
      exact (congrArg OrderItem.scheduleSeatId same).symm
  · rw [Order.remembered, if_neg confirmed]
    refine List.eq_nil_iff_forall_not_mem.mpr fun seatId bought => confirmed ?_
    obtain ⟨item, itemMember, owner, seat, seatMember, joined, -⟩ :=
      mem_itemSeatIds.mp bought
    exact (stores.wants recoverable listed itemMember owner seatMember joined).1

/-- Down and up again, the orders keep the seats that their items stand for. -/
theorem Database.Stores.upgrade_downgrade (stores : tables.Stores db)
    (recoverable : db.Recoverable) :
    upgrade (downgrade tables) =
      .ok (tables.withOrders (tables.orders.map WithSeatIds.remembered)) := by
  have rows :
      (downgrade tables).orders.map (migrated (downgrade tables)) =
        tables.orders.map WithSeatIds.remembered := by
    change (tables.orders.map (·.toOrderRow)).map _ = _
    rw [List.map_map]
    apply List.map_congr_left
    intro row member
    rw [Function.comp_apply, migrated, stores.itemSeatIds_eq recoverable member,
      Order.remembered, WithSeatIds.remembered]
    split <;> rfl
  rw [upgrade_eq, rows]
  rfl

theorem Database.Stores.load_remembered (stores : tables.Stores db) :
    (tables.withOrders (tables.orders.map WithSeatIds.remembered)).load db =
      db.remembered := by
  have rows :
      (tables.orders.map WithSeatIds.remembered).map WithSeatIds.order =
        db.orders.map Order.remembered := by
    rw [← stores.1, List.map_map, List.map_map]
    exact List.map_congr_left fun row _ => row.remembered_order
  simp only [Database.load, Database.withOrders, Db.remembered, rows,
    stores.2.1, stores.2.2]

end Stored

end Migrations

/-! ## What the migration keeps -/

namespace Order

variable (order : Order)

theorem remembered_id : order.remembered.id = order.id := by
  unfold remembered
  split <;> rfl

theorem remembered_status : order.remembered.status = order.status := by
  unfold remembered
  split <;> rfl

theorem remembered_idempotencyKey :
    order.remembered.idempotencyKey = order.idempotencyKey := by
  unfold remembered
  split <;> rfl

theorem remembered_confirmed :
    order.remembered.confirmed = order.confirmed := by
  unfold remembered
  split <;> rfl

variable {order}

theorem remembered_of_confirmed (confirmed : order.confirmed = true) :
    order.remembered = order :=
  if_pos confirmed

theorem remembered_of_unconfirmed (unconfirmed : order.confirmed = false) :
    order.remembered = { order with seatIds := [] } := by
  rw [remembered, unconfirmed, if_neg Bool.false_ne_true]

end Order

/-- Whether a stock row is sold depends on the states of the orders alone. -/
theorem Db.sold_congr {db other : Db} {stockId : Nat}
    (states :
      other.orders.map (fun order => (order.id, order.status)) =
        db.orders.map fun order => (order.id, order.status))
    (items : other.orderItems = db.orderItems) :
    other.Sold stockId ↔ db.Sold stockId := by
  have read (table : Db) (orderId : Nat) :
      (∃ order ∈ table.orders, order.id = orderId ∧ order.status = .paid) ↔
        (orderId, OrderStatus.paid) ∈
          table.orders.map fun order => (order.id, order.status) := by
    simp
  simp only [Db.Sold, read, states, items]

namespace Db.Recoverable

variable {db : Db}

/-- What the tallied view of the migrated tables makes of an order. -/
theorem remembered_tallied (recoverable : db.Recoverable) {old : Order}
    (member : old ∈ db.orders) :
    old.remembered.tallied =
      if old.confirmed then old
      else { old with seatIds := [], totalAmount := 0 } := by
  cases answered : old.confirmed with
  | true =>
      rw [Order.remembered_of_confirmed answered,
        Order.tallied_of_named (recoverable.named_of_confirmed member answered)]
      rfl
  | false =>
      rw [Order.remembered_of_unconfirmed answered]
      rfl

/-- An order without seats and without an answer can be filled with nothing. -/
theorem fillable_nothing (recoverable : db.Recoverable) {old : Order}
    (member : old ∈ db.orders) (unconfirmed : old.confirmed = false) :
    Order.Fillable { old with seatIds := [], totalAmount := 0 } db.stock := by
  have noLine :
      Order.lines { old with seatIds := [], totalAmount := 0 } db.stock =
        [] := by
    simp [Order.lines, Order.wants]
  have unanswered : old.responseSnapshot = none := by
    simpa [Order.confirmed] using unconfirmed
  refine
    { nodup := List.nodup_nil
      complete := by rw [noLine]; rfl
      total := by rw [noLine]; rfl
      unanswered := fun _ => unanswered
      answered := fun paid => ?_ }
  have answered := recoverable.confirmed_of_paid member paid
  rw [unconfirmed] at answered
  cases answered

theorem remembered_sound (recoverable : db.Recoverable) :
    db.remembered.tallied.Sound := by
  have sound := recoverable.sound
  have rows :
      ∀ order ∈ db.remembered.tallied.orders,
        ∃ old ∈ db.orders, old.remembered.tallied = order := by
    intro order member
    obtain ⟨middle, middleMember, rfl⟩ := Db.mem_tallied.mp member
    obtain ⟨old, oldMember, rfl⟩ := List.mem_map.mp middleMember
    exact ⟨old, oldMember, rfl⟩
  have columns {Column : Type} (column : Order → Column)
      (blindTallied : Blind Order.tallied column)
      (blindRemembered : Blind Order.remembered column) :
      db.remembered.tallied.orders.map column =
        db.tallied.orders.map column := by
    rw [Db.tallied, Db.tallied, blindTallied.map, blindTallied.map,
      Db.remembered, blindRemembered.map]
  constructor
  case idUnique => exact sound.idUnique
  case seatUnique => exact sound.seatUnique
  case orderIdUnique =>
    rw [Table.Unique, columns _ Order.tallied_id Order.remembered_id]
    exact sound.orderIdUnique
  case orderIdBound =>
    intro order member
    obtain ⟨old, oldMember, rfl⟩ := rows order member
    have bound :=
      sound.orderIdBound old.tallied (Db.mem_tallied.mpr ⟨old, oldMember, rfl⟩)
    simpa [Db.tallied, Db.remembered, Order.remembered_id] using bound
  case keyUnique =>
    rw [Table.Unique,
      columns _ Order.tallied_idempotencyKey Order.remembered_idempotencyKey]
    exact sound.keyUnique
  case itemUnique => exact sound.itemUnique
  case fillable =>
    intro order member
    obtain ⟨old, oldMember, rfl⟩ := rows order member
    rw [recoverable.remembered_tallied oldMember]
    cases answered : old.confirmed with
    | true =>
        exact
          sound.fillable old
            ((recoverable.confirmed_iff answered).mpr oldMember)
    | false => exact recoverable.fillable_nothing oldMember answered
  case filled =>
    intro order member
    obtain ⟨old, oldMember, rfl⟩ := rows order member
    rw [recoverable.remembered_tallied oldMember]
    cases answered : old.confirmed with
    | true =>
        exact
          sound.filled old ((recoverable.confirmed_iff answered).mpr oldMember)
    | false =>
        have filled :=
          sound.filled old.tallied (Db.mem_tallied.mpr ⟨old, oldMember, rfl⟩)
        rw [Order.tallied_id, Order.tallied_confirmed, answered] at filled
        change (db.itemsOf old.id).Perm (if old.confirmed then _ else [])
        rw [answered]
        exact filled
  case owned =>
    intro item member
    obtain ⟨owner, ownerMember, owns⟩ := sound.owned item member
    obtain ⟨old, oldMember, rfl⟩ := Db.mem_tallied.mp ownerMember
    refine
      ⟨old.remembered.tallied,
        Db.mem_tallied.mpr ⟨_, List.mem_map_of_mem oldMember, rfl⟩, ?_⟩
    rw [← owns, Order.tallied_id, Order.tallied_id, Order.remembered_id]
  case booked =>
    intro row member
    have states :=
      columns (fun order => (order.id, order.status))
        (fun order => Prod.ext order.tallied_id order.tallied_status)
        fun order => Prod.ext order.remembered_id order.remembered_status
    rw [sound.booked row member]
    exact (Db.sold_congr states rfl).symm

/-- The migration leaves tables that can be migrated again. -/
theorem remembered (recoverable : db.Recoverable) :
    db.remembered.Recoverable where
  sound := recoverable.remembered_sound
  sorted := by
    intro order member
    obtain ⟨old, oldMember, rfl⟩ := List.mem_map.mp member
    rw [Order.remembered]
    split
    · exact recoverable.sorted old oldMember
    · exact List.Pairwise.nil
  unnamed := by
    intro order member none
    obtain ⟨old, oldMember, rfl⟩ := List.mem_map.mp member
    rw [Order.remembered_confirmed]
    by_contra refuted
    have confirmed := Bool.eq_true_of_not_eq_false refuted
    rw [Order.remembered_of_confirmed confirmed] at none
    exact refuted (recoverable.unnamed old oldMember none)

end Db.Recoverable

/-! ## Orders that are left without seats -/

/-- The order names no seat. -/
def Db.Nameless (db : Db) (orderId : Nat) : Prop :=
  ∃ order ∈ db.orders, order.id = orderId ∧ order.seatIds = []

/-- The order has bought nothing, and no confirmation sells it anything. -/
structure Db.Forgotten (db : Db) (orderId : Nat) : Prop where
  unpaid :
    ∃ order ∈ db.orders,
      order.id = orderId ∧ order.seatIds = [] ∧ order.status ≠ .paid
  itemless : db.itemsOf orderId = []
  refused :
    ∀ pgTid now,
      confirmPaid orderId pgTid now db = .ok (false, db) ∨
        confirmPaid orderId pgTid now db =
          .error (rejected .holdExpired "확정할 좌석이 없는 주문입니다"
            (some orderId))

section Forgotten

variable {db after : Db} {now : Time} {orderId : Nat}

/-- A confirmation of an order without seats is refused. -/
theorem confirmPaid_of_unnamed (unique : Unique Order.id db.orders)
    {order : Order} (member : order ∈ db.orders) (none : order.seatIds = [])
    (pgTid : String) :
    confirmPaid order.id pgTid now db = .ok (false, db) ∨
      confirmPaid order.id pgTid now db =
        .error (rejected .holdExpired "확정할 좌석이 없는 주문입니다"
          (some order.id)) := by
  have found : orderForSaga order.id db = some order :=
    (lookup_eq_some unique).mpr ⟨member, rfl⟩
  have loaded : loadOrder order.id db = .ok order := by
    rw [loadOrder, found]
  by_cases settled : (markOrderPaid order.id db).1 = []
  · left
    simp [confirmPaid, loaded, settled, bind, Except.bind, pure, Except.pure]
  · right
    simp [confirmPaid, loaded, settled, none, bind, Except.bind]

theorem Db.Recoverable.forgotten (recoverable : db.Recoverable)
    (nameless : db.Nameless orderId) : db.Forgotten orderId := by
  obtain ⟨order, member, rfl, none⟩ := nameless
  have unconfirmed := recoverable.unnamed order member none
  refine
    { unpaid := ⟨order, member, rfl, none, fun paid => ?_⟩
      itemless := ?_
      refused := fun pgTid now =>
        confirmPaid_of_unnamed recoverable.orderIdUnique member none pgTid }
  · have confirmed := recoverable.confirmed_of_paid member paid
    rw [unconfirmed] at confirmed
    cases confirmed
  · have filled :=
      recoverable.sound.filled order.tallied
        (Db.mem_tallied.mpr ⟨order, member, rfl⟩)
    rw [Order.tallied_id, Order.tallied_confirmed, unconfirmed,
      if_neg Bool.false_ne_true, List.perm_nil] at filled
    exact filled

theorem Db.Nameless.write (nameless : db.Nameless orderId)
    (write : db.Write now after) : after.Nameless orderId := by
  obtain ⟨order, member, own, none⟩ := nameless
  rcases write.heads with same | ⟨request, new, opened⟩
  · have listed : order.head ∈ after.orders.map Order.head := by
      rw [same]
      exact List.mem_map_of_mem member
    obtain ⟨row, rowMember, equal⟩ := List.mem_map.mp listed
    refine ⟨row, rowMember, (Order.id_of_head equal).trans own, ?_⟩
    rw [Order.seatIds_of_head equal, none]
  · exact ⟨order, opened.mem_orders_iff.mpr (Or.inl member), own, none⟩

theorem Db.Nameless.writes (nameless : db.Nameless orderId)
    (writes : Db.Writes now db after) : after.Nameless orderId := by
  induction writes with
  | refl => exact nameless
  | tail _ write induction => exact induction.write write

theorem Db.Nameless.remembered (nameless : db.Nameless orderId) :
    db.remembered.Nameless orderId := by
  obtain ⟨order, member, own, none⟩ := nameless
  refine ⟨order.remembered, List.mem_map_of_mem member, ?_, ?_⟩
  · rw [order.remembered_id, own]
  · rw [Order.remembered]
    split
    · exact none
    · rfl

theorem Db.nameless_remembered {order : Order} (member : order ∈ db.orders)
    (unconfirmed : order.confirmed = false) :
    db.remembered.Nameless order.id := by
  refine ⟨order.remembered, List.mem_map_of_mem member, order.remembered_id, ?_⟩
  rw [Order.remembered_of_unconfirmed unconfirmed]

end Forgotten

/-! ## Runs with migrations in between -/

/-- The services go on, or the tables are migrated down and up again. -/
inductive Operation (Rest : Type) where
  | serve (action : Action)
  | migrate
      (tables : Migrations.Database (Migrations.WithSeatIds (List Nat)) Rest)

namespace World

variable {Rest : Type} {world next : World}

/--
One step of the operated service.  Nothing runs during a migration, so the
calls in progress before it are lost; gate and gateway know nothing of it.
-/
def operate (world : World) : Operation Rest → Option World
  | .serve action => world.step action
  | .migrate tables =>
      if tables.Stores world.db then
        match Migrations.upgrade (Migrations.downgrade tables) with
        | .ok after =>
            some { world with db := after.load world.db, calls := [] }
        | .error _ => none
      else none

/-- The tables can be migrated, and no call is about to break them. -/
structure Recoverable (world : World) : Prop where
  tables : world.db.Recoverable
  closings : ∀ task ∈ world.tasks, task.ClosesFinally

/-- The world after a migration. -/
def migrated (world : World) : World :=
  { world with db := world.db.remembered, calls := [] }

namespace Recoverable

theorem initial
    (inventory : Inventory) (startsAt : Nat → Policy.Datetime) (clock : Time) :
    (World.initial inventory startsAt clock).Recoverable where
  tables :=
    { sound := initial_sound inventory startsAt clock
      sorted := by simp [World.initial]
      unnamed := by simp [World.initial] }
  closings := by simp [World.initial, tasks]

/-- What a step writes, it writes to tables that can be migrated. -/
theorem step_writes (recoverable : world.Recoverable) {action : Action}
    (taken : world.step action = some next) :
    Db.Writes world.clock world.db next.db := by
  obtain ⟨after, exchange, turn⟩ := step_turn taken
  refine turn.writes recoverable.tables.rowUnique ?_
  exact fun task member =>
    recoverable.closings task (exchange.mem_before task member)

theorem step (recoverable : world.Recoverable) {action : Action}
    (taken : world.step action = some next) :
    next.Recoverable := by
  refine ⟨recoverable.tables.writes (recoverable.step_writes taken), ?_⟩
  obtain ⟨after, exchange, turn⟩ := step_turn taken
  intro task member
  rcases exchange.mem member with old | new
  · exact recoverable.closings task old
  · exact turn.closesFinally task new

theorem migrated (recoverable : world.Recoverable) :
    world.migrated.Recoverable where
  tables := recoverable.tables.remembered
  closings := by simp [World.migrated, tasks]

/-- The migration succeeds, and only the orders are not what they were. -/
theorem operate_migrate (recoverable : world.Recoverable)
    {tables : Migrations.Database (Migrations.WithSeatIds (List Nat)) Rest}
    (stores : tables.Stores world.db) :
    world.operate (.migrate tables) = some world.migrated := by
  simp only [operate, if_pos stores,
    stores.upgrade_downgrade recoverable.tables, stores.load_remembered]
  rfl

/-- A step of the operated service is one of the services or a migration. -/
theorem operate_cases (recoverable : world.Recoverable)
    {operation : Operation Rest}
    (taken : world.operate operation = some next) :
    (∃ action, world.step action = some next) ∨ next = world.migrated := by
  cases operation with
  | serve action => exact Or.inl ⟨action, taken⟩
  | migrate tables =>
      right
      by_cases stores : tables.Stores world.db
      · rw [recoverable.operate_migrate stores] at taken
        exact (Option.some_injective _ taken).symm
      · rw [operate, if_neg stores] at taken
        cases taken

theorem operate (recoverable : world.Recoverable) {operation : Operation Rest}
    (taken : world.operate operation = some next) :
    next.Recoverable := by
  rcases recoverable.operate_cases taken with ⟨action, stepped⟩ | rfl
  · exact recoverable.step stepped
  · exact recoverable.migrated

theorem operate_nameless (recoverable : world.Recoverable)
    {operation : Operation Rest} {orderId : Nat}
    (nameless : world.db.Nameless orderId)
    (taken : world.operate operation = some next) :
    next.db.Nameless orderId := by
  rcases recoverable.operate_cases taken with ⟨action, stepped⟩ | rfl
  · exact nameless.writes (recoverable.step_writes stepped)
  · exact nameless.remembered

theorem of_reachable
    {inventory : Inventory} {startsAt : Nat → Policy.Datetime} {clock : Time}
    (reachable :
      Reachable (@World.operate Rest) (World.initial inventory startsAt clock)
        world) :
    world.Recoverable :=
  reachable.invariant (initial inventory startsAt clock)
    fun _ _ _ recoverable _ taken => recoverable.operate taken

/-- In every later world an order without seats is one that gets nothing. -/
theorem forgotten_later (recoverable : world.Recoverable) {orderId : Nat}
    (nameless : world.db.Nameless orderId) {later : World}
    (run : Reachable (@World.operate Rest) world later) :
    later.db.Forgotten orderId := by
  have both : later.Recoverable ∧ later.db.Nameless orderId := by
    induction run with
    | refl => exact ⟨recoverable, nameless⟩
    | tail _ _ taken induction =>
        obtain ⟨before, unnamed⟩ := induction
        exact ⟨before.operate taken, before.operate_nameless unnamed taken⟩
  exact both.1.tables.forgotten both.2

end Recoverable

/--
The migrated tables are the old ones but for the orders, which keep their
seats when they were confirmed and are forgotten for good when they were not.
-/
structure Survives (Rest : Type) (world next : World) : Prop where
  unchanged :
    next = { world with
      db := { world.db with orders := next.db.orders }
      calls := [] }
  orders :
    next.db.orders.map (fun order => { order with seatIds := [] }) =
      world.db.orders.map fun order => { order with seatIds := [] }
  kept :
    ∀ order ∈ world.db.orders, order.confirmed = true →
      order ∈ next.db.orders
  forgotten :
    ∀ order ∈ world.db.orders, order.confirmed = false →
      ∀ later, Reachable (@World.operate Rest) next later →
        later.db.Forgotten order.id

/--
However often the tables are migrated down and up between the runs of the
services, no seat is sold twice; the next migration succeeds as well, keeps
what confirmed orders have bought, and no later run sells anything to an order
that it found unconfirmed.
-/
theorem rollback_keeps_sales
    {inventory : Inventory} {startsAt : Nat → Policy.Datetime} {clock : Time}
    (reachable :
      Reachable (@World.operate Rest) (World.initial inventory startsAt clock)
        world) :
    world.db.SoldOnce ∧
      ∀ tables :
          Migrations.Database (Migrations.WithSeatIds (List Nat)) Rest,
        tables.Stores world.db →
          ∃ next, world.operate (.migrate tables) = some next ∧
            world.Survives Rest next := by
  have recoverable := Recoverable.of_reachable reachable
  refine ⟨recoverable.tables.soldOnce, fun tables stores => ?_⟩
  refine ⟨world.migrated, recoverable.operate_migrate stores, ?_⟩
  refine
    { unchanged := rfl
      orders := ?_
      kept := ?_
      forgotten := ?_ }
  · have seen :
        Blind Order.remembered fun order => { order with seatIds := [] } := by
      intro order
      rw [Order.remembered]
      split <;> rfl
    exact seen.map world.db.orders
  · intro order member confirmed
    rw [← Order.remembered_of_confirmed confirmed]
    exact List.mem_map_of_mem member
  · intro order member unconfirmed later run
    exact
      recoverable.migrated.forgotten_later
        (Db.nameless_remembered member unconfirmed) run

/-- The tables of the hall with one seat, whose order waits for its approval. -/
def openOrderTables :
    Migrations.Database (Migrations.WithSeatIds (List Nat)) Unit :=
  { orders :=
      [{ id := 1
         userId := 7
         scheduleId := 1
         status := .pending
         totalAmount := 150000
         bookingFee := 0
         idempotencyKey := "key"
         responseSnapshot := none
         createdAt := 0
         paidAt := none
         canceledAt := none
         seatIds := [1] }]
    orderItems := []
    scheduleSeats :=
      [{ id := 1
         scheduleId := 1
         seatId := 1
         grade := "VIP"
         price := 150000
         status := .held
         heldBy := some 7
         holdExpiresAt := some (seconds 420)
         updatedAt := 0 }]
    rest := () }

/-- The migration in the middle of a purchase takes the seat from the order. -/
theorem rollback_keeps_sales_openOrder :
    let operations : List (Operation Unit) :=
      (Action.order 7 "key").map .serve ++ [.migrate openOrderTables]
    ∃ world : World,
      checkedRun World.operate (fun _ _ => True) World.oneSeat operations =
          some world ∧
        world.db.orders.map (fun order => (order.status, order.seatIds)) =
          [(.pending, [])] ∧
        world.db.SoldOnce ∧
        ∀ tables :
            Migrations.Database (Migrations.WithSeatIds (List Nat)) Unit,
          tables.Stores world.db →
            ∃ next, world.operate (.migrate tables) = some next ∧
              world.Survives Unit next := by
  refine ⟨_, (Option.some_get (by decide)).symm, by decide, ?_⟩
  exact rollback_keeps_sales (.of_checkedRun _ (Option.some_get _).symm)

end World

end Curtain
