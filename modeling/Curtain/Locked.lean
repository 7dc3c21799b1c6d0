import Curtain.Ledger
import Curtain.Steps

/-!
# What a transaction in progress relies on

A transaction acts at its commit on what it has read before.  What it needs of
that is still true then, because it holds locks on it: a row that it is going
to write meets the statement's condition, the order that it is going to settle
is pending, and a row that it refers to has not passed to another user.
`Server.Isolated` collects this for all transactions in progress, and every step
preserves it.
-/

namespace Curtain

open Queries Table HoldService OrderService

/-! ## Commits -/

namespace SeatStatement

variable {statement : SeatStatement} {now : Time} {rows : List Nat}
variable {db after : Db}

/-- The order rows that the transaction of the statement changes. -/
def settles (row : Order) : SeatStatement → Bool
  | .releaseHold _ _ _ (.closeUnpaid orderId _) =>
      row.id == orderId && row.status == .pending
  | .releaseHold _ _ _ (.recordRefund order _ attempt) =>
      attempt.approved && (row.id == order.id && row.status == .pending)
  | .bookOrderSeats order _ _ => row.id == order.id
  | .restoreOrderSeats cancellation _ =>
      row.id == cancellation.order.id && row.status == .paid
  | _ => false

@[simp]
theorem write_orderItems :
    (statement.write now rows db).orderItems = db.orderItems := rfl

@[simp]
theorem write_orders : (statement.write now rows db).orders = db.orders := rfl

/-- What the commit of a transaction does to the seats, the items and the orders. -/
structure Commits (statement : SeatStatement) (now : Time) (rows : List Nat)
    (change : Order → Order) (db after : Db) : Prop where
  scheduleSeats :
    after.scheduleSeats =
      updateWhere (fun row => rows.contains row.id) (statement.change now)
        db.scheduleSeats
  orderItems : after.orderItems = db.orderItems ++ statement.items
  orders :
    after.orders =
      updateWhere (fun row => statement.settles row) change db.orders
  head : ∀ row, (change row).head = row.head
  settled :
    ∀ row, statement.settles row = true → row.status ≠ .pending →
      (change row).status ≠ .pending
  paid :
    ∀ order pgTid items, statement = .bookOrderSeats order pgTid items →
      ∀ row, row.status = .pending → (change row).status = .paid

/-- A transaction that has nothing to do with orders. -/
theorem commits_write
    (items : statement.items = [])
    (settles : ∀ row, statement.settles row = false)
    (booksNone :
      ∀ order pgTid items, statement ≠ .bookOrderSeats order pgTid items) :
    statement.Commits now rows id db (statement.write now rows db) where
  scheduleSeats := rfl
  orderItems := by simp [items]
  orders := (updateWhere_eq_self fun row _ => settles row).symm
  head := fun _ => rfl
  settled := fun _ _ unpending => unpending
  paid := fun order pgTid items equal =>
    absurd equal (booksNone order pgTid items)

theorem commits_releaseHold
    {scheduleId userId : Nat} {seatIds : List Nat} {within : Releasing}
    (ok :
      (releaseHold scheduleId userId seatIds within).commit now rows db =
        .ok after) :
    ∃ change,
      (releaseHold scheduleId userId seatIds within).Commits now rows change
        db after := by
  cases within with
  | release =>
      cases ok
      exact
        ⟨id, commits_write rfl (fun _ => rfl) fun _ _ _ => by simp⟩
  | closeUnpaid orderId status =>
      cases ok
      exact
        ⟨fun row => { row with status },
          { scheduleSeats := rfl
            orderItems := (List.append_nil _).symm
            orders := rfl
            head := fun _ => rfl
            settled := fun row touched unpending => by
              simp only [settles, Bool.and_eq_true, beq_iff_eq] at touched
              exact absurd touched.2 unpending
            paid := fun _ _ _ equal => by cases equal }⟩
  | recordRefund order total attempt =>
      obtain ⟨middle, inserted, final⟩ := bind_eq_ok.mp ok
      cases final
      obtain ⟨-, rfl⟩ := insertPayment_ok.mp inserted
      refine
        ⟨fun row => { row with status := .failed },
          { scheduleSeats := by split <;> rfl
            orderItems := by split <;> simp [items, markOrder, updateOrder, failPendingPayments]
            orders := ?_
            head := fun _ => rfl
            settled := fun row touched unpending => by simp
            paid := fun _ _ _ equal => by cases equal }⟩
      cases approved : attempt.approved with
      | true => simp [settles, approved, markOrder, updateOrder, failPendingPayments]
      | false => simp [settles, approved, failPendingPayments]

theorem commits_bookOrderSeats
    {order : Order} {pgTid : String} {items : List OrderItem}
    (ok : (bookOrderSeats order pgTid items).commit now rows db = .ok after) :
    ∃ change,
      (bookOrderSeats order pgTid items).Commits now rows change db after := by
  obtain ⟨-, -, final⟩ := recordApproval_ok ok
  refine
    ⟨fun row =>
      { row with
        status := if row.status = .pending then .paid else row.status
        responseSnapshot :=
          some (OrderService.snapshot order.id .paid items) },
      { scheduleSeats := by rw [final]; rfl
        orderItems := by rw [final]; rfl
        orders := ?_
        head := fun _ => rfl
        settled := fun row _ unpending => by simp [unpending]
        paid := fun _ _ _ _ row pending => by simp [pending] }⟩
  rw [final]
  simp only [setOrderSnapshot, markOrderPaid, updateOrder, write_orders,
    updateWhere, List.map_map]
  apply List.map_congr_left
  intro row _
  by_cases same : row.id = order.id
  · by_cases pending : row.status = .pending <;> simp [settles, same, pending]
  · simp [settles, same]

theorem commits_restoreOrderSeats
    {cancellation : Cancellation} {attempt : PayAttempt}
    (ok :
      (restoreOrderSeats cancellation attempt).commit now rows db = .ok after) :
    ∃ change,
      (restoreOrderSeats cancellation attempt).Commits now rows change
        db after := by
  obtain ⟨refunded, inserted, final⟩ := bind_eq_ok.mp ok
  cases final
  obtain ⟨-, rfl⟩ := insertPayment_ok.mp inserted
  exact
    ⟨fun row => { row with status := .canceled },
      { scheduleSeats := rfl
        orderItems := (List.append_nil _).symm
        orders := rfl
        head := fun _ => rfl
        settled := fun _ _ _ => by simp
        paid := fun _ _ _ equal => by cases equal }⟩

/-- Every transaction commits its seats, its items and one order at most. -/
theorem commits_of_commit
    (ok : statement.commit now rows db = .ok after) :
    ∃ change, statement.Commits now rows change db after := by
  cases statement with
  | holdSeats request =>
      cases ok
      exact ⟨id, commits_write rfl (fun _ => rfl) fun _ _ _ => by simp⟩
  | sweepExpiredHolds batch =>
      cases ok
      exact ⟨id, commits_write rfl (fun _ => rfl) fun _ _ _ => by simp⟩
  | releaseHold => exact commits_releaseHold ok
  | bookOrderSeats => exact commits_bookOrderSeats ok
  | restoreOrderSeats => exact commits_restoreOrderSeats ok

namespace Commits

variable {change : Order → Order}

theorem map_head (commits : statement.Commits now rows change db after) :
    after.orders.map Order.head = db.orders.map Order.head := by
  rw [commits.orders]
  exact map_head_updateWhere commits.head db.orders

/-- A settled order stays settled. -/
theorem settled_after (commits : statement.Commits now rows change db after)
    {row : Order} (member : row ∈ db.orders) (settled : row.status ≠ .pending) :
    ∃ later ∈ after.orders, later.head = row.head ∧ later.status ≠ .pending := by
  rw [commits.orders]
  cases touched : statement.settles row with
  | true =>
      exact
        ⟨_, mem_updateWhere_of member touched, commits.head row,
          commits.settled row touched settled⟩
  | false => exact ⟨row, mem_updateWhere_of_not member touched, rfl, settled⟩

theorem untouched (commits : statement.Commits now rows change db after)
    {row : Order} (member : row ∈ db.orders)
    (spared : statement.settles row = false) :
    row ∈ after.orders := by
  rw [commits.orders]
  exact mem_updateWhere_of_not member spared

end Commits

end SeatStatement

/-! ## What a session relies on -/

section Sane

variable (db : Db) (locks : LockTable) (session : Nat)

/-- The order is pending, and the session has locked it. -/
def Pending (order : Order) : Prop :=
  ∃ row ∈ db.orders, row.head = order.head ∧ row.status = .pending ∧
    { session, resource := .order order.id, mode := .forNoKeyUpdate } ∈ locks

/-- The row of the item is not held by anybody but the buyer. -/
def Unclaimed (order : Order) (item : OrderItem) : Prop :=
  ∀ row ∈ db.scheduleSeats, row.id = item.scheduleSeatId →
    row.status = .held → row.heldBy = some order.userId

/-- The session refers to the row of the item, which cannot be claimed again. -/
def Refers (order : Order) (item : OrderItem) : Prop :=
  { session, resource := .seat item.scheduleSeatId, mode := .forKeyShare } ∈
      locks ∧
    Unclaimed db order item

/-- What a row is like that the statement is going to write. -/
def SeatStatement.Suits (now : Time) (row : ScheduleSeat) :
    SeatStatement → Prop
  | .holdSeats request =>
      isTarget request.scheduleId request.seatIds now row = true
  | .releaseHold scheduleId userId seatIds _ =>
      isHoldOf scheduleId userId seatIds row = true
  | .sweepExpiredHolds _ => isExpiredHold now row = true
  | .bookOrderSeats _ _ items =>
      row.status = .held ∧ ∃ item ∈ items, item.scheduleSeatId = row.id
  | .restoreOrderSeats .. => row.status = .booked

/-- The session has locked the row, and the statement still wants it. -/
def Taken (now : Time) (statement : SeatStatement) (id : Nat) : Prop :=
  { session, resource := .seat id, mode := statement.mode } ∈ locks ∧
    ∃ row ∈ db.scheduleSeats, row.id = id ∧ statement.Suits now row

/-- The closing of an order of the user, and nothing that is settled is settled again. -/
def Releasing.Ready (userId : Nat) : Releasing → Prop
  | .release => True
  | .closeUnpaid orderId _ =>
      ∃ row ∈ db.orders, row.id = orderId ∧ row.userId = userId ∧
        { session, resource := .order orderId, mode := .forNoKeyUpdate } ∈ locks
  | .recordRefund order _ attempt =>
      ∃ row ∈ db.orders, row.id = order.id ∧ row.userId = userId ∧
        (attempt.approved = true → row.status = .pending →
          { session, resource := .order order.id, mode := .forNoKeyUpdate } ∈
            locks)

/-- The transaction of the statement has come as far as the statement. -/
def SeatStatement.Ready : SeatStatement → Prop
  | .holdSeats _ => True
  | .sweepExpiredHolds _ => True
  | .releaseHold _ userId _ within => within.Ready db locks session userId
  | .bookOrderSeats order _ items =>
      Pending db locks session order ∧
        ∀ item ∈ items,
          item.orderId = order.id ∧ Refers db locks session order item
  | .restoreOrderSeats cancellation _ =>
      { session, resource := .order cancellation.order.id,
        mode := .forNoKeyUpdate } ∈ locks

/-- The transaction of the statement has locked the order that it is going to settle. -/
def SeatStatement.Settling : SeatStatement → Prop
  | .holdSeats _ => True
  | .sweepExpiredHolds _ => True
  | .releaseHold _ userId _ within => within.Ready db locks session userId
  | .bookOrderSeats order _ items =>
      Pending db locks session order ∧ ∀ item ∈ items, item.orderId = order.id
  | .restoreOrderSeats cancellation _ =>
      { session, resource := .order cancellation.order.id,
        mode := .forNoKeyUpdate } ∈ locks

/-- The subquery of a booking has found the items of its own transaction. -/
def SeatStatement.Lists (mine : List Nat) : SeatStatement → Prop
  | .bookOrderSeats _ _ items =>
      ∀ id ∈ mine, ∃ item ∈ items, item.scheduleSeatId = id
  | _ => True

/-- What holds of a session at each of its stages. -/
def Stage.Sane (now : Time) : Stage → Prop
  | .claiming order _ => Pending db locks session order
  | .inserting order _ items _ =>
      Pending db locks session order ∧ ∀ item ∈ items, item.orderId = order.id
  | .referencing order _ items rest =>
      Pending db locks session order ∧
        (∀ item ∈ items, item.orderId = order.id) ∧
        ∃ done, items = done ++ rest ∧
          ∀ item ∈ done, Refers db locks session order item
  | .selecting statement => statement.Ready db locks session
  | .locking statement scan =>
      statement.Ready db locks session ∧ statement.Lists scan.mine ∧
        ∀ id ∈ scan.taken, Taken db locks session now statement id
  | .writing statement rows =>
      statement.Ready db locks session ∧
        ∀ id ∈ rows, Taken db locks session now statement id
  | _ => True

end Sane

/-! ## Steps of the others -/

/-- A taken row stays taken as long as the session's locks and the row stay. -/
theorem Taken.mono {db after : Db} {locks left : LockTable} {session : Nat}
    {now : Time} {statement : SeatStatement} {id : Nat}
    (taken : Taken db locks session now statement id)
    (keeps : ∀ lock ∈ locks, lock.session = session → lock ∈ left)
    (rows :
      ∀ row ∈ db.scheduleSeats,
        { session, resource := .seat row.id, mode := statement.mode } ∈ locks →
          row ∈ after.scheduleSeats) :
    Taken after left session now statement id := by
  obtain ⟨locked, row, member, rfl, suits⟩ := taken
  exact ⟨keeps _ locked rfl, row, rows row member locked, rfl, suits⟩

/-- A step that spares everything the session has locked. -/
structure Spares (session : Nat) (db : Db) (locks : LockTable)
    (after : Db) (left : LockTable) : Prop where
  keeps : ∀ lock ∈ locks, lock.session = session → lock ∈ left
  rows :
    ∀ row ∈ db.scheduleSeats, ∀ mode : LockMode, mode ≠ .forKeyShare →
      { session, resource := .seat row.id, mode } ∈ locks →
        row ∈ after.scheduleSeats
  referred :
    ∀ row ∈ after.scheduleSeats,
      { session, resource := .seat row.id, mode := .forKeyShare } ∈ locks →
        row.status = .held → row ∈ db.scheduleSeats
  orders :
    ∀ row ∈ db.orders,
      { session, resource := .order row.id, mode := .forNoKeyUpdate } ∈ locks →
        row ∈ after.orders
  settled :
    ∀ row ∈ db.orders, ∃ later ∈ after.orders,
      later.head = row.head ∧
        (row.status ≠ .pending → later.status ≠ .pending)

namespace Spares

variable {session : Nat} {db after : Db} {locks left : LockTable}
variable {now : Time}

/-- A step that writes nothing and takes no lock away from the session. -/
theorem of_locks
    (kept : ∀ lock ∈ locks, lock.session = session → lock ∈ left) :
    Spares session db locks db left where
  keeps := kept
  rows := fun _ member _ _ _ => member
  referred := fun _ member _ _ => member
  orders := fun _ member _ => member
  settled := fun row member => ⟨row, member, rfl, fun settled => settled⟩

theorem pending (spares : Spares session db locks after left) {order : Order}
    (pending : Pending db locks session order) :
    Pending after left session order := by
  obtain ⟨row, member, head, status, locked⟩ := pending
  have own := locked
  rw [← Order.id_of_head head] at own
  exact
    ⟨row, spares.orders row member own, head, status,
      spares.keeps _ locked rfl⟩

theorem refers (spares : Spares session db locks after left) {order : Order}
    {item : OrderItem} (refers : Refers db locks session order item) :
    Refers after left session order item := by
  refine ⟨spares.keeps _ refers.1 rfl, ?_⟩
  intro row member equal held
  have own := refers.1
  rw [← equal] at own
  exact refers.2 row (spares.referred row member own held) equal held

theorem taken (spares : Spares session db locks after left)
    {statement : SeatStatement} {id : Nat}
    (taken : Taken db locks session now statement id) :
    Taken after left session now statement id := by
  refine taken.mono spares.keeps fun row member locked => ?_
  exact
    spares.rows row member statement.mode
      (by cases statement <;> simp [SeatStatement.mode]) locked

theorem releasing (spares : Spares session db locks after left)
    {userId : Nat} {within : Releasing}
    (ready : within.Ready db locks session userId) :
    within.Ready after left session userId := by
  cases within with
  | release => trivial
  | closeUnpaid orderId status =>
      obtain ⟨row, member, rfl, owner, locked⟩ := ready
      exact
        ⟨row, spares.orders row member locked, rfl, owner,
          spares.keeps _ locked rfl⟩
  | recordRefund order total attempt =>
      obtain ⟨row, member, equal, owner, locked⟩ := ready
      obtain ⟨later, laterMember, head, settled⟩ := spares.settled row member
      refine
        ⟨later, laterMember, (Order.id_of_head head).trans equal, ?_, ?_⟩
      · have same : later.head.userId = row.head.userId := by rw [head]
        exact same.trans owner
      · intro approved pending
        have unsettled : row.status = .pending := by
          by_contra other
          exact settled other pending
        exact spares.keeps _ (locked approved unsettled) rfl

theorem ready (spares : Spares session db locks after left)
    {statement : SeatStatement} (ready : statement.Ready db locks session) :
    statement.Ready after left session := by
  cases statement with
  | holdSeats => trivial
  | sweepExpiredHolds => trivial
  | releaseHold => exact spares.releasing ready
  | bookOrderSeats =>
      exact
        ⟨spares.pending ready.1, fun item member =>
          ⟨(ready.2 item member).1, spares.refers (ready.2 item member).2⟩⟩
  | restoreOrderSeats => exact spares.keeps _ ready rfl

theorem settling (spares : Spares session db locks after left)
    {statement : SeatStatement}
    (settling : statement.Settling db locks session) :
    statement.Settling after left session := by
  cases statement with
  | holdSeats => trivial
  | sweepExpiredHolds => trivial
  | releaseHold => exact spares.releasing settling
  | bookOrderSeats => exact ⟨spares.pending settling.1, settling.2⟩
  | restoreOrderSeats => exact spares.keeps _ settling rfl

/-- What holds of a session still holds after the step of another. -/
theorem sane (spares : Spares session db locks after left) {stage : Stage}
    (sane : stage.Sane db locks session now) :
    stage.Sane after left session now := by
  cases stage with
  | claiming => exact spares.pending sane
  | inserting => exact ⟨spares.pending sane.1, sane.2⟩
  | referencing =>
      obtain ⟨pending, own, done, split, refers⟩ := sane
      exact
        ⟨spares.pending pending, own, done, split, fun item member =>
          spares.refers (refers item member)⟩
  | selecting => exact spares.ready sane
  | locking =>
      exact
        ⟨spares.ready sane.1, sane.2.1, fun id member =>
          spares.taken (sane.2.2 id member)⟩
  | writing =>
      exact
        ⟨spares.ready sane.1, fun id member => spares.taken (sane.2 id member)⟩
  | quota => trivial
  | confirming => trivial
  | closing => trivial
  | refunding => trivial
  | canceling => trivial

end Spares

/-! ## The next stage -/

/-- The keys of the tables, and that only settled orders have items. -/
structure Db.Keyed (db : Db) : Prop where
  rowUnique : Unique ScheduleSeat.id db.scheduleSeats
  orderUnique : Unique Order.id db.orders
  orderBound : ∀ order ∈ db.orders, order.id ≤ db.orders.length
  settled :
    ∀ item ∈ db.orderItems, ∃ order ∈ db.orders,
      order.id = item.orderId ∧ order.status ≠ .pending

/-- The claimed items are those of the order. -/
theorem claimedItems_orderId
    {orderId scheduleId userId : Nat} {seatIds : List Nat} {now : Time}
    {db : Db} :
    ∀ item ∈ claimedItems orderId scheduleId userId seatIds now db,
      item.orderId = orderId := by
  intro item member
  obtain ⟨row, -, rfl⟩ := List.mem_map.mp member
  rfl

namespace SeatStatement

variable {statement : SeatStatement} {db : Db} {locks : LockTable}
variable {session : Nat} {now : Time} {scan : Scan}

/-- What a statement relies on includes the order that it is going to settle. -/
theorem settling_of_ready (ready : statement.Ready db locks session) :
    statement.Settling db locks session := by
  cases statement with
  | bookOrderSeats => exact ⟨ready.1, fun item member => (ready.2 item member).1⟩
  | holdSeats => trivial
  | sweepExpiredHolds => trivial
  | releaseHold => exact ready
  | restoreOrderSeats => exact ready

/-- A pending order has no items but those of the transaction that confirms it. -/
theorem lists_mine (keyed : db.Keyed)
    (settling : statement.Settling db locks session) :
    statement.Lists (statement.mine db) := by
  cases statement with
  | bookOrderSeats order pgTid items =>
      intro id listed
      obtain ⟨⟨row, member, head, pending, -⟩, -⟩ := settling
      simp only [mine, itemSeats, List.mem_map, List.mem_filter,
        List.mem_append, beq_iff_eq] at listed
      obtain ⟨item, ⟨old | new, owns⟩, seat⟩ := listed
      · obtain ⟨owner, ownerMember, equal, settled⟩ := keyed.settled item old
        have same : owner = row := by
          apply keyed.orderUnique.eq ownerMember member
          rw [equal, owns, Order.id_of_head head]
        rw [same] at settled
        exact absurd pending settled
      · exact ⟨item, new, seat⟩
  | holdSeats => trivial
  | releaseHold => trivial
  | sweepExpiredHolds => trivial
  | restoreOrderSeats => trivial

/-- A row that meets the `WHERE` clause suits the statement. -/
theorem suits_of_condition {mine : List Nat} {row : ScheduleSeat}
    (lists : statement.Lists mine)
    (meets : statement.condition now mine row = true) :
    statement.Suits now row := by
  cases statement with
  | holdSeats => exact meets
  | releaseHold => exact meets
  | sweepExpiredHolds => exact meets
  | bookOrderSeats order pgTid items =>
      simp only [condition, Bool.and_eq_true, List.contains_iff_mem,
        beq_iff_eq] at meets
      exact ⟨meets.2, lists row.id meets.1⟩
  | restoreOrderSeats =>
      simp only [condition, Bool.and_eq_true, beq_iff_eq] at meets
      exact meets.2

/-- The rows that were taken are written, or none are. -/
theorem rows_eq {rows : List Nat} (found : statement.rows scan = some rows) :
    rows = scan.taken := by
  cases statement with
  | holdSeats request =>
      dsimp only [SeatStatement.rows] at found
      split at found
      · split at found
        · cases found
        · cases found
          rfl
      · simp at found
  | bookOrderSeats order pgTid items =>
      simp only [SeatStatement.rows] at found
      split at found
      · cases found
      · cases found
        rfl
  | releaseHold => cases found; rfl
  | sweepExpiredHolds => cases found; rfl
  | restoreOrderSeats => cases found; rfl

end SeatStatement

/-- What holds of the stage that a step leads to. -/
def Next.Sane (db : Db) (locks : LockTable) (session : Nat) (now : Time) :
    Next → Prop
  | .stage later => later.Sane db locks session now
  | .grant resource mode later =>
      later.Sane db ({ session, resource, mode } :: locks) session now
  | .ended => True

/-- The foreign-key check that comes next meets no hold of another user. -/
def Stage.RefersToOwn (db : Db) : Stage → Prop
  | .referencing order _ _ (item :: _) => Unclaimed db order item
  | _ => True

section Next

variable {hashtext : String → Int} {available : Resource → LockMode → Bool}
variable {db : Db} {locks : LockTable} {session : Nat} {now : Time}

/-- One more lock changes nothing about the session. -/
theorem Spares.of_grant (lock : Locks.Lock Nat Resource LockMode) :
    Spares session db locks db (lock :: locks) :=
  .of_locks fun _ held _ => List.mem_cons_of_mem lock held

theorem Stage.concluded_sane {statement : SeatStatement} {scan : Scan}
    (sane : (Stage.locking statement scan).Sane db locks session now) :
    (Stage.concluded statement scan).Sane db locks session now := by
  rw [Stage.concluded]
  cases found : statement.rows scan with
  | none => trivial
  | some rows =>
      rw [SeatStatement.rows_eq found]
      exact ⟨sane.1, sane.2.2⟩

theorem Stage.releasing_sane {order : Order} {within : Releasing}
    (ready : within.Ready db locks session order.userId) :
    (Stage.releasing order within).Sane db locks session now := by
  rw [Stage.releasing]
  split
  · exact ⟨ready, by simp⟩
  · exact ready

/-- The next stage relies on nothing that does not hold. -/
theorem Stage.next_sane {stage : Stage} {next : Next} (keyed : db.Keyed)
    (sane : stage.Sane db locks session now)
    (own : stage.RefersToOwn db)
    (taken : stage.next hashtext available now db = some next) :
    next.Sane db locks session now := by
  cases Stage.moves_of_next taken with
  | ended => trivial
  | claims => trivial
  | @confirms order pgTid member pending =>
      exact ⟨order, member, rfl, pending, List.mem_cons_self⟩
  | claimed => exact ⟨sane, claimedItems_orderId⟩
  | inserts => exact (Spares.of_grant _).sane sane
  | inserted => exact ⟨sane.1, sane.2, [], rfl, by simp⟩
  | @refers order pgTid items rest item =>
      obtain ⟨pending, ownItems, done, divided, refers⟩ := sane
      refine
        ⟨(Spares.of_grant _).pending pending, ownItems, done ++ [item],
          by simp [divided], ?_⟩
      intro other member
      rcases List.mem_append.mp member with old | new
      · exact (Spares.of_grant _).refers (refers other old)
      · rw [List.mem_singleton.mp new]
        exact ⟨List.mem_cons_self, own⟩
  | referred complete =>
      obtain ⟨pending, ownItems, done, divided, refers⟩ := sane
      rw [List.append_nil] at divided
      subst divided
      exact
        ⟨pending, fun item member =>
          ⟨ownItems item member, refers item member⟩⟩
  | @closes order status member pending =>
      exact Stage.releasing_sane ⟨order, member, rfl, rfl, List.mem_cons_self⟩
  | @refunds order total attempt member pending =>
      exact
        Stage.releasing_sane
          ⟨order, member, rfl, rfl, fun _ _ => List.mem_cons_self⟩
  | @refundsSettled order total attempt member settled =>
      exact
        Stage.releasing_sane
          ⟨order, member, rfl, rfl, fun _ pending => absurd pending settled⟩
  | @refundFails order total attempt member refused =>
      exact
        ⟨⟨order, member, rfl, rfl, fun approved => absurd approved refused⟩,
          by simp⟩
  | cancels => exact List.mem_cons_self
  | selects =>
      exact
        ⟨sane,
          SeatStatement.lists_mine keyed (SeatStatement.settling_of_ready sane),
          by simp [SeatStatement.scan]⟩
  | locks locks =>
      cases locks with
      | concluded => exact Stage.concluded_sane sane
      | skipped listed skips => exact sane
      | dropped listed => exact (Spares.of_grant _).sane sane
      | @taken row rest listed member meets =>
          obtain ⟨ready, lists, old⟩ := sane
          refine ⟨(Spares.of_grant _).ready ready, lists, ?_⟩
          intro other otherMember
          rcases List.mem_append.mp otherMember with before | new
          · exact (Spares.of_grant _).taken (old other before)
          · rw [List.mem_singleton.mp new]
            exact
              ⟨List.mem_cons_self, row, member, rfl,
                SeatStatement.suits_of_condition lists meets⟩

end Next

/-! ## Every step -/

/-- The transactions in progress do not disturb each other. -/
structure Server.Isolated (server : Server) : Prop where
  compatible : Locks.Compatible LockMode.conflicts server.locks
  started :
    ∀ session current, server.sessions session = some current →
      current.startedAt ≤ server.clock
  keyed : server.db.Keyed
  sane :
    ∀ session current, server.sessions session = some current →
      current.stage.Sane server.db server.locks session current.startedAt

namespace SeatStatement

variable {statement : SeatStatement} {db after : Db} {locks : LockTable}
variable {session : Nat} {now : Time} {rows : List Nat}

/-- An order is settled by the transaction that has locked it. -/
theorem locked_of_settles (keyed : db.Keyed)
    (settling : statement.Settling db locks session) {row : Order}
    (member : row ∈ db.orders) (settles : statement.settles row = true) :
    { session, resource := .order row.id, mode := .forNoKeyUpdate } ∈ locks := by
  cases statement with
  | holdSeats => cases settles
  | sweepExpiredHolds => cases settles
  | releaseHold scheduleId userId seatIds within =>
      cases within with
      | release => cases settles
      | closeUnpaid orderId status =>
          obtain ⟨other, -, -, -, locked⟩ := settling
          simp only [SeatStatement.settles, Bool.and_eq_true, beq_iff_eq]
            at settles
          rw [settles.1]
          exact locked
      | recordRefund order total attempt =>
          obtain ⟨other, otherMember, equal, -, locked⟩ := settling
          simp only [SeatStatement.settles, Bool.and_eq_true, beq_iff_eq]
            at settles
          obtain ⟨approved, same, pending⟩ := settles
          have unique : other = row :=
            keyed.orderUnique.eq otherMember member (equal.trans same.symm)
          rw [same]
          exact locked approved (by rw [unique]; exact pending)
  | bookOrderSeats order pgTid items =>
      obtain ⟨⟨-, -, -, -, locked⟩, -⟩ := settling
      simp only [SeatStatement.settles, beq_iff_eq] at settles
      rw [settles]
      exact locked
  | restoreOrderSeats cancellation attempt =>
      simp only [SeatStatement.settles, Bool.and_eq_true, beq_iff_eq]
        at settles
      rw [settles.1]
      exact settling

@[simp]
theorem change_id (row : ScheduleSeat) :
    (statement.change now row).id = row.id := by
  cases statement <;> rfl

/-- A statement that only locks against other updates leaves no hold behind. -/
theorem unheld_of_mode {row : ScheduleSeat} (mode : statement.mode = .forNoKeyUpdate) :
    statement.Suits now row → (statement.change now row).status ≠ .held := by
  cases statement with
  | holdSeats => cases mode
  | sweepExpiredHolds => cases mode
  | releaseHold => simp [change, free]
  | bookOrderSeats => simp [change, book]
  | restoreOrderSeats => simp [change, restore]

theorem mode_cases (statement : SeatStatement) :
    statement.mode = .forUpdate ∨ statement.mode = .forNoKeyUpdate := by
  cases statement <;> simp [mode]

/-- A row that another session has locked for an update is not written. -/
theorem Commits.rows_kept {change : Order → Order} {other : Nat}
    (commits : statement.Commits now rows change db after)
    (compatible : Locks.Compatible LockMode.conflicts locks)
    (taken : ∀ id ∈ rows, Taken db locks session now statement id)
    (different : other ≠ session) {row : ScheduleSeat}
    (member : row ∈ db.scheduleSeats) {mode : LockMode}
    (strong : mode ≠ .forKeyShare)
    (locked : { session := other, resource := .seat row.id, mode } ∈ locks) :
    row ∈ after.scheduleSeats := by
  rw [commits.scheduleSeats]
  refine mem_updateWhere_of_not member ?_
  by_contra written
  rw [Bool.not_eq_false, List.contains_iff_mem] at written
  obtain ⟨own, -⟩ := taken row.id written
  have conflict : mode.conflicts statement.mode = true := by
    rcases mode_cases statement with equal | equal <;> rw [equal] <;>
      cases mode <;> simp_all [LockMode.conflicts]
  exact different (compatible _ locked _ own rfl conflict)

/-- The rows and the orders that a commit changes are locked by its session. -/
theorem Commits.spares {change : Order → Order} {other : Nat}
    (commits : statement.Commits now rows change db after)
    (compatible : Locks.Compatible LockMode.conflicts locks)
    (keyed : db.Keyed) (settling : statement.Settling db locks session)
    (taken : ∀ id ∈ rows, Taken db locks session now statement id)
    (different : other ≠ session) :
    Spares other db locks after (Locks.release locks session) where
  keeps := by
    intro lock held own
    rw [Locks.mem_release, own]
    exact ⟨held, different⟩
  rows := fun _ member _ strong locked =>
    commits.rows_kept compatible taken different member strong locked
  referred := by
    intro row member locked held
    rw [commits.scheduleSeats] at member
    obtain ⟨old, oldMember, ⟨written, rfl⟩ | ⟨-, rfl⟩⟩ :=
      mem_updateWhere.mp member
    · rw [List.contains_iff_mem] at written
      rw [change_id] at locked
      obtain ⟨own, suited, suitedMember, equal, suits⟩ := taken old.id written
      have same : suited = old :=
        keyed.rowUnique.eq suitedMember oldMember equal
      rcases mode_cases statement with mode | mode
      · rw [mode] at own
        exact absurd (compatible _ locked _ own rfl rfl) different
      · exact absurd held (unheld_of_mode mode (same ▸ suits))
    · exact oldMember
  orders := by
    intro row member locked
    refine commits.untouched member ?_
    by_contra settles
    rw [Bool.not_eq_false] at settles
    exact
      different
        (compatible _ locked _ (locked_of_settles keyed settling member settles)
          rfl rfl)
  settled := by
    intro row member
    rw [commits.orders]
    cases touched : statement.settles row with
    | true =>
        exact
          ⟨_, mem_updateWhere_of member touched, commits.head row,
            commits.settled row touched⟩
    | false =>
        exact
          ⟨row, mem_updateWhere_of_not member touched, rfl, fun settled => settled⟩

/-- A commit keeps the keys, and gives items to settled orders only. -/
theorem Commits.keyed_after {change : Order → Order}
    (commits : statement.Commits now rows change db after)
    (keyed : db.Keyed) (settling : statement.Settling db locks session) :
    after.Keyed := by
  have ids : after.orders.map Order.id = db.orders.map Order.id := by
    have heads := congrArg (List.map Order.id) commits.map_head
    rw [List.map_map, List.map_map] at heads
    exact heads
  have bound : after.orders.length = db.orders.length := by
    have lengths := congrArg List.length ids
    rwa [List.length_map, List.length_map] at lengths
  constructor
  case rowUnique =>
    rw [commits.scheduleSeats]
    exact keyed.rowUnique.updateWhere fun row => change_id row
  case orderUnique =>
    rw [Table.Unique, ids]
    exact keyed.orderUnique
  case orderBound =>
    intro order member
    have listed : order.id ∈ db.orders.map Order.id := by
      rw [← ids]
      exact List.mem_map_of_mem member
    obtain ⟨old, oldMember, equal⟩ := List.mem_map.mp listed
    rw [bound, ← equal]
    exact keyed.orderBound old oldMember
  case settled =>
    intro item member
    rw [commits.orderItems] at member
    rcases List.mem_append.mp member with old | new
    · obtain ⟨order, orderMember, owns, settled⟩ := keyed.settled item old
      obtain ⟨later, laterMember, head, still⟩ :=
        commits.settled_after orderMember settled
      exact ⟨later, laterMember, (Order.id_of_head head).trans owns, still⟩
    · cases statement with
      | bookOrderSeats order pgTid items =>
          obtain ⟨⟨row, rowMember, head, pending, -⟩, own⟩ := settling
          have sameId := Order.id_of_head head
          refine ⟨change row, ?_, ?_, ?_⟩
          · rw [commits.orders]
            exact
              mem_updateWhere_of rowMember
                (by simp [SeatStatement.settles, sameId])
          · rw [Order.id_of_head (commits.head row), sameId, own item new]
          · rw [commits.paid order pgTid items rfl row pending]
            decide
      | holdSeats => cases new
      | sweepExpiredHolds => cases new
      | releaseHold => cases new
      | restoreOrderSeats => cases new

end SeatStatement

/-! ### New orders -/

section Opened

variable {request : PlaceRequest} {order : Order} {db after : Db} {now : Time}

/-- A new order disturbs nobody. -/
theorem Opened.spares (opened : Opened request now db order after)
    (session : Nat) (locks : LockTable) :
    Spares session db locks after locks := by
  have equal := opened.after_eq
  subst equal
  exact
    { keeps := fun _ held _ => held
      rows := fun _ member _ _ _ => member
      referred := fun _ member _ _ => member
      orders := fun _ member _ => List.mem_append_left _ member
      settled := fun row member =>
        ⟨row, List.mem_append_left _ member, rfl, fun settled => settled⟩ }

theorem Db.Keyed.opened (keyed : db.Keyed)
    (opened : Opened request now db order after) :
    after.Keyed := by
  have equal := opened.after_eq
  have newId := opened.id_eq
  have older : ∀ old ∈ db.orders, old.id ≠ order.id :=
    fun old member => (opened.older keyed.orderBound member).ne
  subst equal
  refine
    { rowUnique := keyed.rowUnique
      orderUnique := unique_append_singleton.mpr ⟨keyed.orderUnique, older⟩
      orderBound := ?_
      settled := ?_ }
  · intro row member
    rw [List.length_append, List.length_singleton]
    rcases List.mem_append.mp member with old | new
    · have bound := keyed.orderBound row old
      omega
    · rw [List.mem_singleton.mp new, newId]
  · intro item member
    obtain ⟨owner, ownerMember, settled⟩ := keyed.settled item member
    exact ⟨owner, List.mem_append_left _ ownerMember, settled⟩

end Opened

/-! ### Sessions -/

namespace Server

/-- No foreign-key check passes a row that another user holds by then. -/
def RefersToOwn (server : Server) : Action → Prop
  | .advance session =>
      ∀ current ∈ server.sessions session, current.stage.RefersToOwn server.db
  | _ => True

section Sessions

variable {server : Server} {session : Nat} {current : Session}
variable {before after : Nat → Session → Prop}

/-- What holds of every session when one has ended. -/
theorem each_finish
    (each :
      ∀ other running, server.sessions other = some running →
        before other running)
    (kept :
      ∀ other running, other ≠ session → before other running →
        after other running) :
    ∀ other running, (server.finish session).sessions other = some running →
      after other running := by
  intro other running found
  by_cases same : other = session
  · simp [Server.finish, same] at found
  · refine kept other running same (each other running ?_)
    simpa [Server.finish, same] using found

/-- What holds of every session when one has gone on. -/
theorem each_put
    (each :
      ∀ other running, server.sessions other = some running →
        before other running)
    (own : after session current)
    (kept :
      ∀ other running, before other running → after other running) :
    ∀ other running,
      (server.put session current).sessions other = some running →
        after other running := by
  intro other running found
  by_cases same : other = session
  · subst same
    simp only [Server.put, Function.update_self, Option.some.injEq] at found
    subst found
    exact own
  · refine kept other running (each other running ?_)
    simpa [Server.put, same] using found

/-- The end of a session takes no lock from the others. -/
theorem mem_release_of_ne {locks : LockTable} {other : Nat}
    (different : other ≠ session) :
    ∀ lock ∈ locks, lock.session = other →
      lock ∈ Locks.release locks session := by
  intro lock held own
  exact Locks.mem_release.mpr ⟨held, by rw [own]; exact different⟩

end Sessions

namespace Isolated

variable {hashtext : String → Int} {server next : Server} {session : Nat}
variable {current : Session}

theorem initial
    (inventory : Inventory) (startsAt : Nat → Policy.Datetime) (clock : Time) :
    (Server.initial inventory startsAt clock).Isolated where
  compatible := .nil
  started := by simp [Server.initial]
  keyed :=
    { rowUnique := inventory.idUnique
      orderUnique := by simp [Server.initial, World.initial, Table.Unique]
      orderBound := by simp [Server.initial, World.initial]
      settled := by simp [Server.initial, World.initial] }
  sane := by simp [Server.initial]

/-- The end of a session that has written nothing. -/
theorem finish (isolated : server.Isolated) (session : Nat) :
    (server.finish session).Isolated where
  compatible := isolated.compatible.release session
  started := each_finish isolated.started fun _ _ _ started => started
  keyed := isolated.keyed
  sane :=
    each_finish isolated.sane fun _ _ different sane =>
      (Spares.of_locks (mem_release_of_ne different)).sane sane

/-- A session goes on to a stage that relies on nothing that does not hold. -/
theorem put (isolated : server.Isolated) (session : Nat) (current : Session)
    (started : current.startedAt ≤ server.clock) {locks : LockTable}
    (compatible : Locks.Compatible LockMode.conflicts locks)
    (kept : ∀ lock ∈ server.locks, lock ∈ locks)
    (sane : current.stage.Sane server.db locks session current.startedAt) :
    ({ server.put session current with locks } : Server).Isolated where
  compatible := compatible
  started := each_put isolated.started started fun _ _ started => started
  keyed := isolated.keyed
  sane :=
    each_put isolated.sane sane fun _ _ sane =>
      (Spares.of_locks fun lock held _ => kept lock held).sane sane

theorem openOrder (isolated : server.Isolated) {request : PlaceRequest}
    {order : Order} {after : Db}
    (opened : Opened request server.clock server.db order after) :
    ({ server with db := after } : Server).Isolated where
  compatible := isolated.compatible
  started := isolated.started
  keyed := isolated.keyed.opened opened
  sane := fun session current found =>
    (opened.spares session server.locks).sane
      (isolated.sane session current found)

/-- The commit of a session that has locked what it writes. -/
theorem commit (isolated : server.Isolated)
    (found : server.sessions session = some current)
    {statement : SeatStatement} {rows : List Nat}
    (writing : current.stage = .writing statement rows)
    {change : Order → Order} {after : Db}
    (commits :
      statement.Commits current.startedAt rows change server.db after) :
    ({ server.finish session with db := after } : Server).Isolated := by
  have sane := isolated.sane session current found
  rw [writing] at sane
  have settling := SeatStatement.settling_of_ready sane.1
  have finished := isolated.finish session
  exact
    { compatible := finished.compatible
      started := finished.started
      keyed := commits.keyed_after isolated.keyed settling
      sane :=
        each_finish isolated.sane fun _ _ different others =>
          (commits.spares isolated.compatible isolated.keyed settling sane.2
            different).sane others }

/-- Every step whose foreign-key check meets no other user's hold. -/
theorem step (isolated : server.Isolated) {action : Action}
    (own : server.RefersToOwn action)
    (taken : server.step hashtext action = some next) :
    next.Isolated := by
  have sane {session : Nat} {current : Session} {later : Next}
      (found : server.sessions session = some current)
      (own : server.RefersToOwn (.advance session))
      (next :
        current.stage.next hashtext (server.available session)
          current.startedAt server.db = some later) :
      later.Sane server.db server.locks session current.startedAt :=
    Stage.next_sane isolated.keyed (isolated.sane session current found)
      (own current found) next
  cases steps_of_step taken with
  | tick elapsed =>
      refine { isolated with started := ?_ }
      intro session current found
      have before := isolated.started session current found
      exact before.trans (Int.le_add_of_nonneg_right (Int.natCast_nonneg elapsed))
  | opened opened => exact isolated.openOrder opened
  | @begun session work idle admissible =>
      refine
        isolated.put session { startedAt := server.clock, stage := work.first }
          le_rfl isolated.compatible (fun _ held => held) ?_
      cases work <;> trivial
  | @passed session current stage found next =>
      exact
        isolated.put session { current with stage }
          (isolated.started session current found) isolated.compatible
          (fun _ held => held) (sane found own next)
  | @granted session current resource mode stage found next free =>
      exact
        isolated.put session { current with stage }
          (isolated.started session current found)
          (isolated.compatible.grant LockMode.conflicts_comm free)
          (fun lock held => List.mem_cons_of_mem _ held) (sane found own next)
  | ended found next => exact isolated.finish _
  | committed found writing ok =>
      obtain ⟨change, commits⟩ := SeatStatement.commits_of_commit ok
      exact isolated.commit found writing commits
  | failed found writing raised => exact isolated.finish _
  | rolledBack found => exact isolated.finish _

end Isolated

end Server

end Curtain
